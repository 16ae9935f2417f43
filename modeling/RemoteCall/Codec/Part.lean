import RemoteCall.Value

/-! The wire form of values: tags, elementary parts, and the image that they make up. -/

namespace RemoteCall

/-- The version of the wire form, which opens every message and every frame. -/
def wireVersion : UInt8 := 1

/-- The octet that opens a value and tells its shape. -/
inductive Tag where
  | null
  | false
  | true
  | int
  | word
  | float
  | string
  | bytes
  | list
  | array
  | map
  | object
  deriving DecidableEq, Repr

namespace Tag

/-- The octet of a tag. -/
def toByte : Tag → UInt8
  | .null => 0x00
  | .false => 0x01
  | .true => 0x02
  | .int => 0x03
  | .word => 0x04
  | .float => 0x05
  | .string => 0x06
  | .bytes => 0x07
  | .list => 0x08
  | .array => 0x09
  | .map => 0x0A
  | .object => 0x0B

/-- The tag that an octet stands for. -/
def ofByte? (byte : UInt8) : Option Tag :=
  match byte.toNat with
  | 0x00 => some .null
  | 0x01 => some .false
  | 0x02 => some .true
  | 0x03 => some .int
  | 0x04 => some .word
  | 0x05 => some .float
  | 0x06 => some .string
  | 0x07 => some .bytes
  | 0x08 => some .list
  | 0x09 => some .array
  | 0x0A => some .map
  | 0x0B => some .object
  | _ => none

@[simp] theorem ofByte?_toByte (tag : Tag) : ofByte? tag.toByte = some tag := by
  cases tag <;> rfl

end Tag

/-- An elementary part of an encoding. -/
inductive Part where
  /-- A container is entered inside so many others. -/
  | enter (depth : Nat)
  /-- Bytes go out as they are. -/
  | raw (data : Bytes)
  /-- A length or a count goes out in four octets. -/
  | length (count : Nat)
  deriving DecidableEq, Repr

namespace Part

/-- The bytes that a part puts on the wire. -/
def image : Part → Bytes
  | .enter _ => []
  | .raw data => data
  | .length count => Bytes.ofNatBE 4 count

/-- A tag on its own. -/
def ofTag (tag : Tag) : Part := .raw [tag.toByte]

/-- A string goes out after its length in octets. -/
def ofString (text : String) : List Part :=
  let data := Bytes.ofString text
  [.length data.length, .raw data]

end Part

namespace Value

mutual

/-- The parts of a value that lies inside so many containers, in the order in which they go out. -/
def parts (depth : Nat) : Value → List Part
  | .null => [.ofTag .null]
  | .bool false => [.ofTag .false]
  | .bool true => [.ofTag .true]
  | .int number => [.ofTag .int, .raw (Bytes.ofNatBE 8 number.toUInt64.toNat)]
  | .word number => [.ofTag .word, .raw (Bytes.ofNatBE 8 number.toNat)]
  | .float number => [.ofTag .float, .raw (Bytes.ofNatBE 8 number.bits.toNat)]
  | .string text => .ofTag .string :: Part.ofString text
  | .bytes data => [.ofTag .bytes, .length data.length, .raw data]
  | .list items => .enter depth :: .ofTag .list :: .length items.length :: partsOfItems depth items
  | .array elementType items =>
    .enter depth :: .ofTag .array
      :: (Part.ofString elementType ++ .length items.length :: partsOfItems depth items)
  | .map entries =>
    .enter depth :: .ofTag .map :: .length entries.length :: partsOfEntries depth entries
  | .object typeName fields =>
    .enter depth :: .ofTag .object
      :: (Part.ofString typeName ++ .length fields.length :: partsOfEntries depth fields)

/-- The parts of the items of a container. -/
def partsOfItems (depth : Nat) : List Value → List Part
  | [] => []
  | item :: items => item.parts (depth + 1) ++ partsOfItems depth items

/-- The parts of the entries of a container, each key before its value. -/
def partsOfEntries (depth : Nat) : List (String × Value) → List Part
  | [] => []
  | (key, value) :: entries =>
    Part.ofString key ++ (value.parts (depth + 1) ++ partsOfEntries depth entries)

end

/-- A message: the version and the parts of a value that lies in no container. -/
def messageParts (value : Value) : List Part :=
  .raw [wireVersion] :: value.parts 0

/-- The bytes of a message, regardless of any ceiling. -/
def image (value : Value) : Bytes :=
  (value.messageParts.map Part.image).flatten

end Value

end RemoteCall
