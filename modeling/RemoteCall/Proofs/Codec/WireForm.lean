import RemoteCall.Proofs.Codec.Admission

/-! The wire form of values by their grammar, the lengths in it, and how deep it nests. -/

namespace RemoteCall

namespace Value

/-- A string in the grammar: its length in octets, and then the octets. -/
def wireOfString (text : String) : Bytes :=
  -- The length is that of the octets, of which a character may need several.
  Bytes.ofNatBE 4 (Bytes.ofString text).length ++ Bytes.ofString text

mutual

/-- A value in the grammar: the octet of its tag, and then what its shape calls for. -/
def wire : Value → Bytes
  | .null => [0x00]
  | .bool false => [0x01]
  | .bool true => [0x02]
  | .int number => 0x03 :: Bytes.ofNatBE 8 number.toUInt64.toNat
  | .word number => 0x04 :: Bytes.ofNatBE 8 number.toNat
  | .float number => 0x05 :: Bytes.ofNatBE 8 number.bits.toNat
  | .string text => 0x06 :: wireOfString text
  | .bytes data => 0x07 :: (Bytes.ofNatBE 4 data.length ++ data)
  | .list items => 0x08 :: (Bytes.ofNatBE 4 items.length ++ wireOfItems items)
  | .array elementType items =>
    0x09 :: (wireOfString elementType ++ (Bytes.ofNatBE 4 items.length ++ wireOfItems items))
  | .map entries => 0x0A :: (Bytes.ofNatBE 4 entries.length ++ wireOfEntries entries)
  | .object typeName fields =>
    0x0B :: (wireOfString typeName ++ (Bytes.ofNatBE 4 fields.length ++ wireOfEntries fields))

/-- Items in the grammar, one after the other. -/
def wireOfItems : List Value → Bytes
  | [] => []
  | item :: items => item.wire ++ wireOfItems items

/-- Entries in the grammar, each key before its value. -/
def wireOfEntries : List (String × Value) → Bytes
  | [] => []
  | (key, value) :: entries => wireOfString key ++ (value.wire ++ wireOfEntries entries)

end

/-- A message in the grammar: the version, and then a value. -/
def wireImage (value : Value) : Bytes := wireVersion :: value.wire

mutual

/-- Every length of a string or of bytes, and every count of items or entries, in a value. -/
def lengths : Value → List Nat
  | .string text => [(Bytes.ofString text).length]
  | .bytes data => [data.length]
  | .list items => items.length :: lengthsOfItems items
  | .array elementType items =>
    (Bytes.ofString elementType).length :: items.length :: lengthsOfItems items
  | .map entries => entries.length :: lengthsOfEntries entries
  | .object typeName fields =>
    (Bytes.ofString typeName).length :: fields.length :: lengthsOfEntries fields
  | _ => []

/-- The lengths in items. -/
def lengthsOfItems : List Value → List Nat
  | [] => []
  | item :: items => item.lengths ++ lengthsOfItems items

/-- The lengths in entries, those of the keys included. -/
def lengthsOfEntries : List (String × Value) → List Nat
  | [] => []
  | (key, value) :: entries =>
    (Bytes.ofString key).length :: (value.lengths ++ lengthsOfEntries entries)

end

mutual

/-- How many containers lie inside one another, at most. -/
def nesting : Value → Nat
  | .list items | .array _ items => nestingOfItems items + 1
  | .map entries | .object _ entries => nestingOfEntries entries + 1
  | _ => 0

/-- How deep the deepest of some items nests. -/
def nestingOfItems : List Value → Nat
  | [] => 0
  | item :: items => max item.nesting (nestingOfItems items)

/-- How deep the deepest value of some entries nests. -/
def nestingOfEntries : List (String × Value) → Nat
  | [] => 0
  | (_, value) :: entries => max value.nesting (nestingOfEntries entries)

end

/-! The parts that an encoder writes spell the grammar. -/

/-- A string goes out as the grammar has it. -/
theorem images_ofString (text : String) : Part.images (Part.ofString text) = wireOfString text := by
  simp [Part.ofString, Part.image, wireOfString]

mutual

/-- However deep it lies, a value goes out as the grammar has it. -/
theorem images_parts (depth : Nat) : (value : Value) → Part.images (value.parts depth) = value.wire
  | .null | .bool false | .bool true | .int _ | .word _ | .float _ => rfl
  | .string text => by
    simp [parts, wire, Part.ofTag, Part.image, Tag.toByte, images_ofString]
  | .bytes data => by
    simp [parts, wire, Part.ofTag, Part.image, Tag.toByte]
  -- Entering a container puts nothing on the wire.
  | .list items => by
    simp [parts, wire, Part.ofTag, Part.image, Tag.toByte, images_partsOfItems depth items]
  | .array elementType items => by
    simp [parts, wire, Part.ofTag, Part.image, Tag.toByte, images_ofString,
      images_partsOfItems depth items]
  | .map entries => by
    simp [parts, wire, Part.ofTag, Part.image, Tag.toByte, images_partsOfEntries depth entries]
  | .object typeName fields => by
    simp [parts, wire, Part.ofTag, Part.image, Tag.toByte, images_ofString,
      images_partsOfEntries depth fields]

/-- Items go out as the grammar has them. -/
theorem images_partsOfItems (depth : Nat) :
    (items : List Value) → Part.images (partsOfItems depth items) = wireOfItems items
  | [] => rfl
  | item :: items => by
    simp [partsOfItems, wireOfItems, images_parts (depth + 1) item,
      images_partsOfItems depth items]

/-- Entries go out as the grammar has them. -/
theorem images_partsOfEntries (depth : Nat) : (entries : List (String × Value)) →
    Part.images (partsOfEntries depth entries) = wireOfEntries entries
  | [] => rfl
  | (key, value) :: entries => by
    simp [partsOfEntries, wireOfEntries, images_ofString, images_parts (depth + 1) value,
      images_partsOfEntries depth entries]

end

/-- A message goes out as the grammar has it. -/
theorem image_eq_wireImage (value : Value) : value.image = value.wireImage := by
  have spelled := images_parts 0 value
  simp [image, wireImage, messageParts, Part.image, ← spelled, Part.images]

mutual

/-- The lengths that an encoder writes are those that occur in the value. -/
theorem length_mem_parts (depth count : Nat) :
    (value : Value) → (.length count ∈ value.parts depth ↔ count ∈ value.lengths)
  | .null | .bool false | .bool true | .int _ | .word _ | .float _ => by
    simp [parts, lengths, Part.ofTag]
  | .string _ | .bytes _ => by
    simp [parts, lengths, Part.ofTag, Part.ofString]
  | .list items | .array _ items => by
    simp [parts, lengths, Part.ofTag, Part.ofString, length_mem_partsOfItems depth count items]
  | .map entries | .object _ entries => by
    simp [parts, lengths, Part.ofTag, Part.ofString, length_mem_partsOfEntries depth count entries]

/-- The lengths that an encoder writes for items are those that occur in them. -/
theorem length_mem_partsOfItems (depth count : Nat) : (items : List Value) →
    (.length count ∈ partsOfItems depth items ↔ count ∈ lengthsOfItems items)
  | [] => by simp [partsOfItems, lengthsOfItems]
  | item :: items => by
    simp [partsOfItems, lengthsOfItems, length_mem_parts (depth + 1) count item,
      length_mem_partsOfItems depth count items]

/-- The lengths that an encoder writes for entries are those that occur in them. -/
theorem length_mem_partsOfEntries (depth count : Nat) : (entries : List (String × Value)) →
    (.length count ∈ partsOfEntries depth entries ↔ count ∈ lengthsOfEntries entries)
  | [] => by simp [partsOfEntries, lengthsOfEntries]
  | (key, value) :: entries => by
    simp [partsOfEntries, lengthsOfEntries, Part.ofString,
      length_mem_parts (depth + 1) count value, length_mem_partsOfEntries depth count entries]

end

mutual

/-- Containers are entered at every depth from that of the value on, as far as it nests. -/
theorem enter_mem_parts (depth level : Nat) : (value : Value) →
    (.enter level ∈ value.parts depth ↔ depth ≤ level ∧ level < depth + value.nesting)
  | .null | .bool false | .bool true | .int _ | .word _ | .float _ | .string _ | .bytes _ => by
    simp [parts, nesting, Part.ofTag, Part.ofString]
  | .list items | .array _ items => by
    simp [parts, nesting, Part.ofTag, Part.ofString, enter_mem_partsOfItems depth level items]
    omega
  | .map entries | .object _ entries => by
    simp [parts, nesting, Part.ofTag, Part.ofString, enter_mem_partsOfEntries depth level entries]
    omega

/-- The containers in items are entered from one level below on. -/
theorem enter_mem_partsOfItems (depth level : Nat) : (items : List Value) →
    (.enter level ∈ partsOfItems depth items ↔
      depth < level ∧ level ≤ depth + nestingOfItems items)
  | [] => by
    simp [partsOfItems, nestingOfItems]
  | item :: items => by
    simp [partsOfItems, nestingOfItems, enter_mem_parts (depth + 1) level item,
      enter_mem_partsOfItems depth level items]
    omega

/-- The containers in entries are entered from one level below on. -/
theorem enter_mem_partsOfEntries (depth level : Nat) : (entries : List (String × Value)) →
    (.enter level ∈ partsOfEntries depth entries ↔
      depth < level ∧ level ≤ depth + nestingOfEntries entries)
  | [] => by
    simp [partsOfEntries, nestingOfEntries]
  | (key, value) :: entries => by
    simp [partsOfEntries, nestingOfEntries, Part.ofString, enter_mem_parts (depth + 1) level value,
      enter_mem_partsOfEntries depth level entries]
    omega

end

/-! Lengths, counts and nesting are no greater than the wire form that they occur in. -/

/-- A value is at least its tag. -/
theorem wire_length_pos (value : Value) : 0 < value.wire.length := by
  cases value with
  | bool flag => cases flag <;> simp [wire]
  | _ => simp [wire]

/-- An item takes up at least one byte. -/
theorem length_le_wireOfItems (items : List Value) : items.length ≤ (wireOfItems items).length := by
  induction items with
  | nil => simp
  | cons item items ih =>
    have tag := wire_length_pos item
    simp only [wireOfItems, List.length_cons, List.length_append]
    omega

/-- An entry takes up at least one byte. -/
theorem length_le_wireOfEntries (entries : List (String × Value)) :
    entries.length ≤ (wireOfEntries entries).length := by
  induction entries with
  | nil => simp
  | cons entry entries ih =>
    have tag := wire_length_pos entry.2
    simp only [wireOfEntries, List.length_cons, List.length_append]
    omega

mutual

/-- No length or count is greater than the value that it occurs in. -/
theorem le_wire_of_mem_lengths {count : Nat} :
    (value : Value) → count ∈ value.lengths → count ≤ value.wire.length
  | .string _, member | .bytes _, member => by
    simp only [lengths, List.mem_singleton] at member
    simp only [wire, wireOfString, List.length_cons, List.length_append]
    omega
  | .list items, member => by
    simp only [lengths, List.mem_cons] at member
    simp only [wire, List.length_cons, List.length_append]
    exact Nat.le_succ_of_le (Nat.le_add_left_of_le (le_wireOfItems_of_counted items member))
  | .array elementType items, member => by
    simp only [lengths, List.mem_cons] at member
    simp only [wire, wireOfString, List.length_cons, List.length_append]
    rcases member with rfl | member
    · omega
    · have inside := le_wireOfItems_of_counted items member
      omega
  | .map entries, member => by
    simp only [lengths, List.mem_cons] at member
    simp only [wire, List.length_cons, List.length_append]
    exact Nat.le_succ_of_le (Nat.le_add_left_of_le (le_wireOfEntries_of_counted entries member))
  | .object typeName fields, member => by
    simp only [lengths, List.mem_cons] at member
    simp only [wire, wireOfString, List.length_cons, List.length_append]
    rcases member with rfl | member
    · omega
    · have inside := le_wireOfEntries_of_counted fields member
      omega

/-- Neither the count of items nor any length in them is greater than they are long. -/
theorem le_wireOfItems_of_counted {count : Nat} : (items : List Value) →
    count = items.length ∨ count ∈ lengthsOfItems items → count ≤ (wireOfItems items).length
  | items, .inl same => same ▸ length_le_wireOfItems items
  | item :: items, .inr member => by
    simp only [lengthsOfItems, List.mem_append] at member
    simp only [wireOfItems, List.length_append]
    rcases member with member | member
    · exact Nat.le_add_right_of_le (le_wire_of_mem_lengths item member)
    · exact Nat.le_add_left_of_le (le_wireOfItems_of_counted items (.inr member))

/-- Neither the count of entries nor any length in them is greater than they are long. -/
theorem le_wireOfEntries_of_counted {count : Nat} : (entries : List (String × Value)) →
    count = entries.length ∨ count ∈ lengthsOfEntries entries →
      count ≤ (wireOfEntries entries).length
  | entries, .inl same => same ▸ length_le_wireOfEntries entries
  | (key, value) :: entries, .inr member => by
    simp only [lengthsOfEntries, List.mem_cons, List.mem_append] at member
    simp only [wireOfEntries, wireOfString, List.length_append]
    rcases member with rfl | member | member
    · omega
    · have first := le_wire_of_mem_lengths value member
      omega
    · have others := le_wireOfEntries_of_counted entries (.inr member)
      omega

end

mutual

/-- Every container takes up at least one byte of those around it. -/
theorem nesting_le_wire : (value : Value) → value.nesting ≤ value.wire.length
  | .null | .bool _ | .int _ | .word _ | .float _ | .string _ | .bytes _ => Nat.zero_le _
  | .list items | .array _ items => by
    have inside := nestingOfItems_le_wire items
    simp [nesting, wire]
    omega
  | .map entries | .object _ entries => by
    have inside := nestingOfEntries_le_wire entries
    simp [nesting, wire]
    omega

/-- Items nest no deeper than they are long. -/
theorem nestingOfItems_le_wire :
    (items : List Value) → nestingOfItems items ≤ (wireOfItems items).length
  | [] => Nat.zero_le _
  | item :: items => by
    have first := nesting_le_wire item
    have others := nestingOfItems_le_wire items
    simp only [nestingOfItems, wireOfItems, List.length_append]
    omega

/-- Entries nest no deeper than they are long. -/
theorem nestingOfEntries_le_wire :
    (entries : List (String × Value)) → nestingOfEntries entries ≤ (wireOfEntries entries).length
  | [] => Nat.zero_le _
  | (key, value) :: entries => by
    have first := nesting_le_wire value
    have others := nestingOfEntries_le_wire entries
    simp only [nestingOfEntries, wireOfEntries, List.length_append]
    omega

end

end Value

end RemoteCall
