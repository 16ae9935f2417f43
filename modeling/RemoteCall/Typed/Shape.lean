import RemoteCall.Number.Binary

/-! The shapes that typed data can have, the data of each shape, and its name on the wire. -/

namespace RemoteCall

/-- An integer type of fixed width. -/
inductive IntegerKind where
  | i8
  | i16
  | i32
  | i64
  | u16
  | u32
  | u64
  deriving DecidableEq, Repr

namespace IntegerKind

/-- The name of an integer type. -/
def name : IntegerKind → String
  | .i8 => "i8"
  | .i16 => "i16"
  | .i32 => "i32"
  | .i64 => "i64"
  | .u16 => "u16"
  | .u32 => "u32"
  | .u64 => "u64"

/-- The least integer of a type. -/
def least : IntegerKind → Int
  | .i8 => -128
  | .i16 => -32768
  | .i32 => -2147483648
  | .i64 => -9223372036854775808
  | .u16 | .u32 | .u64 => 0

/-- The greatest integer of a type. -/
def greatest : IntegerKind → Int
  | .i8 => 127
  | .i16 => 32767
  | .i32 => 2147483647
  | .i64 => 9223372036854775807
  | .u16 => 65535
  | .u32 => 4294967295
  | .u64 => 18446744073709551615

/-- Whether an integer is of a type. -/
def Holds (kind : IntegerKind) (number : Int) : Prop :=
  kind.least ≤ number ∧ number ≤ kind.greatest

instance (kind : IntegerKind) (number : Int) : Decidable (kind.Holds number) :=
  inferInstanceAs (Decidable (_ ∧ _))

/-- The integer of a type that is left of any integer when its upper bits are dropped. -/
def wrap (kind : IntegerKind) (number : Int) : { number : Int // kind.Holds number } :=
  ⟨kind.least + (number - kind.least) % (kind.greatest - kind.least + 1), by
    cases kind <;> simp [Holds, least, greatest] <;> omega⟩

end IntegerKind

/-- The shape of typed data. -/
inductive Shape where
  | unit
  | bool
  | integer (kind : IntegerKind)
  | single
  | double
  | string
  | list (element : Shape)
  | option (inner : Shape)
  /-- Named fields; the name is what mismatches call the record, the other its name on the wire. -/
  | record (name wireName : String) (fields : List (String × Shape))
  /-- Another name on the wire for data of some shape. -/
  | renamed (wireName : String) (inner : Shape)
  deriving Inhabited, Repr

namespace Shape

mutual

/-- The data of a shape. -/
def Data : Shape → Type
  | .unit => Unit
  | .bool => Bool
  | .integer kind => { number : Int // kind.Holds number }
  | .single => Single
  | .double => Double
  | .string => String
  | .list element => List element.Data
  | .option inner => Option inner.Data
  | .record _ _ fields => FieldData fields
  | .renamed _ inner => inner.Data

/-- Data for each field, in the order of their declaration. -/
def FieldData : List (String × Shape) → Type
  | [] => Unit
  | (_, shape) :: fields => shape.Data × FieldData fields

end

/-- The name of a shape on the wire. -/
def wireName : Shape → String
  | .unit => "void"
  | .bool => "bool"
  | .integer kind => kind.name
  | .single => "f32"
  | .double => "f64"
  | .string => "string"
  | .list element => element.wireName ++ "[]"
  | .option inner => inner.wireName
  | .record _ wireName _ | .renamed wireName _ => wireName

/-- The name of the elements of a list, which may be absent as a whole. -/
def elementType? : Shape → Option String
  | .list element => some element.wireName
  | .option inner => inner.elementType?
  | _ => none

end Shape

end RemoteCall
