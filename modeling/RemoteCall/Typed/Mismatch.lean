import RemoteCall.Number.Decimal
import RemoteCall.Text.Quoted

/-! How untyped data can fail to be of a type. -/

namespace RemoteCall

/-- What a reader of typed data found where it expected something else. -/
inductive Found where
  | null
  | boolean (flag : Bool)
  | integer (number : Int)
  | float (number : Double)
  | string (text : String)
  | sequence
  | map
  deriving DecidableEq, Repr

/-- A found value in words; the layout is that of its format's floating-point numbers. -/
def Found.describe (layout : DecimalLayout) : Found → String
  | .null => "null"
  | .boolean flag => s!"boolean `{flag}`"
  | .integer number => s!"integer `{number}`"
  | .float number => s!"floating point `{layout.write number}`"
  | .string text => "string " ++ quoted text
  | .sequence => "sequence"
  | .map => "map"

/-- A disagreement between untyped data and the type it is read as. -/
inductive Mismatch where
  /-- A value of another kind than the type's. -/
  | wrongType (found : Found) (expected : String)
  /-- An integer that the type cannot hold. -/
  | outOfRange (number : Int) (expected : String)
  /-- A field that the data lacks and the type requires. -/
  | missingField (name : String)
  /-- A sequence with fewer elements than the record has fields. -/
  | tooFewElements (length : Nat) (record : String) (arity : Nat)
  /-- A sequence with more elements than the record has fields. -/
  | tooManyElements (length : Nat)
  deriving DecidableEq, Repr

/-- The text of a mismatch. -/
def Mismatch.message (layout : DecimalLayout) : Mismatch → String
  | .wrongType found expected => s!"invalid type: {found.describe layout}, expected {expected}"
  | .outOfRange number expected => s!"invalid value: integer `{number}`, expected {expected}"
  | .missingField name => s!"missing field `{name}`"
  | .tooFewElements length record arity =>
    let noun := if arity = 1 then "element" else "elements"
    s!"invalid length {length}, expected struct {record} with {arity} {noun}"
  | .tooManyElements length => s!"invalid length {length}, expected fewer elements in array"

end RemoteCall
