import RemoteCall.Bytes
import RemoteCall.Failure

/-! Self-describing values, the form of everything that crosses the wire. -/

namespace RemoteCall

/-- A self-describing value. -/
inductive Value where
  | null
  | bool (flag : Bool)
  /-- A signed integer. -/
  | int (number : Int64)
  /-- An unsigned integer. -/
  | word (number : UInt64)
  | float (number : Double)
  | string (text : String)
  | bytes (data : Bytes)
  /-- Ordered items of no particular type. -/
  | list (items : List Value)
  /-- Ordered items whose type is known. -/
  | array (elementType : String) (items : List Value)
  /-- Keyed entries in the order they were given, repeated keys included. -/
  | map (entries : List (String × Value))
  /-- Named fields under the name of their type. -/
  | object (typeName : String) (fields : List (String × Value))
  deriving Inhabited, Repr

namespace Value

/-- A string, or null in its absence. -/
def ofString? : Option String → Value
  | some text => .string text
  | none => .null

/-- Only null is null. -/
def isNull : Value → Bool
  | .null => true
  | _ => false

/-- The type name of a tagged object. -/
def objectType? : Value → Option String
  | .object typeName _ => some typeName
  | _ => none

/-- The text of a string. -/
def string? : Value → Option String
  | .string text => some text
  | _ => none

/-- The name of a value's shape. -/
def kind : Value → String
  | .null => "null"
  | .bool _ => "bool"
  | .int _ => "i64"
  | .word _ => "u64"
  | .float _ => "f64"
  | .string _ => "string"
  | .bytes _ => "bytes"
  | .list _ => "list"
  | .array .. => "array"
  | .map _ => "map"
  | .object .. => "object"

/-- A description in one line: types, names and counts, but no contents. -/
def summary : Value → String
  | .object typeName fields =>
    typeName ++ " \x7b" ++ ", ".intercalate (fields.map Prod.fst) ++ "\x7d"
  | .array elementType items => s!"{elementType}[{items.length}]"
  | .list items => s!"list[{items.length}]"
  | .map entries => s!"map[{entries.length}]"
  | other => other.kind

/-- Puts named fields under a type name, in place of any they had. -/
def tagged (typeName : String) : Value → Except Failure Value
  | .map fields | .object _ fields => .ok (.object typeName fields)
  | other => .error (.malformed (.notFields typeName other.kind))

end Value

/-- The fields of a tagged object while they are taken out one by one. -/
structure Fields where
  typeName : String
  entries : List (String × Value)
  deriving Inhabited

/-- Opens a tagged object of the expected type. -/
def Value.openFields (expected : String) : Value → Except Failure Fields
  | .object typeName fields =>
    if typeName = expected then .ok ⟨typeName, fields⟩
    else .error (.malformed (.wrongTag expected typeName))
  | other => .error (.malformed (.wrongTag expected other.kind))

namespace Fields

/-- Fields are taken apart in sequence; a step that refuses still keeps what it took out. -/
abbrev Taking := EStateM Failure Fields

/--
Takes the first field of a name out, and null when there is none.

The last field moves into the place of the one taken.
-/
def take (name : String) : Taking Value := fun fields =>
  match fields.entries.findIdx? (·.1 == name), fields.entries.getLast? with
  | some index, some last =>
    let found := (fields.entries[index]?.map Prod.snd).getD .null
    .ok found { fields with entries := (fields.entries.set index last).dropLast }
  | _, _ => .ok .null fields

/-- The failure of a field that holds something else than expected. -/
def wrong (fields : Fields) (name expected : String) (found : Value) : Failure :=
  .malformed (.wrongField fields.typeName name expected found.kind)

/-- Takes a field and reads it, or fails with what was expected of it. -/
def takeAs {α : Type} (name expected : String) (read : Value → Option α) : Taking α := do
  let value ← take name
  match read value with
  | some result => return result
  | none => throw ((← get).wrong name expected value)

/-- Takes a string. -/
def takeString (name : String) : Taking String :=
  takeAs name "string" Value.string?

/-- Takes a string that may be null or missing. -/
def takeString? (name : String) : Taking (Option String) :=
  takeAs name "string" fun
    | .null => some none
    | .string text => some (some text)
    | _ => none

/-- Takes an integer that is not negative. -/
def takeWord (name : String) : Taking UInt64 :=
  takeAs name "unsigned integer" fun
    | .word number => some number
    | .int number => if 0 ≤ number then some number.toUInt64 else none
    | _ => none

/-- Takes the items of a list or an array, and none when the field is null or missing. -/
def takeItems (name : String) : Taking (List Value) :=
  takeAs name "list" fun
    | .list items | .array _ items => some items
    | .null => some []
    | _ => none

end Fields

end RemoteCall
