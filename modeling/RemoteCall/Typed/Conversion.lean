import RemoteCall.Typed.Shape
import RemoteCall.Typed.Tree

/-! Typed data as trees and self-describing values, and its reading back from them. -/

namespace RemoteCall.Shape

mutual

/-- The tree of typed data. -/
def write : (shape : Shape) → shape.Data → Tree
  | .unit, () => .null
  | .bool, flag => .bool flag
  | .integer _, number => .integer number.val
  | .single, number => .ofDouble number.toDouble
  | .double, number => .ofDouble number
  | .string, text => .text text
  | .list element, items => .sequence (items.map element.write)
  | .option _, none => .null
  | .option inner, some data => inner.write data
  | .record _ _ fields, data => .record (writeFields fields data)
  | .renamed _ inner, data => inner.write data

/-- The trees of fields, in the order of their names. -/
def writeFields : (fields : List (String × Shape)) → FieldData fields → List (String × Tree)
  | [], () => []
  | (name, shape) :: fields, (data, rest) =>
    Tree.insert name (shape.write data) (writeFields fields rest)

end

/-- Why the fields of a record cannot be read from entries. -/
inductive FieldFault where
  /-- The field of this name holds something else. -/
  | wrong (name : String) (cause : Mismatch)
  | missing (name : String)

namespace FieldFault

/-- The mismatch that a fault is told as. -/
def cause : FieldFault → Mismatch
  | .wrong _ cause => cause
  | .missing name => .missingField name

/--
Which of two faults is told, that of an earlier field or that of a later one.

Entries are visited in the order of their keys, and only then missing ones are noticed.
-/
def before : FieldFault → FieldFault → FieldFault
  | .wrong name cause, .wrong later other =>
    if later < name then .wrong later other else .wrong name cause
  | .wrong name cause, .missing _ => .wrong name cause
  | .missing _, .wrong later other => .wrong later other
  | .missing name, .missing _ => .missing name

/-- The results of a field and of those after it, or the fault that is told. -/
def join {α β : Type} : Except FieldFault α → Except FieldFault β → Except FieldFault (α × β)
  | .ok data, .ok rest => .ok (data, rest)
  | .ok _, .error fault | .error fault, .ok _ => .error fault
  | .error fault, .error other => .error (fault.before other)

end FieldFault

/-- A tree that is no data of a shape known by these words. -/
def refuse {α : Type} (expected : String) (tree : Tree) : Except Mismatch α :=
  .error (.wrongType tree.found expected)

/-- Reads an integer of a type. -/
def readInteger (kind : IntegerKind) (number : Int) :
    Except Mismatch { number : Int // kind.Holds number } :=
  if holds : kind.Holds number then .ok ⟨number, holds⟩
  else .error (.outOfRange number kind.name)

/-- The data of an absent field, which only optional data can do without. -/
def absent (name : String) : (shape : Shape) → Except FieldFault shape.Data
  | .option _ => .ok none
  | _ => .error (.missing name)

mutual

/-- Reads data of a shape from a tree. -/
def read : (shape : Shape) → Tree → Except Mismatch shape.Data
  | .unit, .null => .ok ()
  | .unit, tree => refuse "unit" tree
  | .bool, .bool flag => .ok flag
  | .bool, tree => refuse "a boolean" tree
  | .integer kind, .integer number => readInteger kind number
  | .integer kind, tree => refuse kind.name tree
  | .single, .integer number => .ok (Single.ofInt number)
  | .single, .real number => .ok (Single.ofDouble number)
  | .single, tree => refuse "f32" tree
  | .double, .integer number => .ok (Double.ofInt number)
  | .double, .real number => .ok number
  | .double, tree => refuse "f64" tree
  | .string, .text text => .ok text
  | .string, tree => refuse "a string" tree
  | .list element, .sequence items => items.mapM element.read
  | .list _, tree => refuse "a sequence" tree
  | .option _, .null => .ok none
  | .option inner, tree => (inner.read tree).map some
  | .record _ _ fields, .record entries => (readFields fields entries).mapError FieldFault.cause
  | .record name _ fields, .sequence items =>
    readElements name fields.length items.length fields items
  | .record name _ _, tree => refuse ("struct " ++ name) tree
  | .renamed _ inner, tree => inner.read tree

/-- Reads fields from entries by their names; entries of no field do not matter. -/
def readFields : (fields : List (String × Shape)) → List (String × Tree) →
    Except FieldFault (FieldData fields)
  | [], _ => .ok ()
  | (name, shape) :: fields, entries =>
    let data :=
      match entries.lookup name with
      | some tree => (shape.read tree).mapError (.wrong name)
      | none => absent name shape
    FieldFault.join data (readFields fields entries)

/-- Reads fields by their places, of which there are as many as the record and the sequence have. -/
def readElements (record : String) (arity length : Nat) :
    (fields : List (String × Shape)) → List Tree → Except Mismatch (FieldData fields)
  | [], [] => .ok ()
  | [], _ :: _ => .error (.tooManyElements length)
  | _ :: _, [] => .error (.tooFewElements length record arity)
  | (_, shape) :: fields, tree :: items =>
    match shape.read tree with
    | .error cause => .error cause
    | .ok data => (readElements record arity length fields items).map (data, ·)

end

/-- The self-describing value of typed data. -/
def toValue (shape : Shape) (data : shape.Data) : Value :=
  (shape.write data).toValue

/-- Reads typed data from a self-describing value, whatever its tags. -/
def ofValue (shape : Shape) (value : Value) : Except Failure shape.Data :=
  (shape.read value.toTree).mapError fun cause => .malformed (.mismatch cause)

/-- The value of typed data with named fields, under the name of its shape. -/
def toTagged (shape : Shape) (data : shape.Data) : Except Failure Value :=
  Value.tagged shape.wireName (shape.toValue data)

/-- The value of a response, in which a list is an array that knows the type of its elements. -/
def toResponse (shape : Shape) (data : shape.Data) : Value :=
  match shape.elementType?, shape.toValue data with
  | some elementType, .list items => .array elementType items
  | _, value => value

end RemoteCall.Shape
