import RemoteCall.Value

/-! Messages that both sides know by their tags: fields put under a name, and taken from there. -/

namespace RemoteCall

/-- A type of messages with a tag of its own. -/
class Message (α : Type) where
  /-- The tag. -/
  typeName : String
  /-- The fields of a message, in the order in which they are sent. -/
  fields : α → List (String × Value)
  /-- Takes a message from fields, which may be in any order and among others. -/
  take : Fields.Taking α

namespace Message

variable {α : Type} [Message α]

/-- The tagged object of a message. -/
def toValue (message : α) : Value :=
  .object (typeName α) (fields message)

/-- Takes a message from the fields of an object with its tag. -/
def ofValue (value : Value) : Except Failure α := do
  match take (← value.openFields (typeName α)) with
  | .ok message _ => return message
  | .error failure _ => throw failure

/-- Whether a value has the tag of a message. -/
def isTagged (α : Type) [Message α] (value : Value) : Bool :=
  value.objectType? == some (typeName α)

end Message

end RemoteCall
