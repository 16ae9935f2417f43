import RemoteCall.Proofs.Steps
import RemoteCall.Typed.Conversion

/-! Tags do not matter to what typed data is read as. -/

namespace RemoteCall

/-- A tag leaves the tree of a value as it was. -/
theorem Value.toTree_tagged {typeName : String} {value tagged : Value}
    (made : value.tagged typeName = .ok tagged) :
    tagged.objectType? = some typeName ∧ tagged.toTree = value.toTree := by
  -- Only fields can be tagged, and they are what counts.
  cases value with
  | map fields =>
    cases made
    simp [objectType?, toTree]
  | object other fields =>
    cases made
    simp [objectType?, toTree]
  | _ => cases made

namespace Shape

/-- Typed data reads back from its self-describing value. -/
def Survives (shape : Shape) (data : shape.Data) : Prop :=
  -- Not all data does: of a number that is none, for one, only its absence is sent.
  shape.ofValue (shape.toValue data) = .ok data

variable {shape : Shape} {data : shape.Data}

/-- A tagged value is read like the one without a tag. -/
theorem Survives.ofValue_toTagged (survives : shape.Survives data) {tagged : Value}
    (made : shape.toTagged data = .ok tagged) : shape.ofValue tagged = .ok data := by
  rw [ofValue, (Value.toTree_tagged made).2]
  exact survives

/-- An array is read like the list of its items. -/
theorem toTree_toResponse (shape : Shape) (data : shape.Data) :
    (shape.toResponse data).toTree = (shape.toValue data).toTree := by
  unfold toResponse
  split
  · next listed =>
    rw [listed]
    simp [Value.toTree]
  · rfl

/-- A response is read like the value that it was made of. -/
theorem Survives.ofValue_toResponse (survives : shape.Survives data) :
    shape.ofValue (shape.toResponse data) = .ok data := by
  rw [ofValue, toTree_toResponse]
  exact survives

end Shape

end RemoteCall
