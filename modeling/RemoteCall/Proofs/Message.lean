import RemoteCall.Message.Privileged
import RemoteCall.Message.RemoteService
import RemoteCall.Message.Response
import RemoteCall.Message.Session
import RemoteCall.Proofs.Steps

/-! Messages are taken from their own fields as they were. -/

namespace RemoteCall

namespace Message

variable {α : Type} [Message α]

/-- A message is read from an object with its tag as it is taken from the fields. -/
theorem ofValue_object (entries : List (String × Value)) :
    ofValue (.object (typeName α) entries) =
      outcome ((take : Fields.Taking α) ⟨typeName α, entries⟩) := by
  -- The tag is the one that is looked for, so the fields are at hand.
  have opened : Value.openFields (typeName α) (.object (typeName α) entries) =
      pure ⟨typeName α, entries⟩ := if_pos rfl
  rw [ofValue, opened, pure_bind]
  -- What is left of the fields is ignored.
  cases (take : Fields.Taking α) ⟨typeName α, entries⟩ with
  | ok message left => rfl
  | error failure left => rfl

/-- A message that its fields give is read from an object of them. -/
theorem ofValue_of_take {message : α} {entries : List (String × Value)}
    (given : ∃ left, take ⟨typeName α, entries⟩ = .ok message left) :
    ofValue (.object (typeName α) entries) = .ok message := by
  obtain ⟨left, taken⟩ := given
  rw [ofValue_object, taken, outcome]

/-- What is read as a message has its tag. -/
theorem objectType?_of_ofValue {value : Value} {message : α}
    (read : ofValue value = .ok message) : value.objectType? = some (typeName α) := by
  obtain ⟨fields, opened, _⟩ := except_bind_eq_ok_iff.mp read
  cases value with
  | object found entries =>
    by_cases same : found = typeName α
    · exact congrArg some same
    · simp [Value.openFields, same] at opened
  | _ => cases opened

/-- A message has its own tag. -/
@[simp] theorem isTagged_toValue (message : α) : isTagged α (toValue message) = true := by
  -- The tag is the first thing that a message is written with.
  simp [isTagged, toValue, Value.objectType?]

end Message

namespace SessionId

/-- The number of a process fits in what it is read as. -/
theorem takeProcessId_of_take {processId : UInt32} {fields left : Fields}
    (found : Fields.take "pid" fields = .ok (.word processId.toUInt64) left) :
    takeProcessId fields = .ok processId left := by
  -- The number was half a word before it was sent as a whole one.
  have small : processId.toUInt64.toNat ≤ 0xFFFFFFFF := by
    have := processId.toNat_lt
    rw [UInt32.toNat_toUInt64]
    omega
  simp only [takeProcessId, Fields.takeWord, Fields.takeAs, run_bind, found, run_pure, if_pos small,
    UInt32.toUInt32_toUInt64]

/-- A session is read as it was sent. -/
theorem ofValue_toValue (session : SessionId) :
    Message.ofValue (Message.toValue session) = .ok session := by
  -- Fields are taken one after the other, each from what the one before has left.
  obtain ⟨userName, host, program, processId⟩ := session
  apply Message.ofValue_of_take
  -- The number comes last, and is taken first.
  refine ⟨⟨Message.typeName SessionId, []⟩, run_bind_eq_ok_iff.mpr ?_⟩
  refine ⟨processId, _, takeProcessId_of_take rfl, ?_⟩
  -- A name that is not known is sent as null, and null is read as no name.
  cases userName <;> rfl

end SessionId

namespace SessionEnvelope

/-- The fields of an envelope around what stands for the session. -/
def fieldsAround (envelope : SessionEnvelope) (inner : Value) : List (String × Value) :=
  -- The session is a message of its own inside the envelope.
  [("request", envelope.request), ("session", inner), ("unique_id", .string envelope.uniqueId)]

/-- An envelope is read around everything that its session is read from. -/
theorem ofValue_around {envelope : SessionEnvelope} {inner : Value}
    (read : Message.ofValue inner = .ok envelope.session) :
    Message.ofValue (.object (Message.typeName SessionEnvelope) (envelope.fieldsAround inner)) =
      .ok envelope := by
  obtain ⟨request, session, uniqueId⟩ := envelope
  have taken : (MonadExcept.ofExcept (Message.ofValue inner) : Fields.Taking SessionId) =
      pure session := by
    rw [read]
    rfl
  apply Message.ofValue_of_take
  refine ⟨⟨Message.typeName SessionEnvelope, []⟩, run_bind_eq_ok_iff.mpr ?_⟩
  refine ⟨request, _, rfl, run_bind_eq_ok_iff.mpr ?_⟩
  refine ⟨inner, _, rfl, run_bind_eq_ok_iff.mpr ?_⟩
  exact ⟨session, _, congrFun taken _, rfl⟩

/-- An envelope is read as it was sent. -/
theorem ofValue_toValue (envelope : SessionEnvelope) :
    Message.ofValue (Message.toValue envelope) = .ok envelope :=
  ofValue_around envelope.session.ofValue_toValue

end SessionEnvelope

/-- A response in its envelope is read as it was sent. -/
theorem ResponseEnvelope.ofValue_toValue (envelope : ResponseEnvelope) :
    Message.ofValue (Message.toValue envelope) = .ok envelope := by
  obtain ⟨response, host, elementType⟩ := envelope
  cases host <;> cases elementType <;> rfl

/-- What is told of a failure is read as it was sent. -/
theorem ServerErrorResponse.ofValue_toValue (response : ServerErrorResponse) :
    Message.ofValue (Message.toValue response) = .ok response := rfl

/-- A refusal to somebody who is known is read as it was sent. -/
theorem UserNotAuthorized.ofValue_toValue (refusal : UserNotAuthorized) :
    Message.ofValue (Message.toValue refusal) = .ok refusal := rfl

/-- A refusal to somebody who is not known is read as it was sent. -/
theorem UserNotAuthenticated.ofValue_toValue (refusal : UserNotAuthenticated) :
    Message.ofValue (Message.toValue refusal) = .ok refusal := rfl

/-- The result of an execution is read as it was sent, unless it has null kept with the session. -/
theorem SuccessfulExecution.ofValue_toValue {execution : SuccessfulExecution}
    (present : execution.updatedData ≠ some .null) :
    Message.ofValue (Message.toValue execution) = .ok execution := by
  obtain ⟨response, updatedData⟩ := execution
  -- Null stands for no data, so it cannot be data itself.
  rcases updatedData with _ | value
  · rfl
  · cases value with
    | null => exact absurd rfl present
    | _ => rfl

/-- A call of a method is read as it was sent. -/
theorem RemoteServiceRequest.ofValue_toValue (request : RemoteServiceRequest) :
    Message.ofValue (Message.toValue request) = .ok request := rfl

/-- A response comes out of its envelope as it went in, an array with the type of its elements. -/
@[simp] theorem ResponseEnvelope.unwrap_wrap (response : Value) (host : Option String) :
    (wrap response host).unwrap = response := by
  cases response <;> rfl

end RemoteCall
