import Mathlib.Data.List.Nodup
import RemoteCall.Proofs.Codec.RoundTrip
import RemoteCall.Proofs.Fields.Taking
import RemoteCall.Proofs.Message

/-! Messages are read from their fields in any order, and among fields of other names. -/

namespace RemoteCall

namespace Fields

variable {names : List String} {α β : Type}

/-- Fields of one type that hold the same under each of some names, and hold it once. -/
structure Agree (names : List String) (fields others : Fields) : Prop where
  typeName : fields.typeName = others.typeName
  same : ∀ name ∈ names, held name fields.entries = held name others.entries
  once : ∀ name ∈ names, (held name others.entries).length ≤ 1

/-- Results with the same answer, which leave fields that agree, or with the same failure. -/
inductive Alike (names : List String) :
    EStateM.Result Failure Fields α → EStateM.Result Failure Fields α → Prop where
  | answered {answer : α} {left other : Fields} (agree : Agree names left other) :
      Alike names (.ok answer left) (.ok answer other)
  | failed {failure : Failure} {left other : Fields} :
      Alike names (.error failure left) (.error failure other)

/-- Such results come to the same. -/
theorem Alike.outcome_eq {result other : EStateM.Result Failure Fields α}
    (alike : Alike names result other) : outcome result = outcome other := by
  cases alike with
  | answered => rfl
  | failed => rfl

/-- A step goes by what is held under some names, and not by where it is or by what is beside it. -/
def Heeds (names : List String) (step : Taking α) : Prop :=
  ∀ fields others, Agree names fields others → Alike names (step fields) (step others)

namespace Heeds

/-- An answer at hand looks at no fields. -/
theorem pure (answer : α) : Heeds names (Pure.pure answer : Taking α) := by
  intro fields others agree
  exact .answered agree

/-- A failure that tells the type of the fields goes by nothing else. -/
theorem throw_get {failure : Fields → Failure}
    (byType : ∀ fields others : Fields, fields.typeName = others.typeName →
      failure fields = failure others) :
    Heeds names (do throw (failure (← get)) : Taking α) := by
  intro fields others agree
  have same := byType fields others agree.typeName
  simp only [run_bind, run_get, run_throw, same]
  exact .failed

/-- A result at hand looks at no fields, whichever it is. -/
theorem ofExcept (result : Except Failure α) :
    Heeds names (MonadExcept.ofExcept result : Taking α) := by
  intro fields others agree
  cases result with
  | ok answer => exact .answered agree
  | error failure => exact .failed

/-- Steps in sequence go by the names that both of them go by. -/
theorem bind {step : Taking α} {next : α → Taking β} (heeds : Heeds names step)
    (heedsNext : ∀ answer, Heeds names (next answer)) : Heeds names (step >>= next) := by
  intro fields others agree
  have alike := heeds fields others agree
  rw [run_bind, run_bind]
  generalize step fields = result, step others = other at alike
  -- The next step meets fields that agree, if there is one.
  cases alike with
  | answered agree => exact heedsNext _ _ _ agree
  | failed => exact .failed

/-- A name is taken as what is held under it. -/
theorem take {name : String} (known : name ∈ names) : Heeds names (Fields.take name) := by
  intro fields others agree
  obtain ⟨left, taken, typeName, heldIn⟩ := take_eq name fields
  obtain ⟨other, takenToo, typeNameToo, heldInToo⟩ := take_eq name others
  -- Nothing is held more than once afterwards, so that it is held in one order.
  have once : ∀ key ∈ names, (if key = name then (held name others.entries).tail
      else held key others.entries).length ≤ 1 := by
    intro key member
    split
    · have := agree.once name known
      rw [List.length_tail]
      omega
    · exact agree.once key member
  have inOther : ∀ key ∈ names, held key other.entries =
      if key = name then (held name others.entries).tail else held key others.entries :=
    fun key member => eq_of_perm_of_length_le_one (heldInToo key) (once key member)
  have inLeft : ∀ key ∈ names, held key left.entries =
      if key = name then (held name others.entries).tail else held key others.entries := by
    intro key member
    refine eq_of_perm_of_length_le_one ?_ (once key member)
    rw [← agree.same name known, ← agree.same key member]
    exact heldIn key
  rw [taken, takenToo, agree.same name known]
  refine .answered ⟨?_, fun key member => ?_, fun key member => ?_⟩
  · rw [typeName, typeNameToo, agree.typeName]
  · rw [inLeft key member, inOther key member]
  · rw [inOther key member]
    exact once key member

/-- A field is read from what is held under its name. -/
theorem takeAs {name expected : String} {read : Value → Option α} (known : name ∈ names) :
    Heeds names (Fields.takeAs name expected read) := by
  refine (take known).bind fun value => ?_
  -- What was expected instead is told of the type of the fields.
  cases read value with
  | some result => exact pure result
  | none =>
    refine throw_get fun fields others same => ?_
    rw [wrong, wrong, same]

end Heeds

end Fields

/-- An object of a type has these fields, in any order and among others of other names. -/
def Value.Offers (typeName : String) (fields : List (String × Value)) (value : Value) : Prop :=
  ∃ entries others, value = .object typeName entries ∧ entries.Perm (fields ++ others) ∧
    ∀ entry ∈ others, entry.1 ∉ fields.map Prod.fst

namespace Message

open Fields

variable {α : Type} [Message α]

/-- An object has the fields of a message, in any order and among others of other names. -/
def Spells (message : α) (value : Value) : Prop :=
  value.Offers (typeName α) (fields message)

/-- A message is read from every object that has its fields, also after an encoding. -/
def Robust (message : α) : Prop :=
  ∀ value, Spells message value → value.Conveys ofValue message

/-- Fields agree with those that they are made of, where no name is repeated among these. -/
theorem agree_of_perm (typeName : String) {entries fields others : List (String × Value)}
    (distinct : (fields.map Prod.fst).Nodup) (same : entries.Perm (fields ++ others))
    (unknown : ∀ entry ∈ others, entry.1 ∉ fields.map Prod.fst) :
    Agree (fields.map Prod.fst) ⟨typeName, entries⟩ ⟨typeName, fields⟩ := by
  have once (name : String) : (held name fields).length ≤ 1 := by
    rw [length_held]
    exact List.nodup_iff_count_le_one.mp distinct name
  refine ⟨rfl, fun name known => ?_, fun name _ => once name⟩
  -- The fields of other names hold nothing under those of the message.
  have none : held name others = [] := held_eq_nil_iff.mpr fun entry member same =>
    unknown entry member (same ▸ known)
  have perm := held_perm same name
  rw [held_append, none, List.append_nil] at perm
  exact eq_of_perm_of_length_le_one perm (once name)

/-- What is read from fields in one order is read from them in any other, and among others. -/
theorem ofValue_of_offers {message : α} {fields : List (String × Value)}
    (heeds : Heeds (fields.map Prod.fst) (take : Taking α))
    (distinct : (fields.map Prod.fst).Nodup)
    (read : ofValue (.object (typeName α) fields) = .ok message) {value : Value}
    (offers : value.Offers (typeName α) fields) : ofValue value = .ok message := by
  obtain ⟨entries, others, rfl, same, unknown⟩ := offers
  have alike := heeds _ _ (agree_of_perm (typeName α) distinct same unknown)
  rw [ofValue_object, alike.outcome_eq, ← ofValue_object, read]

/-- A message that is read as it was sent is so from any object that has its fields. -/
theorem robust_of_heeds {message : α}
    (heeds : Heeds ((fields message).map Prod.fst) (take : Taking α))
    (distinct : ((fields message).map Prod.fst).Nodup)
    (read : ofValue (toValue message) = .ok message) : Robust message := by
  intro value spells
  exact Value.conveys_of_read (ofValue_of_offers heeds distinct read spells)

end Message

open Fields Message

/-- The number of a process is read from what is held under its name. -/
theorem SessionId.heeds_takeProcessId {names : List String} (known : "pid" ∈ names) :
    Heeds names takeProcessId := by
  refine (Heeds.takeAs known).bind fun number => ?_
  by_cases small : number.toNat ≤ 0xFFFFFFFF
  · simp only [if_pos small]
    exact .pure _
  · simp only [if_neg small]
    refine .throw_get fun fields others same => ?_
    rw [same]

/-- A session is read from its fields in any order. -/
theorem SessionId.robust (session : SessionId) : Robust session := by
  refine robust_of_heeds ?_ (by simp [fields]) session.ofValue_toValue
  refine (heeds_takeProcessId (by simp [fields])).bind fun processId => ?_
  refine (Heeds.takeAs (by simp [fields])).bind fun userName => ?_
  refine (Heeds.takeAs (by simp [fields])).bind fun host => ?_
  refine (Heeds.takeAs (by simp [fields])).bind fun program => ?_
  exact .pure _

/-- An envelope is read from its fields in any order, the session in it as it is read itself. -/
theorem SessionEnvelope.ofValue_of_offers {envelope : SessionEnvelope} {inner value : Value}
    (read : ofValue inner = .ok envelope.session)
    (offers : value.Offers (typeName SessionEnvelope) (envelope.fieldsAround inner)) :
    ofValue value = .ok envelope := by
  refine Message.ofValue_of_offers ?_ (by simp [fieldsAround]) (ofValue_around read) offers
  refine (Heeds.take (by simp [fieldsAround])).bind fun request => ?_
  refine (Heeds.take (by simp [fieldsAround])).bind fun session => ?_
  -- The session is not among the fields any more when it is read.
  refine (Heeds.ofExcept _).bind fun session => ?_
  refine (Heeds.takeAs (by simp [fieldsAround])).bind fun uniqueId => ?_
  exact .pure _

/-- A response in its envelope is read from its fields in any order. -/
theorem ResponseEnvelope.robust (envelope : ResponseEnvelope) : Robust envelope := by
  refine robust_of_heeds ?_ (by simp [fields]) envelope.ofValue_toValue
  refine (Heeds.take (by simp [fields])).bind fun response => ?_
  refine (Heeds.takeAs (by simp [fields])).bind fun host => ?_
  refine (Heeds.takeAs (by simp [fields])).bind fun elementType => ?_
  exact .pure _

/-- What is told of a failure is read from its fields in any order. -/
theorem ServerErrorResponse.robust (response : ServerErrorResponse) : Robust response := by
  refine robust_of_heeds ?_ (by simp [fields]) response.ofValue_toValue
  refine (Heeds.takeAs (by simp [fields])).bind fun message => ?_
  refine (Heeds.takeAs (by simp [fields])).bind fun errorType => ?_
  exact .pure _

/-- A refusal to somebody who is known is read among other fields. -/
theorem UserNotAuthorized.robust (refusal : UserNotAuthorized) : Robust refusal := by
  refine robust_of_heeds ?_ (by simp [fields]) refusal.ofValue_toValue
  refine (Heeds.takeAs (by simp [fields])).bind fun message => ?_
  exact .pure _

/-- A refusal to somebody who is not known is read among other fields. -/
theorem UserNotAuthenticated.robust (refusal : UserNotAuthenticated) : Robust refusal := by
  refine robust_of_heeds ?_ (by simp [fields]) refusal.ofValue_toValue
  refine (Heeds.takeAs (by simp [fields])).bind fun message => ?_
  exact .pure _

/-- The result of an execution is read from its fields in any order, unless it has null kept. -/
theorem SuccessfulExecution.robust {execution : SuccessfulExecution}
    (present : execution.updatedData ≠ some .null) : Robust execution := by
  refine robust_of_heeds ?_ (by simp [fields]) (ofValue_toValue present)
  refine (Heeds.take (by simp [fields])).bind fun response => ?_
  refine (Heeds.take (by simp [fields])).bind fun updatedData => ?_
  exact .pure _

/-- A call of a method is read from its fields in any order. -/
theorem RemoteServiceRequest.robust (request : RemoteServiceRequest) : Robust request := by
  refine robust_of_heeds ?_ (by simp [fields]) request.ofValue_toValue
  refine (Heeds.takeAs (by simp [fields])).bind fun interface => ?_
  refine (Heeds.takeAs (by simp [fields])).bind fun method => ?_
  refine (Heeds.takeAs (by simp [fields])).bind fun arguments => ?_
  exact .pure _

/--
Every message is read from its own fields in any order and among fields of other names, also after
an encoding.

In an envelope, the fields of the session may be rearranged too. Only null cannot be kept with a
session, as it stands for no data.
-/
theorem messages_rearranged :
    (∀ session : SessionId, Robust session) ∧
      (∀ envelope : SessionEnvelope, Robust envelope ∧
        ∀ inner value : Value, Spells envelope.session inner →
          value.Offers (typeName SessionEnvelope) (envelope.fieldsAround inner) →
            value.Conveys ofValue envelope) ∧
      (∀ envelope : ResponseEnvelope, Robust envelope) ∧
      (∀ response : ServerErrorResponse, Robust response) ∧
      (∀ refusal : UserNotAuthorized, Robust refusal) ∧
      (∀ refusal : UserNotAuthenticated, Robust refusal) ∧
      (∀ execution : SuccessfulExecution, execution.updatedData ≠ some .null → Robust execution) ∧
      ∀ request : RemoteServiceRequest, Robust request := by
  refine ⟨SessionId.robust,
    fun envelope => ⟨fun value spells => ?_, fun inner value spells offers => ?_⟩,
    ResponseEnvelope.robust, ServerErrorResponse.robust, UserNotAuthorized.robust,
    UserNotAuthenticated.robust, fun _ => SuccessfulExecution.robust,
    RemoteServiceRequest.robust⟩
  · have read := SessionEnvelope.ofValue_of_offers envelope.session.ofValue_toValue spells
    exact Value.conveys_of_read read
  · have read := SessionEnvelope.ofValue_of_offers (envelope.session.robust inner spells).1 offers
    exact Value.conveys_of_read read

/-- An envelope and a result are read with their fields in reverse, behind one that nobody knows. -/
theorem messages_rearranged_reverse :
    let session : SessionId := { userName := none, host := "h", program := "p", processId := 7 }
    let envelope : SessionEnvelope := { request := .null, session, uniqueId := "1" }
    let inner : Value := .object "wirecall.SessionId"
      [("zone", .null), ("pid", .word 7), ("program", .string "p"), ("host", .string "h"),
        ("user_name", .null)]
    let enveloped : Value := .object "wirecall.SessionEnvelope"
      [("zone", .null), ("unique_id", .string "1"), ("session", inner), ("request", .null)]
    let execution : SuccessfulExecution := { response := .null, updatedData := some (.word 7) }
    let executed : Value := .object "wirecall.SuccessfulExecution"
      [("zone", .null), ("updated_data", .word 7), ("response", .null)]
    (Spells envelope.session inner ∧
        enveloped.Offers (typeName SessionEnvelope) (envelope.fieldsAround inner) ∧
          enveloped.Conveys ofValue envelope) ∧
      execution.updatedData ≠ some .null ∧ Spells execution executed ∧
        executed.Conveys ofValue execution := by
  intro session envelope inner enveloped execution executed
  obtain ⟨_, envelopes, _, _, _, _, executions, _⟩ := messages_rearranged
  let strange : List (String × Value) := [("zone", .null)]
  have rearranged : Spells session inner :=
    ⟨_, strange, rfl, (fields session ++ strange).reverse_perm, by simp [fields, strange]⟩
  have around : enveloped.Offers (typeName SessionEnvelope) (envelope.fieldsAround inner) :=
    ⟨_, strange, rfl, (envelope.fieldsAround inner ++ strange).reverse_perm,
      by simp [SessionEnvelope.fieldsAround, strange]⟩
  have spells : Spells execution executed :=
    ⟨_, strange, rfl, (fields execution ++ strange).reverse_perm, by simp [fields, strange]⟩
  have present : execution.updatedData ≠ some .null := by simp [execution]
  exact ⟨⟨rearranged, around, (envelopes envelope).2 inner enveloped rearranged around⟩, present,
    spells, executions execution present executed spells⟩

end RemoteCall
