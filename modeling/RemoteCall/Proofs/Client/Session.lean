import RemoteCall.Proofs.Client.Privileged
import RemoteCall.Proofs.Fields.Taking

/-! The data of the session is the last update that came with an answer to a privileged call. -/

namespace RemoteCall

/-- A call that a caller makes, of whatever kind, on an occasion of its own. -/
inductive Invocation where
  | ordinary (occasion : Occasion) (address : String) (request : Typed) (response : Shape)
  | privileged (occasion : Occasion) (policy : RefusalPolicy) (address : String) (request : Typed)
    (response : Shape)
  /-- A call of a method of a remote interface. -/
  | remote (occasion : Occasion) (destination : Destination) (request : RemoteServiceRequest)

/-- What an answer holds: the response in its envelope, if it has one that can be read. -/
def Value.unwrapped? (answer : Value) : Option Value :=
  if Message.isTagged ResponseEnvelope answer then
    (Message.ofValue answer : Except Failure ResponseEnvelope).toOption.map (·.unwrap)
  else some answer

/-- The data that a response wants kept, if it is that of an execution. -/
def Value.update? (response : Value) : Option Value :=
  -- A refusal and the failure of a server are no executions.
  (Message.ofValue response : Except Failure SuccessfulExecution).toOption.bind (·.updatedData)

namespace Invocation

/-- Makes the call, whose answer goes to whoever asked. -/
def run (invoker : Invoker) : Invocation → Calling Unit
  | ordinary occasion address request response =>
    Calling.ofTraced (discard (invoker.send occasion address request.data response))
  | privileged occasion policy address request response =>
    discard (invoker.sendPrivileged occasion policy address request.data response)
  | remote occasion destination request =>
    Calling.ofTraced (discard (invoker.invoke occasion (invoker.address destination) request))

/-- The body that answers a privileged call, if its request goes out and anything comes back. -/
def answer? (invoker : Invoker) : Invocation → Trace → Option Bytes
  | privileged occasion _ address request _, trace => do
    let tagged ← (request.shape.toTagged request.data).toOption
    let _ ← (invoker.entity tagged occasion.requestId).contentLength.toOption
    (outcome (occasion.transport address invoker.client.endpointPath
      (invoker.entity tagged occasion.requestId) trace)).toOption
  | _, _ => none

/-- The data that the answer to a privileged call wants kept with the session. -/
def update? (invoker : Invoker) (invocation : Invocation) (trace : Trace) : Option Value := do
  let body ← invocation.answer? invoker trace
  let answer ← (decode body invoker.limits).toOption
  let response ← answer.unwrapped?
  response.update?

/-- The updates that come with calls made one after the other, in order. -/
def updates (invoker : Invoker) : List Invocation → CallerState → List Value
  | [], _ => []
  | invocation :: invocations, state =>
    -- What comes back may depend on all that happened before.
    (invocation.update? invoker state.trace).toList ++
      updates invoker invocations (stateAfter (invocation.run invoker state))

end Invocation

/-- To be of no interest changes nothing of what a step leaves behind. -/
theorem stateAfter_discard {ε σ α : Type} (step : EStateM ε σ α) (state : σ) :
    stateAfter ((discard step : EStateM ε σ PUnit) state) = stateAfter (step state) := by
  change stateAfter (((fun _ => ⟨⟩) <$> step : EStateM ε σ PUnit) state) = _
  rw [run_map]
  cases step state with
  | ok answer after => rfl
  | error failure after => rfl

/-- A result at hand leaves everything as it was. -/
theorem stateAfter_ofExcept {ε σ α : Type} (result : Except ε α) (state : σ) :
    stateAfter ((MonadExcept.ofExcept result : EStateM ε σ α) state) = state := by
  cases result with
  | ok answer => rfl
  | error failure => rfl

/-- Events alone leave the data of the session as they were. -/
theorem Calling.sessionData_ofTraced {α : Type} (step : Traced α) (state : CallerState) :
    (stateAfter (Calling.ofTraced step state)).sessionData = state.sessionData := by
  rw [Calling.ofTraced]
  cases step state.trace with
  | ok answer trace => rfl
  | error failure trace => rfl

namespace Value

/-- What has the tag of another message is not read as this one. -/
theorem ofValue_of_tagged {α : Type} (β : Type) [Message α] [Message β] {value : Value}
    (tagged : Message.isTagged β value) (other : Message.typeName β ≠ Message.typeName α) :
    (Message.ofValue value : Except Failure α).toOption = none := by
  have named : value.objectType? = some (Message.typeName β) := by
    simpa [Message.isTagged] using tagged
  cases read : (Message.ofValue value : Except Failure α) with
  | error failure => rfl
  | ok message =>
    -- A message that is read has its own tag.
    have same := (Message.objectType?_of_ofValue read).symm.trans named
    exact absurd (Option.some.inj same).symm other

/-- What has the tag of another message wants nothing kept. -/
theorem update?_of_tagged (β : Type) [Message β] {response : Value}
    (tagged : Message.isTagged β response)
    (other : Message.typeName β ≠ Message.typeName SuccessfulExecution) :
    response.update? = none := by
  rw [update?, ofValue_of_tagged β tagged other, Option.bind_none]

/-- An answer that is a failure for its caller wants nothing kept, and another one what it holds. -/
theorem update?_interpret (answer : Value) :
    (Invoker.interpret answer).toOption.bind update? = answer.unwrapped?.bind update? := by
  unfold Invoker.interpret
  by_cases failed : Message.isTagged ServerErrorResponse answer
  · -- The tag of a failure is neither that of an envelope nor that of an execution.
    have bare : Message.isTagged ResponseEnvelope answer = false := by
      have named : answer.objectType? = some (Message.typeName ServerErrorResponse) := by
        simpa [Message.isTagged] using failed
      rw [Message.isTagged, named]
      decide
    have nothing := update?_of_tagged ServerErrorResponse failed (by decide)
    rw [if_pos failed, unwrapped?, bare]
    simp only [Bool.false_eq_true, if_false, Option.bind_some, nothing]
    cases (Message.ofValue answer : Except Failure ServerErrorResponse) with
    | ok told => rfl
    | error failure => rfl
  · rw [if_neg failed]
    by_cases enveloped : Message.isTagged ResponseEnvelope answer
    · rw [if_pos enveloped, unwrapped?, if_pos enveloped]
      cases (Message.ofValue answer : Except Failure ResponseEnvelope) with
      | ok envelope => rfl
      | error failure => rfl
    · rw [if_neg enveloped, unwrapped?, if_neg enveloped]
      rfl

/-- The object of an execution wants kept what is held as its update, unless that is null. -/
theorem update?_object {entries : List (String × Value)}
    (single : (Fields.held "updated_data" entries).length ≤ 1) :
    (Value.object (Message.typeName SuccessfulExecution) entries).update? =
      (Fields.held "updated_data" entries).head?.bind SuccessfulExecution.present := by
  obtain ⟨left, taken, _, rest⟩ :=
    Fields.take_eq "response" ⟨Message.typeName SuccessfulExecution, entries⟩
  -- The response is taken out first, which may move the update but not change it.
  have same : Fields.held "updated_data" left.entries = Fields.held "updated_data" entries := by
    have moved := rest "updated_data"
    rw [if_neg (by decide)] at moved
    exact Fields.eq_of_perm_of_length_le_one moved (moved.length_eq ▸ single)
  obtain ⟨last, takenToo, _, _⟩ := Fields.take_eq "updated_data" left
  have read : (Message.take : Fields.Taking SuccessfulExecution)
      ⟨Message.typeName SuccessfulExecution, entries⟩ =
      .ok { response := (Fields.held "response" entries).headD .null
            updatedData := SuccessfulExecution.present
              ((Fields.held "updated_data" left.entries).headD .null) } last := by
    show (do
      let response ← Fields.take "response"
      let updatedData := SuccessfulExecution.present (← Fields.take "updated_data")
      return ({ response, updatedData } : SuccessfulExecution)) _ = _
    simp only [run_bind, taken, takenToo, run_pure]
  rw [update?, Message.ofValue_object, read, same]
  cases Fields.held "updated_data" entries with
  | nil => rfl
  | cons data others => rfl

end Value

namespace Invoker

variable (invoker : Invoker) (occasion : Occasion) (address : String)

/-- A request that goes out and is answered comes to what its answer says, and fails otherwise. -/
theorem outcome_post (request : Value) (trace : Trace) :
    outcome (invoker.post occasion address request trace) = (do
      let _ ← (invoker.entity request occasion.requestId).contentLength
      let body ← outcome (occasion.transport address invoker.client.endpointPath
        (invoker.entity request occasion.requestId) trace)
      decode body invoker.limits >>= interpret) := by
  cases known : (invoker.entity request occasion.requestId).contentLength with
  | error failure =>
    simp only [post, run_bind, known, run_ofExcept, outcome]
    rfl
  | ok length =>
    cases answered : occasion.transport address invoker.client.endpointPath
        (invoker.entity request occasion.requestId) trace with
    | ok body after =>
      obtain ⟨tallies, posted⟩ :=
        post_of_answer invoker occasion address request known answered
      rw [posted, run_ofExcept]
      change _ = decode body invoker.limits >>= interpret
      cases decode body invoker.limits >>= interpret with
      | ok response => rfl
      | error failure => rfl
    | error failure after =>
      -- Whether the call was slow is only counted.
      by_cases slow : invoker.client.slowCallThreshold ≤ occasion.elapsed
      · simp only [post, run_bind, known, run_ofExcept, Traced.attempt, answered, if_pos slow,
          run_tally, run_throw, outcome]
        rfl
      · simp only [post, run_bind, known, run_ofExcept, Traced.attempt, answered, if_neg slow,
          run_tally, run_throw, outcome]
        rfl

variable (policy : RefusalPolicy) {request : Shape} (data : request.Data) (response : Shape)

/-- A call whose refusal is looked into leaves the data of the session as they were. -/
theorem sessionData_refused {α β : Type} (read : Except Failure α) (consult : α → Traced β)
    (state : CallerState) :
    (stateAfter ((do
      let refusal ← MonadExcept.ofExcept read
      Calling.ofTraced (consult refusal) : Calling β) state)).sessionData = state.sessionData := by
  cases read with
  | error failure => rfl
  | ok refusal => exact Calling.sessionData_ofTraced (consult refusal) state

/-- What the answer to a privileged call wants kept is what the response in it does. -/
theorem update?_privileged (trace : Trace) :
    (Invocation.privileged occasion policy address ⟨request, data⟩ response).update? invoker trace =
      (outcome ((do invoker.post occasion address (← Traced.ofExcept (request.toTagged data)) :
        Traced Value) trace)).toOption.bind Value.update? := by
  rw [Invocation.update?, Invocation.answer?]
  cases request.toTagged data with
  | error failure => rfl
  | ok tagged =>
    show _ = (outcome (invoker.post occasion address tagged trace)).toOption.bind Value.update?
    rw [outcome_post]
    change (do
      let body ← (do
        let _ ← (invoker.entity tagged occasion.requestId).contentLength.toOption
        (outcome (occasion.transport address invoker.client.endpointPath
          (invoker.entity tagged occasion.requestId) trace)).toOption)
      let answer ← (decode body invoker.limits).toOption
      let response ← answer.unwrapped?
      response.update?) = _
    -- Nothing is kept unless the request goes out, and what comes back can be decoded.
    cases (invoker.entity tagged occasion.requestId).contentLength with
    | error failure => rfl
    | ok length =>
      cases occasion.transport address invoker.client.endpointPath
          (invoker.entity tagged occasion.requestId) trace with
      | error failure after => rfl
      | ok body after =>
        show ((decode body invoker.limits).toOption >>= fun answer =>
          answer.unwrapped?.bind Value.update?) =
            (decode body invoker.limits >>= interpret).toOption.bind Value.update?
        cases decode body invoker.limits with
        | error failure => rfl
        | ok answer => exact (Value.update?_interpret answer).symm

/--
A privileged call leaves the update that comes with its answer, and otherwise what was there.

It does not matter whether the response can be read after that.
-/
theorem sessionData_sendPrivileged (state : CallerState) :
    (stateAfter (invoker.sendPrivileged occasion policy address data response state)).sessionData =
      ((Invocation.privileged occasion policy address ⟨request, data⟩ response).update? invoker
        state.trace).or state.sessionData := by
  rw [update?_privileged, sendPrivileged, run_bind, Calling.ofTraced]
  cases (do invoker.post occasion address (← Traced.ofExcept (request.toTagged data)) :
      Traced Value) state.trace with
  | error failure after => rfl
  | ok answer after =>
    show _ = answer.update?.or state.sessionData
    dsimp only
    split
    · -- Somebody who is not known gets a refusal, and so does somebody who may not do this.
      next unknown =>
      rw [Value.update?_of_tagged UserNotAuthenticated unknown (by decide)]
      exact sessionData_refused _ _ _
    · split
      · next forbidden =>
        rw [Value.update?_of_tagged UserNotAuthorized forbidden (by decide)]
        exact sessionData_refused _ _ _
      · rw [Value.update?, run_bind]
        cases (Message.ofValue answer : Except Failure SuccessfulExecution) with
        | error failure => rfl
        | ok execution =>
          obtain ⟨result, updatedData⟩ := execution
          -- The update is kept first, and then the response is read.
          cases updatedData with
          | none =>
            change (stateAfter ((MonadExcept.ofExcept (response.ofValue result) : Calling _)
              { state with trace := after })).sessionData = state.sessionData
            rw [stateAfter_ofExcept]
          | some update =>
            change (stateAfter ((MonadExcept.ofExcept (response.ofValue result) : Calling _)
              { sessionData := some update, trace := after })).sessionData = some update
            rw [stateAfter_ofExcept]

end Invoker

namespace Invocation

variable (invoker : Invoker)

/-- A call leaves the update that comes with its answer, and otherwise what was there. -/
theorem sessionData_run (invocation : Invocation) (state : CallerState) :
    (stateAfter (invocation.run invoker state)).sessionData =
      (invocation.update? invoker state.trace).or state.sessionData := by
  cases invocation with
  | ordinary occasion address request response => exact Calling.sessionData_ofTraced _ state
  | remote occasion destination request => exact Calling.sessionData_ofTraced _ state
  | privileged occasion policy address request response =>
    rw [run, stateAfter_discard]
    exact invoker.sessionData_sendPrivileged occasion address policy request.data response state

/-- Calls one after the other leave the last of the updates that come with their answers. -/
theorem sessionData_runEach (invocations : List Invocation) (state : CallerState) :
    (runEach (invocations.map (run invoker)) state).2.sessionData =
      (updates invoker invocations state).getLast?.or state.sessionData := by
  -- Each call meets what the one before it has left.
  induction invocations generalizing state with
  | nil => rfl
  | cons invocation invocations ih =>
    rw [List.map_cons, runEach, ih, sessionData_run, updates, List.getLast?_append, Option.or_assoc]
    cases invocation.update? invoker state.trace with
    | none => rfl
    | some update => rfl

/--
Whatever else happens, a caller keeps the last update that came with an answer to a privileged call.

There is none before the first update. The answer is that of an execution, in an envelope or not,
and its object holds an update that is not null; anything else leaves the data as they were.
-/
theorem sessionData_latest (invoker : Invoker) (invocations : List Invocation) (trace : Trace) :
    (runEach (invocations.map (run invoker)) { trace }).2.sessionData =
        (updates invoker invocations { trace }).getLast? ∧
      (∀ invocation state, update? invoker invocation state.trace = none →
        (stateAfter (invocation.run invoker state)).sessionData = state.sessionData) ∧
      ∀ (invocation : Invocation) before body answer response,
        invocation.answer? invoker before = some body → decode body invoker.limits = .ok answer →
        answer.unwrapped? = some response →
        (response.objectType? ≠ some "wirecall.SuccessfulExecution" →
          invocation.update? invoker before = none) ∧
        ∀ entries, response = .object "wirecall.SuccessfulExecution" entries →
          (Fields.held "updated_data" entries).length ≤ 1 →
            invocation.update? invoker before =
              (Fields.held "updated_data" entries).head?.bind SuccessfulExecution.present := by
  refine ⟨?_, fun invocation state nothing => ?_, ?_⟩
  · rw [sessionData_runEach, Option.or_none]
  · rw [sessionData_run, nothing, Option.none_or]
  · intro invocation before body answer response answered decoded held
    have update : invocation.update? invoker before = response.update? := by
      simp only [update?, answered, decoded, held, Except.toOption, Option.bind_eq_bind,
        Option.bind_some]
    refine ⟨fun other => ?_, fun entries same single => ?_⟩
    · -- What is read as an execution has its tag.
      rw [update, Value.update?]
      cases read : (Message.ofValue response : Except Failure SuccessfulExecution) with
      | ok execution => exact absurd (Message.objectType?_of_ofValue read) other
      | error failure => rfl
    · subst same
      rw [update]
      exact Value.update?_object single

end Invocation

namespace Sample

/-- A caller who sends requests as they are. -/
def plainCaller : Invoker where
  client := {}
  transport := {}
  limiter := none
  limits := {}
  session := sessionOf "admin"

/-- An occasion on which a value is answered. -/
def answering (value : Value) : Occasion where
  requestId := "1"
  elapsed := .ofSeconds 0
  transport := fun _ _ _ => Traced.ofExcept (encode value {})

/-- The execution of a request with a text for a response, and with a text to be kept. -/
def executed (response update : String) : Value :=
  Message.toValue
    ({ response := .string response, updatedData := some (.string update) } : SuccessfulExecution)

/-- A privileged call that is answered with an execution, which is in no envelope. -/
def executedCall : Invocation :=
  .privileged (answering (executed "1" "first")) .reject "host" ⟨renameUser.request, renameData⟩
    .string

/-- What that call is answered with. -/
def executedBody : Bytes := (encode (executed "1" "first") {}).toOption.getD []

/-- Calls of every kind, of which the second is answered with something else than asked for. -/
def mixedCalls : List Invocation :=
  let rename : Typed := ⟨renameUser.request, renameData⟩
  let gone : Occasion := { answering .null with transport := fun _ _ _ => throw .invalidHeader }
  [executedCall,
    .privileged (answering (Message.toValue (ResponseEnvelope.wrap (executed "2" "second") none)))
      .reject "host" rename .bool,
    .ordinary (answering (executed "3" "third")) "host" rename .string,
    .privileged (answering (Message.toValue ({ message := "no" } : UserNotAuthorized))) .reject
      "host" rename .string,
    .privileged gone .reject "host" rename .string,
    .remote (answering (executed "6" "sixth")) .http
      { interface := "i", method := "m", arguments := [] }]

/-- The second update is kept, though what it came with is no answer to the request. -/
theorem sessionData_latest_mixed :
    (runEach (mixedCalls.map (Invocation.run plainCaller)) {}).2.sessionData.bind Value.string? =
        some "second" ∧
      (executedCall.update? plainCaller []).bind Value.string? = some "first" := by
  obtain ⟨latest, _, update⟩ := Invocation.sessionData_latest plainCaller mixedCalls []
  constructor
  · rw [latest]
    decide +kernel
  · have answered : executedCall.answer? plainCaller [] = some executedBody := by decide +kernel
    have decoded : decode executedBody plainCaller.limits = .ok (executed "1" "first") :=
      decode_eq_ok_iff.mpr ⟨by decide +kernel, by decide +kernel⟩
    obtain ⟨_, kept⟩ := update executedCall [] executedBody _ _ answered decoded rfl
    rw [kept _ rfl (by decide)]
    rfl

end Sample

end RemoteCall
