import RemoteCall.Proofs.Client.Exchange
import RemoteCall.Proofs.Typed

/-! A privileged call comes to the result of the body, or to the answer of one callback. -/

namespace RemoteCall

/-- What follows a check: the body runs, or the caller is asked what to make of the refusal. -/
def Verdict.consequence (call : Call) : Verdict → Event
  | .authorized => .ran call
  | refusal => .consulted refusal

/-- The body does not run after a check that says no. -/
theorem Verdict.consequence_of_refusal {verdict : Verdict} {refusal : Value}
    (denied : verdict.refusal = some refusal) (call : Call) :
    verdict.consequence call = .consulted verdict := by
  cases verdict with
  | authorized => cases denied
  | _ => rfl

/-- What a caller gets: the result of the body, or what a callback makes of the refusal. -/
def PrivilegedHandler.settle (handler : PrivilegedHandler) (policy : RefusalPolicy)
    (context : Context) (data : handler.request.Data) :
    Verdict → Except Failure handler.response.Data
  | .authorized =>
    (handler.handle (handler.call context data).context data).mapError Failure.remote
  | .notAuthorized message => policy.notAuthorized { message } >>= handler.response.ofValue
  | .notAuthenticated message => policy.notAuthenticated { message } >>= handler.response.ofValue

/-- To ask what to make of a refusal leaves the data of the session alone, whatever the answer. -/
theorem Calling.ofTraced_consult {α : Type} (verdict : Verdict) (result : Except Failure α)
    (state : CallerState) :
    Calling.ofTraced (do record (.consulted verdict); Traced.ofExcept result) state =
      (MonadExcept.ofExcept result : Calling α)
        { state with trace := state.trace ++ [.consulted verdict] } := by
  cases result with
  | ok answer => rfl
  | error failure => rfl

namespace Invoker

variable {invoker : Invoker} {occasion : Occasion} {policy : RefusalPolicy} {address : String}
  {request response : Shape} {data : request.Data} {tagged : Value} {state : CallerState}
  {after : Trace}

/-- A privileged call whose request is not answered fails with it. -/
theorem sendPrivileged_of_failure (made : request.toTagged data = .ok tagged) {failure : Failure}
    (posted : invoker.post occasion address tagged state.trace = .error failure after) :
    invoker.sendPrivileged occasion policy address data response state =
      .error failure { state with trace := after } := by
  simp [sendPrivileged, Calling.ofTraced, made, posted]

/-- What is posted is the request under its tag, which leaves the data of the session alone. -/
theorem ofTraced_post (made : request.toTagged data = .ok tagged) {answer : Value}
    (posted : invoker.post occasion address tagged state.trace = .ok answer after) :
    Calling.ofTraced (do invoker.post occasion address (← Traced.ofExcept (request.toTagged data)))
      state = .ok answer { state with trace := after } := by
  simp [Calling.ofTraced, made, posted]

/-- A privileged call that was executed comes to the response, as nothing is to be kept. -/
theorem sendPrivileged_of_execution (made : request.toTagged data = .ok tagged) {value : Value}
    (posted : invoker.post occasion address tagged state.trace =
      .ok (Message.toValue ({ response := value, updatedData := none } : SuccessfulExecution))
        after) :
    invoker.sendPrivileged occasion policy address data response state =
      (MonadExcept.ofExcept (response.ofValue value) : Calling response.Data)
        { state with trace := after } := by
  -- The tag of an execution is neither of those of refusals.
  let execution : SuccessfulExecution := { response := value, updatedData := none }
  have known : Message.isTagged UserNotAuthenticated (Message.toValue execution) = false := rfl
  have allowed : Message.isTagged UserNotAuthorized (Message.toValue execution) = false := rfl
  have read : Message.ofValue (Message.toValue execution) = .ok execution :=
    SuccessfulExecution.ofValue_toValue nofun
  simp only [execution] at known allowed read
  simp [sendPrivileged, ofTraced_post made posted, known, allowed, read]

/-- A privileged call that was refused comes to what one callback makes of it. -/
theorem sendPrivileged_of_refusal {handler : PrivilegedHandler} {context : Context}
    {data : handler.request.Data} (made : handler.request.toTagged data = .ok tagged)
    {verdict : Verdict} {refusal : Value} (denied : verdict.refusal = some refusal)
    (posted : invoker.post occasion address tagged state.trace = .ok refusal after) :
    invoker.sendPrivileged occasion policy address data handler.response state =
      (MonadExcept.ofExcept (handler.settle policy context data verdict) :
        Calling handler.response.Data)
        { state with trace := after ++ [.consulted verdict] } := by
  cases verdict with
  | authorized => cases denied
  | notAuthorized message =>
    cases denied
    -- The tag is looked for after the one of callers that are not known.
    let refusal : UserNotAuthorized := { message }
    have known : Message.isTagged UserNotAuthenticated (Message.toValue refusal) = false := rfl
    have tagged := Message.isTagged_toValue refusal
    have read := refusal.ofValue_toValue
    simp only [refusal] at known tagged read
    simp only [sendPrivileged, run_bind, ofTraced_post made posted, known, tagged, read,
      Bool.false_eq_true, if_false, if_true, run_ofExcept_ok]
    exact Calling.ofTraced_consult _ _ _
  | notAuthenticated message =>
    cases denied
    let refusal : UserNotAuthenticated := { message }
    have tagged := Message.isTagged_toValue refusal
    have read := refusal.ofValue_toValue
    simp only [refusal] at tagged read
    simp only [sendPrivileged, run_bind, ofTraced_post made posted, tagged, read, if_true,
      run_ofExcept_ok]
    exact Calling.ofTraced_consult _ _ _

/-- A request that reads back is checked, and what follows the check is what comes of it. -/
theorem invoke_gives_of_proceed {handler : PrivilegedHandler} {context : Context}
    {data : handler.request.Data} (made : handler.request.toTagged data = .ok tagged)
    (survives : handler.request.Survives data) {outcome : Except Failure Value}
    {course : List Event}
    (gives : (handler.proceed context data (handler.verdict context data)).Gives outcome course) :
    (handler.invoke context tagged).Gives outcome
      (.probed (handler.call context data) (handler.verdict context data) :: course) := by
  -- The far side reads what was sent, and checks it before anything else.
  have checked : handler.invoke context tagged = (do
      record (.probed (handler.call context data) (handler.verdict context data))
      handler.proceed context data (handler.verdict context data)) :=
    PrivilegedHandler.invoke_of_read (survives.ofValue_toTagged made)
  rw [checked]
  exact (Traced.Gives.record _).bind gives

/-- After a check that says yes, the answer is the result of the body, or its failure. -/
theorem exists_gives_of_authorized {dispatcher : Dispatcher} {handler : PrivilegedHandler}
    {context : Context} {data : handler.request.Data}
    (found : dispatcher.registry.resolve handler.request.wireName = .ok (.privileged handler))
    (made : handler.request.toTagged data = .ok tagged) (survives : handler.request.Survives data)
    (allowed : handler.verdict context data = .authorized) :
    ∃ events, (dispatcher.answer context tagged).Gives
      ((handler.handle (handler.call context data).context data).map fun result =>
        Message.toValue ({ response := handler.response.toResponse result, updatedData := none } :
          SuccessfulExecution)) events := by
  have ran : (handler.proceed context data (handler.verdict context data)).Gives _ _ :=
    allowed ▸ PrivilegedHandler.proceed_authorized
  obtain ⟨tallies, gives⟩ := dispatcher.answer_gives (Value.toTree_tagged made).1 found
    (invoke_gives_of_proceed made survives ran)
  exact ⟨_, gives⟩

/--
A privileged call to an endpoint in the same process does what its check says.

The body runs once if the check says yes, and the caller gets its result, or the kind and the text
of its failure. Otherwise one callback is asked, once and with the message of the refusal, and the
caller gets its answer. The data of the session stays as it was. The response has to respect the
ceilings in its envelope, and a frame has to count it.
-/
theorem sendPrivileged_inProcess (dispatcher : Dispatcher) (invoker : Invoker)
    (handler : PrivilegedHandler) (policy : RefusalPolicy) (requestId : String)
    (elapsed : Duration) (address : String) (data : handler.request.Data) (state : CallerState)
    {tagged : Value}
    (found : dispatcher.registry.resolve handler.request.wireName = .ok (.privileged handler))
    (made : handler.request.toTagged data = .ok tagged) (survives : handler.request.Survives data)
    (results : ∀ context result, handler.handle context data = .ok result →
      handler.response.Survives result)
    (passes : invoker.LetsThrough dispatcher tagged requestId state.trace)
    (counted : invoker.AnswerCounted dispatcher tagged requestId state.trace)
    {decoders : Decoders} (inverted : decoders.Invert invoker.compressor) :
    let context : Context := { session := some invoker.session, requestId := some requestId }
    let call := handler.call context data
    let verdict := handler.verdict context data
    ∃ events, Trace.uncounted events = [.probed call verdict, verdict.consequence call] ∧
      invoker.sendPrivileged (invoker.occasion dispatcher requestId elapsed decoders) policy
          address data handler.response state =
        (MonadExcept.ofExcept (handler.settle policy context data verdict) :
          Calling handler.response.Data)
          { state with trace := state.trace ++ events } := by
  intro context call verdict
  have named := (Value.toTree_tagged made).1
  -- Whatever follows the check is what the caller is answered, with counting around it.
  have posted {outcome : Except Failure Value} {course : List Event}
      (gives : (handler.proceed context data verdict).Gives outcome course) :
      ∃ events, Trace.uncounted events = .probed call verdict :: Trace.uncounted course ∧
        invoker.post (invoker.occasion dispatcher requestId elapsed decoders) address tagged
            state.trace =
          Traced.ofExcept (outcome.mapError Failure.remote) (state.trace ++ events) :=
    passes.post_of_invoke counted inverted elapsed address named found
      (invoke_gives_of_proceed made survives gives)
  cases denied : verdict.refusal with
  | some refusal =>
    obtain ⟨events, happened, answered⟩ := posted (PrivilegedHandler.proceed_of_refusal denied)
    refine ⟨events ++ [.consulted verdict], ?_, ?_⟩
    · -- Only a refusal is counted before the caller is asked.
      rw [Trace.uncounted_append, happened, Verdict.consequence_of_refusal denied]
      rfl
    · rw [← List.append_assoc]
      exact sendPrivileged_of_refusal made denied answered
  | none =>
    have allowed := Verdict.eq_authorized_of_refusal denied
    have ran : (handler.proceed context data verdict).Gives _ _ :=
      allowed ▸ PrivilegedHandler.proceed_authorized
    obtain ⟨events, happened, answered⟩ := posted ran
    refine ⟨events, allowed ▸ happened, ?_⟩
    -- The result of the body is the response of the execution, and reads back as it was.
    simp only [allowed, PrivilegedHandler.settle]
    cases handled : handler.handle (handler.call context data).context data with
    | ok result =>
      rw [handled] at answered
      rw [sendPrivileged_of_execution made answered, (results _ _ handled).ofValue_toResponse]
      rfl
    | error failure =>
      rw [handled] at answered
      exact sendPrivileged_of_failure made answered

end Invoker

namespace Sample

/-- A caller at the gate, in the session of a user, who compresses requests under tight ceilings. -/
def gateCaller (user : String)
    (limits : Limits := { messageSize := 248, frameSize := 30, depth := 3 }) : Invoker where
  client := {}
  transport := { compression := some .zstd }
  limiter := none
  limits
  session := sessionOf user
  compressor := framing

/-- A policy under which a refusal to somebody who is known is an answer all the same. -/
def gatePolicy : RefusalPolicy where
  notAuthorized refusal := .ok (.string refusal.message)
  notAuthenticated refusal := .error (.notAuthenticated refusal.message)

/-- A request for a name that does not say who asks. -/
def renameData : renameUser.request.Data := (none, "x", ())

/-- The request for a name as it is sent, with its fields in the order of their names. -/
def renameSent : Value :=
  .object "com.example.RenameUser" [("new_name", .string "x"), ("user", .null)]

/-- Ceilings that the request for a name and the answers to it just respect. -/
theorem gateCaller_within {user : String} (known : user = "admin" ∨ user = "bob") :
    (Message.toValue ((gateCaller user).envelope renameSent "1")).Within
        { messageSize := 239, frameSize := 30, depth := 3 } ∧
      ((gateCaller user).due gate renameSent "1" []).Within
        { messageSize := 248, frameSize := 30, depth := 3 } := by
  rcases known with rfl | rfl <;> decide +kernel

/-- The request for a name arrives wherever its envelope can be encoded, with a little room. -/
theorem gateCaller_arrives {user : String} (known : user = "admin" ∨ user = "bob")
    {limits : Limits}
    (below : Limits.Below { messageSize := 248, frameSize := 30, depth := 3 } limits) :
    (gateCaller user limits).Arrives renameSent "1" := by
  have path : (Bytes.ofString ({} : ClientSettings).endpointPath).length ≤ 0xFFFF := by decide
  obtain ⟨within, _⟩ := gateCaller_within known
  exact arrives_of_framing rfl rfl path rfl within (by decide) below

/-- The request for a name gets to the gate and back, whatever the gate says. -/
theorem gateCaller_letsThrough {user : String} (known : user = "admin" ∨ user = "bob") :
    (gateCaller user).LetsThrough gate renameSent "1" [] ∧
      (gateCaller user).AnswerCounted gate renameSent "1" [] := by
  obtain ⟨_, respected⟩ := gateCaller_within known
  have answered := encode_of_within respected (by decide)
  have arrives := gateCaller_arrives known ⟨Nat.le_refl _, Nat.le_refl _, Nat.le_refl _⟩
  exact ⟨⟨arrives, _, answered⟩,
    .of_encode answered (Nat.le_trans respected.message (by decide))⟩

/-- The administrator is given the name, and another user what a policy makes of the refusal. -/
theorem sendPrivileged_inProcess_rename :
    let kept : CallerState := { sessionData := some (.string "kept"), trace := [] }
    (∃ events, Trace.uncounted events =
        [.probed (renameCall (some (sessionOf "admin"))) .authorized,
          .ran (renameCall (some (sessionOf "admin")))] ∧
      (gateCaller "admin").sendPrivileged ((gateCaller "admin").occasion gate "1" (.ofSeconds 9))
          gatePolicy "host" renameData renameUser.response kept =
        .ok "x" { kept with trace := events }) ∧
      ∃ events, Trace.uncounted events =
          [.probed (renameCall (some (sessionOf "bob"))) (.notAuthorized "no permission"),
            .consulted (.notAuthorized "no permission")] ∧
        (gateCaller "bob").sendPrivileged ((gateCaller "bob").occasion gate "1" (.ofSeconds 9))
            gatePolicy "host" renameData renameUser.response kept =
          .ok "no permission" { kept with trace := events } := by
  intro kept
  have made : renameUser.request.toTagged renameData = .ok renameSent := rfl
  have survives : renameUser.request.Survives renameData := rfl
  have results : ∀ context result, renameUser.handle context renameData = .ok result →
      renameUser.response.Survives result := by
    intro context result handled
    cases handled
    rfl
  obtain ⟨passes, counted⟩ := gateCaller_letsThrough (.inl rfl)
  obtain ⟨passesToo, countedToo⟩ := gateCaller_letsThrough (.inr rfl)
  exact ⟨Invoker.sendPrivileged_inProcess gate (gateCaller "admin") renameUser gatePolicy "1"
      (.ofSeconds 9) "host" renameData kept rfl made survives results passes counted
      framing_inverted,
    Invoker.sendPrivileged_inProcess gate (gateCaller "bob") renameUser gatePolicy "1"
      (.ofSeconds 9) "host" renameData kept rfl made survives results passesToo countedToo
      framing_inverted⟩

/-- The gate of a host with a long name. -/
def distantGate : Dispatcher :=
  { gate with hostLabel := String.ofList (List.replicate 65 'h') }

/-- Answers with a text, whatever name is asked for. -/
def reciting (text : String) : PrivilegedHandler :=
  { renameUser with handle := fun _ _ => .ok text }

/-- A server that answers with a text. -/
def reciter (text : String) : Dispatcher where
  registry := ⟨[("com.example.RenameUser", .privileged (reciting text))]⟩
  hostLabel := "server"

/-- The execution that a text is the response of. -/
def recited (text : String) : Value :=
  Message.toValue ({ response := .string text, updatedData := none } : SuccessfulExecution)

/-- Such an execution is an object with the text in it, and little else. -/
theorem recited_bounds {text : String} (long : (Bytes.ofString text).length = 0xFFFFFFFF) :
    (recited text).wire.length = 0x100000046 ∧
      (∀ count ∈ (recited text).lengths, count ≤ 0xFFFFFFFF) ∧ (recited text).nesting = 1 := by
  have shape : recited text = .object "wirecall.SuccessfulExecution"
      [("response", .string text), ("updated_data", .null)] := rfl
  have names : (Bytes.ofString "wirecall.SuccessfulExecution").length = 28 ∧
      (Bytes.ofString "response").length = 8 ∧ (Bytes.ofString "updated_data").length = 12 :=
    ⟨rfl, rfl, rfl⟩
  refine ⟨?_, fun count member => ?_, rfl⟩
  · simp only [shape, Value.wire, Value.wireOfEntries, Value.wireOfString, List.length_cons,
      List.length_append, List.length_nil, Bytes.length_ofNatBE, names, long]
  · simp only [shape, Value.lengths, Value.lengthsOfEntries, names, long] at member
    simp at member
    omega

/--
A call may fail although the body gave a result.

The response may pass a ceiling only once it is in its envelope, and it may be longer than a frame
can tell.
-/
theorem sendPrivileged_inProcess_beyond :
    let context : Context := { session := some (sessionOf "admin"), requestId := some "1" }
    let kept : CallerState := { sessionData := some (.string "kept"), trace := [] }
    let distant := gateCaller "admin" distantLimits
    let roomy := gateCaller "admin" roomyLimits
    let text := zeros 0xFFFFFFFF
    (distant.Arrives renameSent "1" ∧
      encode (recited "x") distantLimits = .ok (recited "x").image ∧
      renameUser.settle gatePolicy context renameData (renameUser.verdict context renameData) =
        .ok "x" ∧
      ∃ final,
        distant.sendPrivileged (distant.occasion distantGate "1" (.ofSeconds 9)) gatePolicy "host"
            renameData renameUser.response kept =
          .error (.remoteExecution "LimitExceeded" "max frame size exceeded: 65 > 64") final) ∧
    roomy.Arrives renameSent "1" ∧
      (∃ answer, encode (roomy.due (reciter text) renameSent "1" []) roomyLimits = .ok answer) ∧
      (reciting text).settle gatePolicy context renameData
        ((reciting text).verdict context renameData) = .ok text ∧
      ∃ final,
        roomy.sendPrivileged (roomy.occasion (reciter text) "1" (.ofSeconds 9)) gatePolicy "host"
            renameData renameUser.response kept =
          .error (.limitExceeded .messageSize 0xFFFFFFFF 0x100000099) final := by
  intro context kept distant roomy text
  have made : renameUser.request.toTagged renameData = .ok renameSent := rfl
  have survives : renameUser.request.Survives renameData := rfl
  constructor
  · have arrives : distant.Arrives renameSent "1" :=
      gateCaller_arrives (.inl rfl) ⟨by decide, by decide, by decide⟩
    -- The name of the host is the only text that is too long.
    have refused : encode (distant.due distantGate renameSent "1" []) distant.limits =
        .error (.limitExceeded .frameSize 64 65) := by
      decide +kernel
    have told := encode_of_within told_within (by decide)
    have within : (recited "x").Within distantLimits := by decide
    obtain ⟨events, gives⟩ := Invoker.exists_gives_of_authorized
      (show distantGate.registry.resolve renameUser.request.wireName = .ok (.privileged renameUser)
        from rfl) made survives
      (show renameUser.verdict context renameData = .authorized from rfl)
    obtain ⟨final, posted⟩ := arrives.post_of_refused gives framing_inverted refused told
      (Nat.le_trans told_within.message (by decide)) (.ofSeconds 9) "host"
    exact ⟨arrives, encode_of_within within (by decide), rfl, _,
      Invoker.sendPrivileged_of_failure made posted⟩
  · have arrives : roomy.Arrives renameSent "1" :=
      gateCaller_arrives (.inl rfl) ⟨by decide, by decide, by decide⟩
    -- Nothing depends on the text but its length.
    have long : (Bytes.ofString text).length = 0xFFFFFFFF := length_zeros _
    generalize text = text at long ⊢
    obtain ⟨events, gives⟩ : ∃ events, ((reciter text).answer context renameSent).Gives
        (.ok (recited text)) events :=
      Invoker.exists_gives_of_authorized
        (show (reciter text).registry.resolve (reciting text).request.wireName =
          .ok (.privileged (reciting text)) from rfl) made survives
        (show (reciting text).verdict context renameData = .authorized from rfl)
    obtain ⟨size, items, shallow⟩ := recited_bounds long
    obtain ⟨encoded, final, posted⟩ := post_of_long_response rfl arrives framing_inverted gives rfl
      rfl (by rw [size]; decide) (by rw [size]; decide) items (Nat.le_of_eq shallow) (.ofSeconds 9)
      "host" []
    rw [size] at posted
    exact ⟨arrives, encoded, rfl, _, Invoker.sendPrivileged_of_failure made posted⟩

end Sample

end RemoteCall
