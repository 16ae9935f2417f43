import RemoteCall.Proofs.Server.Gating

/-! A request in an envelope comes to what its handler does, and is answered in an envelope. -/

namespace RemoteCall

namespace Traced

variable {α : Type}

/-- A step comes to an outcome, whatever was recorded before it and is recorded by it. -/
def ComesTo (step : Traced α) (outcome : Except Failure α) : Prop :=
  ∃ events, step.Gives outcome events

/-- A step comes to one outcome only. -/
theorem ComesTo.unique {step : Traced α} {outcome other : Except Failure α}
    (comes : step.ComesTo outcome) (comesToo : step.ComesTo other) : outcome = other := by
  obtain ⟨events, gives⟩ := comes
  obtain ⟨more, givesToo⟩ := comesToo
  have same := (gives []).symm.trans (givesToo [])
  -- An outcome is told from the way in which a step ends.
  cases outcome with
  | ok answer =>
    cases other with
    | ok found =>
      cases same
      rfl
    | error failure => cases same
  | error failure =>
    cases other with
    | ok found => cases same
    | error found =>
      cases same
      rfl

end Traced

/-- A handler comes to the same for a request, whatever it is told beside it. -/
def Handler.Unaware (handler : Handler) (request : Value) : Prop :=
  ∀ context other outcome, (handler.invoke context request).ComesTo outcome →
    (handler.invoke other request).ComesTo outcome

/-- A response is wrapped with the host that gave it. -/
@[simp] theorem ResponseEnvelope.host_wrap (response : Value) (host : Option String) :
    (wrap response host).host = host := by
  cases response <;> rfl

/-- What an answer in an envelope holds. -/
def ResponseEnvelope.unwrapped (answer : Value) : Except Failure Value :=
  (Message.ofValue answer : Except Failure ResponseEnvelope).map unwrap

/-- A response that was wrapped is what the envelope holds. -/
theorem ResponseEnvelope.unwrapped_wrap (response : Value) (host : Option String) :
    unwrapped (Message.toValue (wrap response host)) = .ok response := by
  rw [unwrapped, ofValue_toValue]
  exact congrArg Except.ok (unwrap_wrap response host)

namespace Dispatcher

/-- What the handling of a request comes to: its tag names a handler, and that is asked. -/
inductive Handles (dispatcher : Dispatcher) (context : Context) (request : Value) :
    Except Failure Value → Prop where
  /-- The request has no tag. -/
  | untagged (bare : request.objectType? = none) :
      Handles dispatcher context request (.error (.malformed .untaggedRequest))
  /-- There is no handler for the tag. -/
  | unresolved {typeName : String} {failure : Failure}
      (tagged : request.objectType? = some typeName)
      (unknown : dispatcher.registry.resolve typeName = .error failure) :
      Handles dispatcher context request (.error failure)
  /-- The handler comes to something. -/
  | handled {typeName : String} {handler : Handler} {outcome : Except Failure Value}
      (tagged : request.objectType? = some typeName)
      (found : dispatcher.registry.resolve typeName = .ok handler)
      (comes : (handler.invoke context request).ComesTo outcome) :
      Handles dispatcher context request outcome

variable {dispatcher : Dispatcher} {context : Context} {request inner : Value}
  {outcome : Except Failure Value}

/-- The handling of a request comes to something. -/
theorem exists_handles (dispatcher : Dispatcher) (context : Context) (request : Value) :
    ∃ outcome, dispatcher.Handles context request outcome := by
  -- The three cases are those in which the steps of the handling can end.
  cases tagged : request.objectType? with
  | none => exact ⟨_, .untagged tagged⟩
  | some typeName =>
    cases found : dispatcher.registry.resolve typeName with
    | error failure => exact ⟨_, .unresolved tagged found⟩
    | ok handler =>
      obtain ⟨outcome, events, _, gives⟩ := handler.exists_course context request
      exact ⟨outcome, .handled tagged found ⟨events, gives⟩⟩

/-- A request is answered as it is handled. -/
theorem Handles.answer (handles : dispatcher.Handles context request outcome) :
    (dispatcher.answer context request).ComesTo outcome := by
  -- Nothing is recorded before a handler is found.
  cases handles with
  | untagged bare =>
    refine ⟨[], ?_⟩
    simp only [Dispatcher.answer, bare]
    exact .throw _
  | unresolved tagged unknown =>
    refine ⟨[], ?_⟩
    simp only [Dispatcher.answer, tagged, unknown]
    exact (Traced.Gives.ofExcept _).bind_error
  | handled tagged found comes =>
    -- Counting around the invocation does not change what it comes to.
    obtain ⟨events, gives⟩ := comes
    obtain ⟨tallies, answered⟩ := dispatcher.answer_gives tagged found gives
    exact ⟨_, answered⟩

/-- An execution comes to what the handling does, in the form of the request. -/
theorem Handles.execute (handles : dispatcher.Handles context inner outcome)
    (came : opened request = .ok (context, inner)) :
    (dispatcher.execute request).ComesTo (outcome.map (dispatcher.returned request)) := by
  obtain ⟨events, gives⟩ := handles.answer
  exact ⟨events, execute_gives came gives⟩

/-- An execution comes to nothing but what the handling does, in the form of the request. -/
theorem execute_comesTo_iff (came : opened request = .ok (context, inner)) :
    (dispatcher.execute request).ComesTo outcome ↔
      ∃ handled, dispatcher.Handles context inner handled ∧
        handled.map (dispatcher.returned request) = outcome := by
  constructor
  -- The handling comes to something, and the execution comes to one outcome only.
  · intro comes
    obtain ⟨handled, handles⟩ := dispatcher.exists_handles context inner
    exact ⟨handled, handles, (handles.execute came).unique comes⟩
  · rintro ⟨handled, handles, rfl⟩
    exact handles.execute came

/-- A bare request is opened to itself, in a context of which nothing is known. -/
theorem opened_of_bare (bare : Message.isTagged SessionEnvelope request = false) :
    opened request = .ok ({}, request) := by
  rw [opened, bare]
  rfl

/-- The execution of a bare request comes to what the handling does. -/
theorem execute_bare_iff (bare : Message.isTagged SessionEnvelope request = false) :
    (dispatcher.execute request).ComesTo outcome ↔ dispatcher.Handles {} request outcome := by
  -- The response is given back as it is.
  have plain : dispatcher.returned request = id := by
    funext response
    rw [returned, bare]
    rfl
  rw [execute_comesTo_iff (opened_of_bare bare), plain]
  constructor
  · rintro ⟨handled, handles, same⟩
    cases handled with
    | ok response => exact same ▸ handles
    | error failure => exact same ▸ handles
  · intro handles
    refine ⟨outcome, handles, ?_⟩
    cases outcome with
    | ok response => rfl
    | error failure => rfl

/-- A response in an envelope, as the dispatcher gives it. -/
def wrapped (dispatcher : Dispatcher) (response : Value) : Value :=
  Message.toValue (ResponseEnvelope.wrap response (some dispatcher.hostLabel))

/-- A response that was wrapped is told from the answer, and a failure is left alone. -/
theorem bind_unwrapped_map_wrapped (dispatcher : Dispatcher) (outcome : Except Failure Value) :
    (outcome.map dispatcher.wrapped).bind ResponseEnvelope.unwrapped = outcome := by
  cases outcome with
  | ok response => exact ResponseEnvelope.unwrapped_wrap response _
  | error failure => rfl

/-- The execution of an envelope comes to what the handling does, a response being wrapped. -/
theorem execute_envelope_iff (envelope : SessionEnvelope) :
    (dispatcher.execute (Message.toValue envelope)).ComesTo outcome ↔
      ∃ handled, dispatcher.Handles
          { session := some envelope.session, requestId := some envelope.uniqueId }
          envelope.request handled ∧ handled.map dispatcher.wrapped = outcome := by
  have wrapping : dispatcher.returned (Message.toValue envelope) = dispatcher.wrapped := by
    funext response
    rw [returned, if_pos (Message.isTagged_toValue envelope), wrapped]
  rw [execute_comesTo_iff (opened_toValue envelope), wrapping]

/-- Where the handler does not look at the context, a request is handled alike in all of them. -/
theorem Handles.of_unaware (handles : dispatcher.Handles context request outcome)
    (unaware : ∀ typeName handler, request.objectType? = some typeName →
      dispatcher.registry.resolve typeName = .ok handler → handler.Unaware request)
    (other : Context) : dispatcher.Handles other request outcome := by
  -- Only the handler itself is told the context.
  cases handles with
  | untagged bare => exact .untagged bare
  | unresolved tagged unknown => exact .unresolved tagged unknown
  | handled tagged found comes =>
    exact .handled tagged found (unaware _ _ tagged found _ other _ comes)

/--
An envelope around a request changes nothing but the context of its handler and the form of its
answer.

There is an answer exactly when the handler responds; it names the host, and holds the response as
it was given. The failures are those of finding the handler and of the handler itself, and a bare
request comes to the same as soon as its handler does not look at the context.
-/
theorem execute_symmetric (dispatcher : Dispatcher) (session : SessionId) (uniqueId : String)
    {request : Value} (bare : Message.isTagged SessionEnvelope request = false) :
    let context : Context := { session := some session, requestId := some uniqueId }
    let enveloped := Message.toValue ({ request, session, uniqueId } : SessionEnvelope)
    ((∃ answer, (dispatcher.execute enveloped).ComesTo (.ok answer)) ↔
        ∃ response, dispatcher.Handles context request (.ok response)) ∧
      (∀ answer response, (dispatcher.execute enveloped).ComesTo (.ok answer) →
        dispatcher.Handles context request (.ok response) →
          ∃ envelope : ResponseEnvelope, Message.ofValue answer = .ok envelope ∧
            envelope.host = some dispatcher.hostLabel ∧ envelope.unwrap = response) ∧
      (∀ failure, (dispatcher.execute enveloped).ComesTo (.error failure) ↔
        dispatcher.Handles context request (.error failure)) ∧
      (∀ outcome, (dispatcher.execute request).ComesTo outcome ↔
        dispatcher.Handles {} request outcome) ∧
      ((∀ typeName handler, request.objectType? = some typeName →
          dispatcher.registry.resolve typeName = .ok handler → handler.Unaware request) →
        ∀ outcome, (dispatcher.execute enveloped).ComesTo outcome →
          (dispatcher.execute request).ComesTo (outcome.bind ResponseEnvelope.unwrapped)) := by
  intro context enveloped
  -- An execution of the envelope is a handling whose response is wrapped.
  have executed {outcome : Except Failure Value} :
      (dispatcher.execute enveloped).ComesTo outcome ↔
        ∃ handled, dispatcher.Handles context request handled ∧
          handled.map dispatcher.wrapped = outcome :=
    execute_envelope_iff { request, session, uniqueId }
  refine ⟨?answered, ?held, ?failed, fun outcome => execute_bare_iff bare, ?unaware⟩
  case answered =>
    constructor
    · rintro ⟨answer, comes⟩
      obtain ⟨failure | response, handles, same⟩ := executed.mp comes
      · cases same
      · exact ⟨_, handles⟩
    · rintro ⟨response, handles⟩
      exact ⟨_, executed.mpr ⟨_, handles, rfl⟩⟩
  case held =>
    intro answer response comes handles
    -- The answer is the wrapped response, which reads back as it was wrapped.
    have same := comes.unique (executed.mpr ⟨_, handles, rfl⟩)
    cases same
    exact ⟨_, ResponseEnvelope.ofValue_toValue _, ResponseEnvelope.host_wrap ..,
      ResponseEnvelope.unwrap_wrap ..⟩
  case failed =>
    intro failure
    -- Wrapping leaves failures alone, and makes none.
    constructor
    · intro comes
      obtain ⟨cause | response, handles, same⟩ := executed.mp comes
      · cases same
        exact handles
      · cases same
    · intro handles
      exact executed.mpr ⟨_, handles, rfl⟩
  case unaware =>
    intro unaware outcome comes
    obtain ⟨handled, handles, rfl⟩ := executed.mp comes
    rw [bind_unwrapped_map_wrapped, execute_bare_iff bare]
    exact handles.of_unaware unaware {}

end Dispatcher

namespace Sample

/-- A call for the names of the directory. -/
def namesRequest : Value :=
  Message.toValue
    ({ interface := "com.example.Directory", method := "names", arguments := [] } :
      RemoteServiceRequest)

/-- The names of the directory are the same array in an envelope and without one. -/
theorem execute_symmetric_names :
    let names : Value := .array "string" [.string "a", .string "b"]
    let enveloped := Message.toValue
      ({ request := namesRequest, session := sessionOf "bob", uniqueId := "1" } : SessionEnvelope)
    Message.isTagged SessionEnvelope namesRequest = false ∧
      ∃ answer, (gate.execute enveloped).ComesTo (.ok answer) ∧
        (∃ envelope : ResponseEnvelope, Message.ofValue answer = .ok envelope ∧
          envelope.host = some "server" ∧ envelope.unwrap = names) ∧
        (gate.execute namesRequest).ComesTo (ResponseEnvelope.unwrapped answer) ∧
          (gate.execute namesRequest).ComesTo (.ok names) := by
  intro names enveloped
  have bare : Message.isTagged SessionEnvelope namesRequest = false := by decide +kernel
  have handles (context : Context) : gate.Handles context namesRequest (.ok names) :=
    .handled rfl rfl ⟨_, fun trace => rfl⟩
  obtain ⟨answered, held, _, plain, alike⟩ :=
    Dispatcher.execute_symmetric gate (sessionOf "bob") "1" bare
  obtain ⟨answer, comes⟩ := answered.mpr ⟨names, handles _⟩
  refine ⟨bare, answer, comes, held answer names comes (handles _), ?_, (plain _).mpr (handles _)⟩
  -- Services are not told the context.
  refine alike (fun typeName handler tagged found => ?_) (.ok answer) comes
  cases tagged
  cases found
  exact fun _ _ _ comes => comes

end Sample

end RemoteCall
