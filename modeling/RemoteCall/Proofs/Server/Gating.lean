import RemoteCall.Proofs.Message
import RemoteCall.Proofs.Server.Building
import RemoteCall.Proofs.Server.Courses
import RemoteCall.Sample.Server
import RemoteCall.Server.Dispatcher

/-! No privileged body runs but right after its own check has said yes, whatever is executed. -/

namespace RemoteCall

/-- An execution among others: what was asked, how it came out, and what happened meanwhile. -/
structure Served where
  request : Value
  outcome : Except Failure Value
  events : List Event

/-- Whether something was only counted. -/
def Event.isTally : Event → Bool
  | .counted _ => true
  | _ => false

/-- Whether a check was made. -/
def Event.isProbe : Event → Bool
  | .probed _ _ => true
  | _ => false

/-- Whether a body ran, of a handler or of a method. -/
def Event.isBody : Event → Bool
  | .ran _ => true
  | .called _ _ _ => true
  | _ => false

namespace Dispatcher

/-- What is executed in which context, out of the envelope if there is one. -/
def opened (request : Value) : Except Failure (Context × Value) :=
  if Message.isTagged SessionEnvelope request then
    (Message.ofValue request : Except Failure SessionEnvelope).map fun envelope =>
      ({ session := some envelope.session, requestId := some envelope.uniqueId }, envelope.request)
  else .ok ({}, request)

/-- A response in the form in which the request came. -/
def returned (dispatcher : Dispatcher) (request response : Value) : Value :=
  if Message.isTagged SessionEnvelope request then
    Message.toValue (ResponseEnvelope.wrap response (some dispatcher.hostLabel))
  else response

/-- Executes requests one after the other, whatever becomes of them. -/
def serve (dispatcher : Dispatcher) : List Value → Traced (List (Except Failure Value))
  | [] => return []
  | request :: requests => do
    let outcome ← Traced.attempt (dispatcher.execute request)
    return outcome :: (← dispatcher.serve requests)

/-- A request asks a privileged handler for something that it can read, in some context. -/
def Asks (dispatcher : Dispatcher) (request : Value) (context : Context)
    (handler : PrivilegedHandler) (data : handler.request.Data) : Prop :=
  -- What counts is the request itself, out of the envelope if there is one.
  ∃ inner, opened request = .ok (context, inner) ∧
    inner.objectType? = some handler.request.wireName ∧
    dispatcher.registry.resolve handler.request.wireName = .ok (.privileged handler) ∧
    handler.request.ofValue inner = .ok data

/-- What a request is checked for: a call by the subject, and what the handler says to it. -/
def Checks (dispatcher : Dispatcher) (request : Value) (call : Call) (verdict : Verdict) : Prop :=
  -- The user of the session comes before the one that the request names.
  ∃ context handler data, dispatcher.Asks request context handler data ∧
    call = ⟨⟨handler.request, data⟩,
      { context with subject := (context.session.bind (·.userName)).or (handler.user data) }⟩ ∧
    verdict = handler.authorize call.context data

/-- An execution that respects what the handlers of privileged requests say. -/
structure Gated (dispatcher : Dispatcher) (served : Served) : Prop where
  /-- A request is checked by the privileged handler that it asks, and by no other. -/
  probed : ∀ call verdict, .probed call verdict ∈ served.events ↔
    dispatcher.Checks served.request call verdict
  /-- A body runs right after its check has said yes, or is one that anyone may ask for. -/
  ran : ∀ before call behind, served.events = before ++ .ran call :: behind →
    (∃ handler earlier,
        dispatcher.registry.resolve call.request.shape.wireName = .ok (.privileged handler) ∧
          before = earlier ++ [.probed call .authorized]) ∨
      ∃ handler,
        dispatcher.registry.resolve call.request.shape.wireName = .ok (.ordinary handler) ∧
          call.context.subject = none
  /-- A check that says no is the answer, and no body runs. -/
  refused : ∀ call verdict refusal, .probed call verdict ∈ served.events →
    verdict.refusal = some refusal → served.events.countP Event.isBody = 0 ∧
      served.outcome = .ok (dispatcher.returned served.request refusal)
  /-- A check that says yes is followed by the body, whose result is the answer. -/
  permitted : ∀ call, .probed call .authorized ∈ served.events → .ran call ∈ served.events ∧
    ∃ handler data,
      dispatcher.registry.resolve call.request.shape.wireName = .ok (.privileged handler) ∧
        call.request = ⟨handler.request, data⟩ ∧
        served.outcome = (handler.handle call.context data).map fun result =>
          dispatcher.returned served.request (Message.toValue
            ({ response := handler.response.toResponse result, updatedData := none } :
              SuccessfulExecution))
  probes : served.events.countP Event.isProbe ≤ 1
  bodies : served.events.countP Event.isBody ≤ 1

variable {dispatcher : Dispatcher}

/-- A request asks for nothing else than what is found in it. -/
theorem Asks.resolved {request inner : Value} {context other : Context} {typeName : String}
    {found : Handler} {handler : PrivilegedHandler} {data : handler.request.Data}
    (asks : dispatcher.Asks request other handler data)
    (came : opened request = .ok (context, inner)) (tagged : inner.objectType? = some typeName)
    (resolved : dispatcher.registry.resolve typeName = .ok found) :
    found = .privileged handler ∧ other = context ∧ handler.request.ofValue inner = .ok data := by
  obtain ⟨_, cameToo, taggedToo, resolvedToo, read⟩ := asks
  -- Opening, the name and the handler are found in one way only.
  cases came.symm.trans cameToo
  cases tagged.symm.trans taggedToo
  cases resolved.symm.trans resolvedToo
  exact ⟨rfl, rfl, read⟩

/-- Where no privileged handler is asked, there is no check, as there should be none. -/
theorem probed_of_unasked {request : Value} {events : List Event}
    (unasked : ∀ context handler data, ¬ dispatcher.Asks request context handler data)
    (unprobed : ∀ call verdict, Event.probed call verdict ∉ events) (call : Call)
    (verdict : Verdict) :
    .probed call verdict ∈ events ↔ dispatcher.Checks request call verdict := by
  constructor
  · intro member
    exact absurd member (unprobed call verdict)
  · rintro ⟨context, handler, data, asks, _⟩
    exact absurd asks (unasked context handler data)

/-- Nothing is known against an execution in which nothing happened, as nothing was asked. -/
theorem Gated.of_silent {served : Served}
    (unasked : ∀ context handler data, ¬ dispatcher.Asks served.request context handler data)
    (silent : served.events = []) : dispatcher.Gated served where
  probed := probed_of_unasked unasked (by simp [silent])
  ran _ _ _ split := by simp [silent] at split
  refused _ _ _ member := by simp [silent] at member
  permitted _ member := by simp [silent] at member
  probes := by simp [silent]
  bodies := by simp [silent]

/-- The events of an invocation, between the counting before it and the counting behind it. -/
def around (course : List Event) (tallies : List Tally) : List Event :=
  .counted .dispatched :: (course ++ tallies.map .counted)

/-- What stands between two parts of the events is one of them. -/
theorem mem_of_parts {events before behind : List Event} {event : Event}
    (parts : events = before ++ event :: behind) : event ∈ events := by
  simp [parts]

/-- Counting is all there is behind an invocation. -/
theorem isTally_of_mem {tallies : List Tally} {event : Event}
    (member : event ∈ tallies.map Event.counted) : event.isTally = true := by
  obtain ⟨tally, _, rfl⟩ := List.mem_map.mp member
  rfl

/-- Counting adds nothing but itself. -/
theorem mem_around {course : List Event} {tallies : List Tally} {event : Event}
    (real : event.isTally = false) : event ∈ around course tallies ↔ event ∈ course := by
  constructor
  · intro member
    rcases List.mem_cons.mp member with rfl | member
    · cases real
    · rcases List.mem_append.mp member with member | member
      · exact member
      · rw [isTally_of_mem member] at real
        cases real
  · intro member
    exact List.mem_cons_of_mem _ (List.mem_append_left _ member)

/-- What is not counting is found as often as in the invocation. -/
theorem countP_around {course : List Event} {tallies : List Tally} {kind : Event → Bool}
    (real : ∀ tally, kind (.counted tally) = false) :
    (around course tallies).countP kind = course.countP kind := by
  have none : (tallies.map Event.counted).countP kind = 0 := by
    simp [List.countP_eq_zero, real]
  simp [around, real, none]

/-- What comes before an event of an invocation is counted first, and then as in the invocation. -/
theorem split_around {course before behind : List Event} {tallies : List Tally} {event : Event}
    (real : event.isTally = false) (parts : around course tallies = before ++ event :: behind) :
    ∃ inside others, course = inside ++ event :: others ∧
      before = .counted .dispatched :: inside := by
  -- The event is none of those that are counted behind the invocation.
  have elsewhere {rest : List Event} (found : tallies.map Event.counted = rest) :
      event ∉ rest := by
    intro member
    rw [isTally_of_mem (found ▸ member)] at real
    cases real
  cases before with
  | nil =>
    cases parts
    cases real
  | cons first inside =>
    have apart : _ :: _ = first :: (inside ++ event :: behind) := parts
    obtain ⟨rfl, inner⟩ := List.cons.inj apart
    rcases List.append_eq_append_iff.mp inner with ⟨more, rfl, rest⟩ | ⟨more, rfl, rest⟩
    · exact (elsewhere rest (by simp)).elim
    · cases more with
      | nil => exact (elsewhere rest.symm (by simp)).elim
      | cons found others =>
        obtain ⟨rfl, _⟩ := List.cons.inj rest
        exact ⟨inside, others, rfl, rfl⟩

/-- Counting what happens takes nothing away from what is known about it. -/
theorem Gated.counted {request : Value} {outcome : Except Failure Value} {course : List Event}
    (gated : dispatcher.Gated ⟨request, outcome, course⟩) (tallies : List Tally) :
    dispatcher.Gated ⟨request, outcome, around course tallies⟩ where
  probed call verdict := (mem_around rfl).trans (gated.probed call verdict)
  ran before call behind parts := by
    obtain ⟨inside, others, same, rfl⟩ := split_around rfl parts
    rcases gated.ran inside call others same with ⟨handler, earlier, found, rfl⟩ | free
    · exact .inl ⟨handler, _, found, (List.cons_append ..).symm⟩
    · exact .inr free
  refused call verdict refusal member denied := by
    rw [countP_around fun _ => rfl]
    exact gated.refused call verdict refusal ((mem_around rfl).mp member) denied
  permitted call member := by
    obtain ⟨ran, answered⟩ := gated.permitted call ((mem_around rfl).mp member)
    exact ⟨(mem_around rfl).mpr ran, answered⟩
  probes := by
    rw [countP_around fun _ => rfl]
    exact gated.probes
  bodies := by
    rw [countP_around fun _ => rfl]
    exact gated.bodies

/-- What is executed comes out of an envelope that can be read, or was bare. -/
theorem cases_of_opened {request inner : Value} {context : Context}
    (came : opened request = .ok (context, inner)) :
    (∃ envelope : SessionEnvelope, Message.isTagged SessionEnvelope request = true ∧
      Message.ofValue request = .ok envelope ∧ inner = envelope.request ∧
        context = { session := some envelope.session, requestId := some envelope.uniqueId }) ∨
      ¬ Message.isTagged SessionEnvelope request = true ∧ inner = request ∧ context = {} := by
  unfold opened at came
  split at came
  · next wrapped =>
    cases read : (Message.ofValue request : Except Failure SessionEnvelope) with
    | error failure => simp [read, Except.map] at came
    | ok envelope =>
      rw [read] at came
      cases came
      exact .inl ⟨envelope, wrapped, rfl, rfl, rfl⟩
  · next bare =>
    cases came
    exact .inr ⟨bare, rfl, rfl⟩

/-- An envelope is opened to the request in it, in the context of its session. -/
theorem opened_toValue (envelope : SessionEnvelope) :
    opened (Message.toValue envelope) =
      .ok ({ session := some envelope.session, requestId := some envelope.uniqueId },
        envelope.request) := by
  unfold opened
  rw [if_pos (Message.isTagged_toValue envelope), envelope.ofValue_toValue]
  rfl

/-- Nobody is the subject of an execution before a handler says who is. -/
theorem subject_of_opened {request inner : Value} {context : Context}
    (came : opened request = .ok (context, inner)) : context.subject = none := by
  rcases cases_of_opened came with ⟨_, _, _, _, rfl⟩ | ⟨_, _, rfl⟩
  · rfl
  · rfl

section

variable {request inner : Value} {context : Context}

/-- A body that anyone may ask for runs without a subject. -/
theorem Gated.of_ordinary {handler : OrdinaryHandler} {outcome : Except Failure Value}
    {data : handler.request.Data} (free : context.subject = none)
    (unasked : ∀ context handler data, ¬ dispatcher.Asks request context handler data)
    (found : dispatcher.registry.resolve handler.request.wireName = .ok (.ordinary handler)) :
    dispatcher.Gated ⟨request, outcome, [.ran ⟨⟨handler.request, data⟩, context⟩]⟩ where
  probed := probed_of_unasked unasked (by simp)
  ran before call behind parts := by
    -- It is the only event, so that it is the one that is looked at.
    cases before with
    | nil =>
      obtain ⟨same, _⟩ := List.cons.inj parts
      cases same
      exact .inr ⟨handler, found, free⟩
    | cons first before => simp at parts
  refused _ _ _ member := by simp at member
  permitted _ member := by simp at member
  probes := by simp [Event.isProbe]
  bodies := by simp [List.countP_cons, Event.isBody]

/-- Methods are called without a check, and without a subject to speak of. -/
theorem Gated.of_called {outcome : Except Failure Value} {interface method : String}
    {arguments : Typed}
    (unasked : ∀ context handler data, ¬ dispatcher.Asks request context handler data) :
    dispatcher.Gated ⟨request, outcome, [.called interface method arguments]⟩ where
  probed := probed_of_unasked unasked (by simp)
  ran before call behind parts := by
    have member := mem_of_parts parts
    simp at member
  refused _ _ _ member := by simp at member
  permitted _ member := by simp at member
  probes := by simp [Event.isProbe]
  bodies := by simp [List.countP_cons, Event.isBody]

variable {handler : PrivilegedHandler} {data : handler.request.Data}

/-- The check that a privileged handler makes is the one that the request is to have. -/
theorem checks_iff_of_read (came : opened request = .ok (context, inner))
    (tagged : inner.objectType? = some handler.request.wireName)
    (found : dispatcher.registry.resolve handler.request.wireName = .ok (.privileged handler))
    (read : handler.request.ofValue inner = .ok data) {call : Call} {verdict : Verdict} :
    dispatcher.Checks request call verdict ↔
      call = handler.call context data ∧ verdict = handler.verdict context data := by
  constructor
  · rintro ⟨_, _, _, asks, rfl, rfl⟩
    obtain ⟨same, rfl, readToo⟩ := asks.resolved came tagged found
    cases same
    cases read.symm.trans readToo
    exact ⟨rfl, rfl⟩
  · rintro ⟨rfl, rfl⟩
    exact ⟨context, handler, data, ⟨inner, came, tagged, found, read⟩, rfl, rfl⟩

/-- A check that says no is all that happens. -/
theorem Gated.of_refused (came : opened request = .ok (context, inner))
    (tagged : inner.objectType? = some handler.request.wireName)
    (found : dispatcher.registry.resolve handler.request.wireName = .ok (.privileged handler))
    (read : handler.request.ofValue inner = .ok data) {refusal : Value}
    (denied : (handler.verdict context data).refusal = some refusal) :
    dispatcher.Gated ⟨request, .ok (dispatcher.returned request refusal),
      [.probed (handler.call context data) (handler.verdict context data),
        .counted .authorizationDenied]⟩ where
  probed call verdict := by
    rw [checks_iff_of_read came tagged found read]
    simp
  ran before call behind parts := by
    have member := mem_of_parts parts
    simp at member
  refused call verdict other member deniedOther := by
    have same : Event.probed call verdict =
        .probed (handler.call context data) (handler.verdict context data) := by
      simpa using member
    cases same
    rw [denied] at deniedOther
    cases deniedOther
    exact ⟨rfl, rfl⟩
  permitted call member := by
    have same : Event.probed call .authorized =
        .probed (handler.call context data) (handler.verdict context data) := by
      simpa using member
    obtain ⟨_, allowed⟩ := Event.probed.inj same
    rw [← allowed] at denied
    cases denied
  probes := by simp [List.countP_cons, Event.isProbe]
  bodies := by simp [Event.isBody]

/-- A check that says yes comes right before the body, and nothing else happens. -/
theorem Gated.of_permitted (came : opened request = .ok (context, inner))
    (tagged : inner.objectType? = some handler.request.wireName)
    (found : dispatcher.registry.resolve handler.request.wireName = .ok (.privileged handler))
    (read : handler.request.ofValue inner = .ok data)
    (allowed : handler.verdict context data = .authorized) :
    dispatcher.Gated ⟨request,
      (handler.handle (handler.call context data).context data).map fun result =>
        dispatcher.returned request (Message.toValue
          ({ response := handler.response.toResponse result, updatedData := none } :
            SuccessfulExecution)),
      [.probed (handler.call context data) .authorized, .ran (handler.call context data)]⟩ where
  probed call verdict := by
    rw [checks_iff_of_read came tagged found read, allowed]
    simp
  ran before call behind parts := by
    cases before with
    | nil => simp at parts
    | cons first before =>
      obtain ⟨rfl, rest⟩ := List.cons.inj parts
      -- The body is the last event, so that nothing can come between it and the check.
      cases before with
      | nil =>
        obtain ⟨same, _⟩ := List.cons.inj rest
        cases same
        exact .inl ⟨handler, [], found, rfl⟩
      | cons second before => simp at rest
  refused call verdict refusal member denied := by
    have same : Event.probed call verdict = .probed (handler.call context data) .authorized := by
      simpa using member
    cases same
    cases denied
  permitted call member := by
    have same : Event.probed call .authorized =
        .probed (handler.call context data) .authorized := by
      simpa using member
    cases same
    exact ⟨by simp, handler, data, found, rfl, rfl⟩
  probes := by simp [List.countP_cons, Event.isProbe]
  bodies := by simp [List.countP_cons, Event.isBody]

end

/-- Whatever course an invocation takes, it respects what the handler says. -/
theorem Gated.of_course (built : dispatcher.registry.Built) {request inner : Value}
    {context : Context} (came : opened request = .ok (context, inner)) {typeName : String}
    {handler : Handler} (tagged : inner.objectType? = some typeName)
    (found : dispatcher.registry.resolve typeName = .ok handler)
    {outcome : Except Failure Value} {course : List Event}
    (took : handler.Course context inner outcome course) :
    dispatcher.Gated ⟨request, outcome.map (dispatcher.returned request), course⟩ := by
  -- The handler is found under the name of the requests that it reads.
  have named := built.requestType found
  subst named
  -- Only a privileged handler, which has to be the one that is found, is asked for anything.
  have asked (somewhere other data) (asks : dispatcher.Asks request somewhere other data) :
      handler = .privileged other ∧ other.request.ofValue inner = .ok data := by
    obtain ⟨same, _, read⟩ := asks.resolved came tagged found
    exact ⟨same, read⟩
  cases took with
  | unread => exact .of_silent (fun _ _ _ asks => nomatch (asked _ _ _ asks).1) rfl
  | unchecked illegible =>
    refine .of_silent (fun _ _ _ asks => ?_) rfl
    obtain ⟨same, read⟩ := asked _ _ _ asks
    cases same
    cases illegible.symm.trans read
  | uncalled => exact .of_silent (fun _ _ _ asks => nomatch (asked _ _ _ asks).1) rfl
  | ordinary read =>
    exact .of_ordinary (subject_of_opened came) (fun _ _ _ asks => nomatch (asked _ _ _ asks).1)
      found
  | refused read denied => exact .of_refused came tagged found read denied
  | permitted read allowed =>
    -- The result is made an answer first, and then put in the form of the request.
    rw [except_map_map]
    exact .of_permitted came tagged found read allowed
  | called => exact .of_called fun _ _ _ asks => nomatch (asked _ _ _ asks).1

/-- A request is answered by its handler, with counting around the invocation. -/
theorem answer_gives (dispatcher : Dispatcher) {context : Context} {inner : Value}
    {typeName : String} {handler : Handler} (tagged : inner.objectType? = some typeName)
    (found : dispatcher.registry.resolve typeName = .ok handler)
    {outcome : Except Failure Value} {course : List Event}
    (gives : (handler.invoke context inner).Gives outcome course) :
    ∃ tallies, (dispatcher.answer context inner).Gives outcome (around course tallies) := by
  have attempted := gives.attempt
  simp only [answer, tagged, found]
  cases outcome with
  | ok response =>
    refine ⟨[], (Traced.Gives.ofExcept (.ok handler)).bind ?_⟩
    exact (Traced.Gives.record _).bind (attempted.bind (.pure response))
  -- A failure of the handler is counted, and is that of the execution.
  | error failure =>
    refine ⟨[.handlerFailed], (Traced.Gives.ofExcept (.ok handler)).bind ?_⟩
    exact (Traced.Gives.record _).bind
      (attempted.bind ((Traced.Gives.record _).bind (.throw failure)))

/-- A request that is found a handler for takes one of its courses, with counting around it. -/
theorem exists_answer (context : Context) (inner : Value) {typeName : String} {handler : Handler}
    (tagged : inner.objectType? = some typeName)
    (found : dispatcher.registry.resolve typeName = .ok handler) :
    ∃ outcome course tallies, handler.Course context inner outcome course ∧
      (dispatcher.answer context inner).Gives outcome (around course tallies) := by
  obtain ⟨outcome, course, took, gives⟩ := handler.exists_course context inner
  obtain ⟨tallies, answered⟩ := dispatcher.answer_gives tagged found gives
  exact ⟨outcome, course, tallies, took, answered⟩

/-- A request that no handler is found for comes to a failure, and nothing happens. -/
theorem answer_silent (context : Context) (inner : Value)
    (unknown : ∀ typeName handler, inner.objectType? = some typeName →
      dispatcher.registry.resolve typeName ≠ .ok handler) :
    ∃ failure, (dispatcher.answer context inner).Gives (.error failure) [] := by
  unfold answer
  cases tagged : inner.objectType? with
  | none => exact ⟨_, .throw _⟩
  | some typeName =>
    cases found : dispatcher.registry.resolve typeName with
    | error failure =>
      refine ⟨failure, ?_⟩
      simp only [found]
      exact (Traced.Gives.ofExcept _).bind_error
    | ok handler => exact (unknown typeName handler tagged found).elim

/-- An execution answers what is in the request, in the form of the request. -/
theorem execute_eq_of_opened {request inner : Value} {context : Context}
    (came : opened request = .ok (context, inner)) :
    dispatcher.execute request =
      (do return dispatcher.returned request (← dispatcher.answer context inner)) := by
  unfold execute
  rcases cases_of_opened came with ⟨envelope, wrapped, read, rfl, rfl⟩ | ⟨bare, rfl, rfl⟩
  · rw [if_pos wrapped, read]
    simp only [returned, if_pos wrapped]
    rfl
  -- A bare request is answered as it is.
  · rw [if_neg bare]
    simp only [returned, if_neg bare]
    funext trace
    rw [run_bind]
    cases dispatcher.answer {} inner trace with
    | ok response after => rfl
    | error failure after => rfl

/-- An execution comes to what the answer does, in the form of the request. -/
theorem execute_gives {request inner : Value} {context : Context}
    (came : opened request = .ok (context, inner)) {outcome : Except Failure Value}
    {events : List Event} (gives : (dispatcher.answer context inner).Gives outcome events) :
    (dispatcher.execute request).Gives (outcome.map (dispatcher.returned request)) events := by
  rw [execute_eq_of_opened came]
  exact gives.bind_pure (dispatcher.returned request)

/-- An envelope that cannot be opened comes to a failure, and nothing happens. -/
theorem execute_silent {request : Value} {failure : Failure}
    (closed : opened request = .error failure) :
    (dispatcher.execute request).Gives (.error failure) [] := by
  unfold opened at closed
  unfold execute
  split at closed
  · next wrapped =>
    rw [if_pos wrapped]
    cases read : (Message.ofValue request : Except Failure SessionEnvelope) with
    | error cause =>
      rw [read] at closed
      cases closed
      exact (Traced.Gives.ofExcept _).bind_error
    | ok envelope => simp [read, Except.map] at closed
  · cases closed

/-- An execution comes to something, and respects what the handlers say. -/
theorem exists_served (built : dispatcher.registry.Built) (request : Value) :
    ∃ outcome events, (dispatcher.execute request).Gives outcome events ∧
      dispatcher.Gated ⟨request, outcome, events⟩ := by
  cases came : opened request with
  | error failure =>
    refine ⟨_, _, execute_silent came, .of_silent (fun _ _ _ asks => ?_) rfl⟩
    obtain ⟨_, cameToo, _⟩ := asks
    cases came.symm.trans cameToo
  | ok parts =>
    obtain ⟨context, inner⟩ := parts
    by_cases known : ∃ typeName handler, inner.objectType? = some typeName ∧
        dispatcher.registry.resolve typeName = .ok handler
    · obtain ⟨typeName, handler, tagged, found⟩ := known
      obtain ⟨outcome, course, tallies, took, gives⟩ := exists_answer context inner tagged found
      have gated := (Gated.of_course built came tagged found took).counted tallies
      exact ⟨_, _, execute_gives came gives, gated⟩
    · obtain ⟨failure, gives⟩ := answer_silent context inner fun typeName handler tagged found =>
        known ⟨typeName, handler, tagged, found⟩
      refine ⟨_, _, execute_gives came gives, .of_silent (fun _ _ _ asks => ?_) rfl⟩
      obtain ⟨_, cameToo, tagged, found, _⟩ := asks
      cases came.symm.trans cameToo
      exact known ⟨_, _, tagged, found⟩

/--
Over any run, no privileged body runs but right after its own check has said yes.

The requests may be bare or in envelopes, in any nesting, and need not be requests at all.
Each that a privileged handler can read is checked, and what the check says decides the answer.
-/
theorem serve_gated (built : dispatcher.registry.Built) (requests : List Value) (trace : Trace) :
    ∃ calls : List Served, calls.map (·.request) = requests ∧
      dispatcher.serve requests trace =
        .ok (calls.map (·.outcome)) (trace ++ calls.flatMap (·.events)) ∧
      ∀ served ∈ calls, dispatcher.Gated served := by
  -- The induction goes through the run; every step of it respects the handlers on its own.
  induction requests generalizing trace with
  | nil => exact ⟨[], rfl, by simp [serve], nofun⟩
  | cons request requests ih =>
    obtain ⟨outcome, events, gives, gated⟩ := exists_served built request
    obtain ⟨calls, rfl, ran, others⟩ := ih (trace ++ events)
    refine ⟨⟨request, outcome, events⟩ :: calls, rfl, ?_, ?_⟩
    · simp only [serve, run_bind, gives.attempt trace, run_ofExcept, ran, run_pure]
      simp
    · intro served member
      rcases List.mem_cons.mp member with rfl | member
      · exact gated
      · exact others served member

end Dispatcher

namespace Sample

/-- What is registered at the gate; to register a handler a second time comes to nothing. -/
def gateOperations : List RegistryBuilder.Operation :=
  [.register (.privileged renameUser), .register (.ordinary echo),
    .register (.privileged renameUser), .registerService directory]

/-- A server of which only the administrator gives users new names. -/
def gate : Dispatcher where
  registry := {
    bindings := [("com.example.RenameUser", .privileged renameUser), ("test.Echo", .ordinary echo),
      ("wirecall.RemoteServiceRequest", .services [directory])] }
  hostLabel := "server"

/-- The registry of the gate comes out of a builder. -/
theorem gate_built : gate.registry.Built := ⟨gateOperations, {}, rfl⟩

/-- A request to be given a name, which does not say by whom. -/
def renameRequest : Value :=
  .object "com.example.RenameUser" [("user", .null), ("new_name", .string "x")]

/-- The session of a user. -/
def sessionOf (user : String) : SessionId where
  userName := some user
  host := "host"
  program := "program"
  processId := 7

/-- The same request out of the session of a user. -/
def renameBy (user : String) : Value :=
  Message.toValue
    ({ request := renameRequest, session := sessionOf user, uniqueId := "1" } : SessionEnvelope)

/-- The call that is made of the request on behalf of somebody, or of nobody. -/
def renameCall (session : Option SessionId) : Call :=
  renameUser.call { session, requestId := session.map fun _ => "1" } (none, "x", ())

/-- Nobody, the administrator and another user ask for a name; what comes last is no request. -/
theorem serve_gated_rename :
    gate.registry.Built ∧ ∃ calls : List Served,
      calls.map (·.request) = [renameRequest, renameBy "admin", renameBy "bob", .null] ∧
        calls.map (·.outcome) =
          [.ok (Message.toValue ({ message := "who are you?" } : UserNotAuthenticated)),
            .ok (Message.toValue (ResponseEnvelope.wrap
              (Message.toValue ({ response := .string "x", updatedData := none } :
                SuccessfulExecution)) (some "server"))),
            .ok (Message.toValue (ResponseEnvelope.wrap
              (Message.toValue ({ message := "no permission" } : UserNotAuthorized))
              (some "server"))),
            .error (.malformed .untaggedRequest)] ∧
        calls.flatMap (·.events) =
          [.counted .dispatched, .probed (renameCall none) (.notAuthenticated "who are you?"),
            .counted .authorizationDenied,
            .counted .dispatched, .probed (renameCall (some (sessionOf "admin"))) .authorized,
            .ran (renameCall (some (sessionOf "admin"))),
            .counted .dispatched,
            .probed (renameCall (some (sessionOf "bob"))) (.notAuthorized "no permission"),
            .counted .authorizationDenied] ∧
        ∀ served ∈ calls, gate.Gated served := by
  obtain ⟨calls, asked, served, gated⟩ := Dispatcher.serve_gated gate_built
    [renameRequest, renameBy "admin", renameBy "bob", .null] []
  -- The run itself is computed, and its parts are those of the calls.
  obtain ⟨outcomes, events⟩ := EStateM.Result.ok.inj served
  exact ⟨gate_built, calls, asked, outcomes.symm, events.symm, gated⟩

end Sample

end RemoteCall
