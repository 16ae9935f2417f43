import RemoteCall.Proofs.Message
import RemoteCall.Proofs.Server.Recording
import RemoteCall.Server.Dispatcher

/-! What the execution of a request comes to, bare or in an envelope. -/

namespace RemoteCall

variable {trace after : Trace}

namespace Dispatcher

variable {dispatcher : Dispatcher} {context : Context} {request response : Value}

/-- A request is answered exactly when a handler is found for its tag and answers it. -/
theorem answer_eq_ok_iff :
    dispatcher.answer context request trace = .ok response after ↔
      ∃ typeName handler, request.objectType? = some typeName ∧
        dispatcher.registry.resolve typeName = .ok handler ∧
          handler.invoke context request (trace ++ [.counted .dispatched]) =
            .ok response after := by
  constructor
  · intro answered
    -- A value without a tag is no request, and a tag without a handler is refused.
    cases tagged : request.objectType? with
    | none => simp [answer, tagged] at answered
    | some typeName =>
      cases found : dispatcher.registry.resolve typeName with
      | error failure => simp [answer, tagged, found] at answered
      | ok handler =>
        refine ⟨typeName, handler, rfl, found, ?_⟩
        simp only [answer, tagged, found, run_bind, run_ofExcept, run_tally, Traced.attempt]
          at answered
        -- The answer of the handler is the answer of the dispatcher, and so is its trace.
        cases invoked : handler.invoke context request (trace ++ [.counted .dispatched]) with
        | ok result left =>
          simp only [invoked, run_pure] at answered
          exact answered
        | error failure left => simp [invoked] at answered
  · intro facts
    obtain ⟨typeName, handler, tagged, found, invoked⟩ := facts
    -- With a handler found, nothing else can fail before it is invoked.
    simp [answer, tagged, found, Traced.attempt, invoked]

/-- A request in an envelope is answered in the context of its session, and enveloped again. -/
theorem execute_toValue_eq_ok_iff {envelope : SessionEnvelope} {result : Value} :
    dispatcher.execute (Message.toValue envelope) trace = .ok result after ↔
      ∃ response,
        dispatcher.answer
          { session := some envelope.session, requestId := some envelope.uniqueId }
          envelope.request trace = .ok response after ∧
        result = Message.toValue (ResponseEnvelope.wrap response (some dispatcher.hostLabel)) := by
  -- The tag of an envelope is seen first, and the envelope reads back as it was sent.
  simp only [execute, Message.isTagged_toValue, if_true, run_bind, run_ofExcept,
    envelope.ofValue_toValue]
  cases answered : dispatcher.answer
    { session := some envelope.session, requestId := some envelope.uniqueId }
    envelope.request trace with
  | ok response left =>
    constructor
    · intro executed
      -- Only a response is wrapped, and wrapping leaves the trace alone.
      cases executed
      exact ⟨response, rfl, rfl⟩
    · intro facts
      obtain ⟨_, same, rfl⟩ := facts
      cases same
      rfl
  -- A failure passes through as it is.
  | error failure left => simp

end Dispatcher

end RemoteCall
