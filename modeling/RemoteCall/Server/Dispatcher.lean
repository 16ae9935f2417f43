import RemoteCall.Message.Response
import RemoteCall.Server.Registry
import RemoteCall.Settings.Basic

/-! Execution of requests, whether they come bare or in an envelope. -/

namespace RemoteCall

/-- A registry on a host. -/
structure Dispatcher where
  registry : Registry
  /-- What the host is called in envelopes. -/
  hostLabel : String

namespace Dispatcher

/-- A registry on a host that is called as the settings say, or else by the name of its own. -/
def ofSettings (registry : Registry) (settings : ServerSettings) (ownName : String) :
    Dispatcher where
  registry
  hostLabel := settings.hostLabel.getD ownName

/-- Answers a bare request in its context. -/
def answer (dispatcher : Dispatcher) (context : Context) (request : Value) : Traced Value := do
  match request.objectType? with
  | none => throw (.malformed .untaggedRequest)
  | some typeName =>
    let handler ← Traced.ofExcept (dispatcher.registry.resolve typeName)
    tally .dispatched
    match ← Traced.attempt (handler.invoke context request) with
    | .ok response => return response
    | .error failure =>
      tally .handlerFailed
      throw failure

/-- Executes a request, and answers it in the form in which it came. -/
def execute (dispatcher : Dispatcher) (request : Value) : Traced Value := do
  if Message.isTagged SessionEnvelope request then
    let envelope : SessionEnvelope ← Traced.ofExcept (Message.ofValue request)
    let context : Context :=
      { session := some envelope.session, requestId := some envelope.uniqueId }
    let response ← dispatcher.answer context envelope.request
    return Message.toValue (ResponseEnvelope.wrap response (some dispatcher.hostLabel))
  else dispatcher.answer {} request

end Dispatcher

end RemoteCall
