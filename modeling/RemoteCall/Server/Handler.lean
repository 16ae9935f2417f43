import RemoteCall.Message.Privileged
import RemoteCall.Server.Trace

/-! Handlers of typed requests, and their use on requests that are values. -/

namespace RemoteCall

/-- A handler of requests that anyone may make. -/
structure OrdinaryHandler where
  request : Shape
  response : Shape
  handle : Context → request.Data → Except Failure response.Data

namespace OrdinaryHandler

/-- Reads a request, and answers it. -/
def invoke (handler : OrdinaryHandler) (context : Context) (request : Value) : Traced Value := do
  let data ← Traced.ofExcept (handler.request.ofValue request)
  record (.ran ⟨⟨handler.request, data⟩, context⟩)
  return handler.response.toResponse (← Traced.ofExcept (handler.handle context data))

end OrdinaryHandler

/-- A handler of requests that are checked before they are executed. -/
structure PrivilegedHandler where
  request : Shape
  response : Shape
  /-- The user that a request itself names. -/
  user : request.Data → Option String
  authorize : Context → request.Data → Verdict
  handle : Context → request.Data → Except Failure response.Data

namespace PrivilegedHandler

/-- On whose behalf a request is executed: the user of its session, or else the one it names. -/
def subject (handler : PrivilegedHandler) (context : Context) (data : handler.request.Data) :
    Option String :=
  (context.session.bind (·.userName)).or (handler.user data)

/-- Reads a request, checks it, and executes it only if it is authorized. -/
def invoke (handler : PrivilegedHandler) (context : Context) (request : Value) :
    Traced Value := do
  let data ← Traced.ofExcept (handler.request.ofValue request)
  let context := { context with subject := handler.subject context data }
  let call : Call := ⟨⟨handler.request, data⟩, context⟩
  let verdict := handler.authorize context data
  record (.probed call verdict)
  match verdict with
  | .notAuthorized message =>
    tally .authorizationDenied
    return Message.toValue ({ message } : UserNotAuthorized)
  | .notAuthenticated message =>
    tally .authorizationDenied
    return Message.toValue ({ message } : UserNotAuthenticated)
  | .authorized =>
    record (.ran call)
    let result ← Traced.ofExcept (handler.handle context data)
    let response := handler.response.toResponse result
    return Message.toValue ({ response, updatedData := none } : SuccessfulExecution)

end PrivilegedHandler

end RemoteCall
