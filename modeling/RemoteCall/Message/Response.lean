import RemoteCall.Message.Basic

/-! What answers a request that came in an envelope, and what answers one that failed. -/

namespace RemoteCall

/-- A response, the host that gave it, and for an array the type of its elements. -/
structure ResponseEnvelope where
  response : Value
  host : Option String
  elementType : Option String
  deriving Inhabited, Repr

namespace ResponseEnvelope

/-- Wraps a response; an array is held as a list, beside the type of its elements. -/
def wrap (response : Value) (host : Option String) : ResponseEnvelope :=
  match response with
  | .array elementType items => { response := .list items, host, elementType := some elementType }
  | other => { response := other, host, elementType := none }

/-- The response as it was wrapped. -/
def unwrap (envelope : ResponseEnvelope) : Value :=
  match envelope.elementType, envelope.response with
  | some elementType, .list items => .array elementType items
  | _, response => response

instance : Message ResponseEnvelope where
  typeName := "wirecall.ResponseEnvelope"
  fields envelope :=
    [("response", envelope.response), ("host", .ofString? envelope.host),
      ("element_type", .ofString? envelope.elementType)]
  take := do
    let response ← Fields.take "response"
    let host ← Fields.takeString? "host"
    let elementType ← Fields.takeString? "element_type"
    return { response, host, elementType }

end ResponseEnvelope

/-- The text and the kind of a failure on the serving side. -/
structure ServerErrorResponse where
  message : String
  errorType : String
  deriving DecidableEq, Repr, Inhabited

namespace ServerErrorResponse

/-- What is told of a failure. -/
def ofFailure (failure : Failure) : ServerErrorResponse where
  message := failure.message
  errorType := failure.kind

/-- The failure of the call that was answered so. -/
def toFailure (response : ServerErrorResponse) : Failure :=
  .remoteExecution response.errorType response.message

instance : Message ServerErrorResponse where
  typeName := "wirecall.ServerErrorResponse"
  fields response :=
    [("message", .string response.message), ("error_type", .string response.errorType)]
  take := do
    let message ← Fields.takeString "message"
    let errorType ← Fields.takeString "error_type"
    return { message, errorType }

end ServerErrorResponse

end RemoteCall
