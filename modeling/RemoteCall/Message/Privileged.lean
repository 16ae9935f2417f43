import RemoteCall.Message.Basic

/-! What answers a privileged request: its refusal, or the response of its execution. -/

namespace RemoteCall

/-- The caller is known, but may not do this. -/
structure UserNotAuthorized where
  message : String
  deriving DecidableEq, Repr, Inhabited

instance : Message UserNotAuthorized where
  typeName := "wirecall.UserNotAuthorized"
  fields refusal := [("message", .string refusal.message)]
  take := return { message := ← Fields.takeString "message" }

/-- The caller has not shown who they are. -/
structure UserNotAuthenticated where
  message : String
  deriving DecidableEq, Repr, Inhabited

instance : Message UserNotAuthenticated where
  typeName := "wirecall.UserNotAuthenticated"
  fields refusal := [("message", .string refusal.message)]
  take := return { message := ← Fields.takeString "message" }

/-- The response of a request that was authorized. -/
structure SuccessfulExecution where
  response : Value
  /-- Data that the caller is to keep with the session. -/
  updatedData : Option Value
  deriving Inhabited, Repr

namespace SuccessfulExecution

/-- Any value but null. -/
def present : Value → Option Value
  | .null => none
  | value => some value

instance : Message SuccessfulExecution where
  typeName := "wirecall.SuccessfulExecution"
  fields execution :=
    [("response", execution.response), ("updated_data", execution.updatedData.getD .null)]
  take := do
    let response ← Fields.take "response"
    let updatedData := present (← Fields.take "updated_data")
    return { response, updatedData }

end SuccessfulExecution

end RemoteCall
