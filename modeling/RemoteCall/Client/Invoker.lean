import RemoteCall.Client.Transport
import RemoteCall.Settings.Basic
import RemoteCall.Stream.TokenBucket

/-! Calls from the side of the caller. -/

namespace RemoteCall

/-- Which of its servers a caller turns to. -/
inductive Destination where
  /-- The server for general requests. -/
  | http
  /-- The server for localized data. -/
  | localization
  deriving DecidableEq, Repr

/-- A caller: where and how it posts its requests, and as whom. -/
structure Invoker where
  client : ClientSettings
  transport : TransportSettings
  limiter : Option RateLimiter
  limits : Limits
  session : SessionId
  /-- What puts bodies in their content encoding. -/
  compressor : Compressor := .storing

/-- What a call does not choose itself. -/
structure Occasion where
  /-- The id that is drawn for the call. -/
  requestId : String
  /-- The time that posting takes. -/
  elapsed : Duration
  transport : Transport

/-- What becomes of refusals. -/
structure RefusalPolicy where
  notAuthorized : UserNotAuthorized → Except Failure Value
  notAuthenticated : UserNotAuthenticated → Except Failure Value

/-- Refusals are failures that say what the server said. -/
def RefusalPolicy.reject : RefusalPolicy where
  notAuthorized refusal := .error (.notAuthorized refusal.message)
  notAuthenticated refusal := .error (.notAuthenticated refusal.message)

/-- What a caller keeps between calls. -/
structure CallerState where
  /-- The data that the server last wanted kept with the session. -/
  sessionData : Option Value := none
  trace : Trace := []

/-- A call, which leaves what the caller keeps also when it fails. -/
abbrev Calling := EStateM Failure CallerState

/-- Does a step that leaves the data of the session alone. -/
def Calling.ofTraced {α : Type} (step : Traced α) : Calling α := fun state =>
  match step state.trace with
  | .ok result trace => .ok result { state with trace }
  | .error failure trace => .error failure { state with trace }

namespace Invoker

/-- The caller that settings describe, whose bodies are charged to a bucket if there is a rate. -/
def ofSettings (settings : Settings) (limits : Limits) (session : SessionId) : Invoker where
  client := settings.client
  transport := settings.transport
  limiter := settings.transport.rateLimit.map fun rate =>
    let burst := settings.transport.rateLimitBurst.getD rate
    (TokenBucket.full rate.toNat burst.toNat).limiter
  limits
  session

/-- The address of a destination. -/
def address (invoker : Invoker) : Destination → String
  | .http => invoker.client.httpServer
  | .localization => invoker.client.localizationServer

/-- The envelope of a request. -/
def envelope (invoker : Invoker) (request : Value) (requestId : String) : SessionEnvelope where
  request
  session := invoker.session
  uniqueId := requestId

/-- The request in its envelope, as it goes out. -/
def entity (invoker : Invoker) (request : Value) (requestId : String) : Entity where
  payload := Message.toValue (invoker.envelope request requestId)
  limits := invoker.limits
  streaming := invoker.transport.streamRequests
  compression := invoker.transport.compression
  compressor := invoker.compressor
  limiter := invoker.limiter

/-- What an answer says: the response out of its envelope, or the failure of the server. -/
def interpret (response : Value) : Except Failure Value := do
  if Message.isTagged ServerErrorResponse response then
    let told : ServerErrorResponse ← Message.ofValue response
    throw told.toFailure
  else if Message.isTagged ResponseEnvelope response then
    let envelope : ResponseEnvelope ← Message.ofValue response
    return envelope.unwrap
  else return response

/-- Posts a request, and gives what is answered. -/
def post (invoker : Invoker) (occasion : Occasion) (address : String) (request : Value) :
    Traced Value := do
  let entity := invoker.entity request occasion.requestId
  let length ← Traced.ofExcept entity.contentLength
  let result ← Traced.attempt (occasion.transport address invoker.client.endpointPath entity)
  if invoker.client.slowCallThreshold ≤ occasion.elapsed then tally .slowCall
  match result with
  | .error failure =>
    tally .requestFailed
    throw failure
  | .ok body =>
    tally (.requestSent (length.getD 0).toUInt64)
    tally (.responseReceived body.length.toUInt64)
    Traced.ofExcept (decode body invoker.limits >>= interpret)

variable {request response : Shape}

/-- Sends a typed request, and gives the typed response. -/
def send (invoker : Invoker) (occasion : Occasion) (address : String) (data : request.Data)
    (response : Shape) : Traced response.Data := do
  let tagged ← Traced.ofExcept (request.toTagged data)
  let answer ← invoker.post occasion address tagged
  Traced.ofExcept (response.ofValue answer)

/--
Sends a typed privileged request, and gives the typed response.

What becomes of a refusal is left to a policy; data to be kept with the session is kept before the
response is read.
-/
def sendPrivileged (invoker : Invoker) (occasion : Occasion) (policy : RefusalPolicy)
    (address : String) (data : request.Data) (response : Shape) : Calling response.Data := do
  let answer ← Calling.ofTraced do
    invoker.post occasion address (← Traced.ofExcept (request.toTagged data))
  let consult (verdict : Verdict) (outcome : Except Failure Value) : Traced response.Data := do
    record (.consulted verdict)
    Traced.ofExcept (outcome >>= response.ofValue)
  if Message.isTagged UserNotAuthenticated answer then
    let refusal : UserNotAuthenticated ← MonadExcept.ofExcept (Message.ofValue answer)
    Calling.ofTraced
      (consult (.notAuthenticated refusal.message) (policy.notAuthenticated refusal))
  else if Message.isTagged UserNotAuthorized answer then
    let refusal : UserNotAuthorized ← MonadExcept.ofExcept (Message.ofValue answer)
    Calling.ofTraced (consult (.notAuthorized refusal.message) (policy.notAuthorized refusal))
  else
    let execution : SuccessfulExecution ← MonadExcept.ofExcept (Message.ofValue answer)
    if execution.updatedData.isSome then
      modify fun state => { state with sessionData := execution.updatedData }
    MonadExcept.ofExcept (response.ofValue execution.response)

/-- Calls a method of a remote interface. -/
def invoke (invoker : Invoker) (occasion : Occasion) (address : String)
    (request : RemoteServiceRequest) : Traced Value :=
  invoker.post occasion address (Message.toValue request)

/-- The values of arguments in order. -/
def argumentValues : (parameters : List (String × Shape)) → Shape.FieldData parameters → List Value
  | [], () => []
  | (_, shape) :: parameters, (data, rest) => shape.toValue data :: argumentValues parameters rest

/-- Calls a method of a remote interface as if it were at hand. -/
def call (invoker : Invoker) (occasion : Occasion) (address interface : String)
    (method : MethodSignature) (arguments : Shape.FieldData method.parameters) :
    Traced method.result.Data := do
  let answer ← invoker.invoke occasion address
    { interface, method := method.name, arguments := argumentValues method.parameters arguments }
  Traced.ofExcept (method.result.ofValue answer)

end Invoker

end RemoteCall
