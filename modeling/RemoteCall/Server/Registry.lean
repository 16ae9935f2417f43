import RemoteCall.Server.Handler
import RemoteCall.Server.Service

/-! Registries of handlers, and how they come about. -/

namespace RemoteCall

/-- What answers the requests of one type. -/
inductive Handler where
  | ordinary (handler : OrdinaryHandler)
  | privileged (handler : PrivilegedHandler)
  /-- Answers the calls of methods of all services. -/
  | services (offered : List Service)

namespace Handler

/-- Answers a request. -/
def invoke (handler : Handler) (context : Context) (request : Value) : Traced Value :=
  match handler with
  | .ordinary handler => handler.invoke context request
  | .privileged handler => handler.invoke context request
  | .services offered => Service.route offered request

/-- The name of the requests that a handler is registered for. -/
def requestType : Handler → String
  | .ordinary handler => handler.request.wireName
  | .privileged handler => handler.request.wireName
  | .services _ => Message.typeName RemoteServiceRequest

end Handler

/-- The handlers of request types, of which no two have one name. -/
structure Registry where
  bindings : List (String × Handler)

namespace Registry

/-- Whether requests of a type are answered. -/
def contains (registry : Registry) (typeName : String) : Bool :=
  (registry.bindings.lookup typeName).isSome

/-- How many request types are answered. -/
def size (registry : Registry) : Nat := registry.bindings.length

/-- The handler of a request type. -/
def resolve (registry : Registry) (typeName : String) : Except Failure Handler :=
  match registry.bindings.lookup typeName with
  | some handler => .ok handler
  | none => .error (.handlerNotFound typeName)

end Registry

/-- What was registered so far. -/
structure RegistryBuilder where
  bindings : List (String × Handler) := []
  services : List Service := []
  /-- Request types without which no registry is built. -/
  required : List String := []

namespace RegistryBuilder

/-- A step of registration, which tells what was registered also when it fails. -/
abbrev Building := EStateM Failure RegistryBuilder

/-- Registers a handler, unless there is one for its request type. -/
def register (handler : Handler) : Building Unit := do
  let typeName := handler.requestType
  if ((← get).bindings.lookup typeName).isSome then throw (.duplicateHandler typeName)
  modify fun builder => { builder with bindings := builder.bindings ++ [(typeName, handler)] }

/-- Registers a service, unless there is one for its interface. -/
def registerService (service : Service) : Building Unit := do
  if (← get).services.any (·.interface == service.interface) then
    throw (.duplicateHandler service.interface)
  modify fun builder => { builder with services := builder.services ++ [service] }

/-- Requires that requests of a type be answered. -/
def require (typeName : String) : Building Unit :=
  modify fun builder => { builder with required := builder.required ++ [typeName] }

/-- The bindings, with the one for calls of methods if there are services. -/
def allBindings (builder : RegistryBuilder) : Except Failure (List (String × Handler)) :=
  let handler := Handler.services builder.services
  let typeName := handler.requestType
  if builder.services.isEmpty then .ok builder.bindings
  else if (builder.bindings.lookup typeName).isSome then .error (.duplicateHandler typeName)
  else .ok (builder.bindings ++ [(typeName, handler)])

/--
Builds a registry of all that was registered, and starts over, whether that succeeds or not.

Only a binding that services would double leaves the requirements in place.
-/
def build : Building Registry := do
  let builder ← get
  set { builder with bindings := [], services := [] }
  let bindings ← MonadExcept.ofExcept builder.allBindings
  set ({} : RegistryBuilder)
  match builder.required.find? fun typeName => (bindings.lookup typeName).isNone with
  | some typeName => throw (.handlerNotFound typeName)
  | none => return { bindings }

end RegistryBuilder

end RemoteCall
