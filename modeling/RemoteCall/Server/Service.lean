import RemoteCall.Message.RemoteService
import RemoteCall.Server.Trace

/-! Services: methods under the name of an interface, called by name on arguments in order. -/

namespace RemoteCall

/-- What both sides know of a method. -/
structure MethodSignature where
  name : String
  /-- The parameters in order, with their names. -/
  parameters : List (String × Shape)
  result : Shape

/-- A method and what it does. -/
structure Method extends MethodSignature where
  run : Shape.FieldData parameters → Except Failure result.Data

/-- An implementation of an interface; of methods with one name the first counts. -/
structure Service where
  interface : String
  methods : List Method

namespace Service

/-- Reads arguments in order; those that are left over do not matter. -/
def takeArguments (interface method : String) :
    (parameters : List (String × Shape)) → List Value → Except Failure (Shape.FieldData parameters)
  | [], _ => .ok ()
  | _ :: _, [] => .error (.malformed (.missingArgument interface method))
  | (_, shape) :: parameters, value :: values => do
    let data ← shape.ofValue value
    return (data, ← takeArguments interface method parameters values)

/-- Calls a method. -/
def call (service : Service) (method : Method) (values : List Value) : Traced Value := do
  let arguments ← Traced.ofExcept
    (takeArguments service.interface method.name method.parameters values)
  let typed : Typed :=
    ⟨.record method.name (service.interface ++ "." ++ method.name) method.parameters, arguments⟩
  record (.called service.interface method.name typed)
  return method.result.toResponse (← Traced.ofExcept (method.run arguments))

/-- Calls the method of a name. -/
def invoke (service : Service) (name : String) (values : List Value) : Traced Value :=
  match service.methods.find? (·.name == name) with
  | some method => service.call method values
  | none => throw (.unknownService (service.interface ++ "." ++ name))

/-- Reads a call of a method, and makes it on the service of its interface. -/
def route (services : List Service) (request : Value) : Traced Value := do
  let request : RemoteServiceRequest ← Traced.ofExcept (Message.ofValue request)
  match services.find? (·.interface == request.interface) with
  | some service => service.invoke request.method request.arguments
  | none => throw (.unknownService request.interface)

end Service

end RemoteCall
