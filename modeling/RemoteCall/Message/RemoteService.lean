import RemoteCall.Message.Basic

/-! Calls of methods of remote interfaces. -/

namespace RemoteCall

/-- One call of a method of an interface. -/
structure RemoteServiceRequest where
  interface : String
  method : String
  arguments : List Value
  deriving Inhabited, Repr

instance : Message RemoteServiceRequest where
  typeName := "wirecall.RemoteServiceRequest"
  fields request :=
    [("interface", .string request.interface), ("method", .string request.method),
      ("arguments", .list request.arguments)]
  take := do
    let interface ← Fields.takeString "interface"
    let method ← Fields.takeString "method"
    let arguments ← Fields.takeItems "arguments"
    return { interface, method, arguments }

end RemoteCall
