import RemoteCall.Message.Basic

/-! Who calls, and the envelope that pairs a request with its caller. -/

namespace RemoteCall

/-- Who is calling, and from where. -/
structure SessionId where
  userName : Option String
  host : String
  program : String
  processId : UInt32
  deriving DecidableEq, Repr, Inhabited

namespace SessionId

/-- Takes the number of a process. -/
def takeProcessId : Fields.Taking UInt32 := do
  let number ← Fields.takeWord "pid"
  if number.toNat ≤ 0xFFFFFFFF then return number.toUInt32
  else throw (.malformed (.fieldOutOfRange (← get).typeName "pid" number.toNat))

instance : Message SessionId where
  typeName := "wirecall.SessionId"
  fields session :=
    [("user_name", .ofString? session.userName), ("host", .string session.host),
      ("program", .string session.program), ("pid", .word session.processId.toUInt64)]
  take := do
    let processId ← takeProcessId
    let userName ← Fields.takeString? "user_name"
    let host ← Fields.takeString "host"
    let program ← Fields.takeString "program"
    return { userName, host, program, processId }

end SessionId

/-- A request together with the session that sends it. -/
structure SessionEnvelope where
  request : Value
  session : SessionId
  /-- Tells one call from all others. -/
  uniqueId : String
  deriving Inhabited, Repr

instance : Message SessionEnvelope where
  typeName := "wirecall.SessionEnvelope"
  fields envelope :=
    [("request", envelope.request), ("session", Message.toValue envelope.session),
      ("unique_id", .string envelope.uniqueId)]
  take := do
    let request ← Fields.take "request"
    let session ← MonadExcept.ofExcept (Message.ofValue (← Fields.take "session"))
    let uniqueId ← Fields.takeString "unique_id"
    return { request, session, uniqueId }

end RemoteCall
