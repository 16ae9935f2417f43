import RemoteCall.Outbound.Entity

/-! Requests on the wire: an entity in a frame, with a known length or in chunks. -/

namespace RemoteCall

variable {σ : Type} [Sink σ]

/-- Sends the body of a request in chunks; a body that fails is never ended. -/
def Entity.writeChunked (entity : Entity) (limits : Limits) : SendM σ Unit := fun sink =>
  let step : SendM (Chunked σ) Unit := do
    entity.writeTo
    SendM.ofStream Chunked.finish
  match step (.onto sink limits) with
  | .ok () chunked => .ok () chunked.inner
  | .error failure chunked => .error failure chunked.inner

/-- Frames an entity as a request to a path, and sends it. -/
def sendRequest (path : String) (entity : Entity) (limits : Limits) : SendM σ Unit := do
  match ← MonadExcept.ofExcept entity.contentLength with
  | some length =>
    let field ← MonadExcept.ofExcept (bodyLength length)
    sendHeader path entity.compression false
    send field
    entity.writeTo
  | none =>
    sendHeader path entity.compression true
    entity.writeChunked limits
  SendM.ofStream Sink.flush

end RemoteCall
