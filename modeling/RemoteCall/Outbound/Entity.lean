import RemoteCall.Codec.Encoder
import RemoteCall.Compression.Compress
import RemoteCall.Frame.Chunked
import RemoteCall.Stream.Buffered
import RemoteCall.Stream.Throttled

/-! Outbound bodies: a value that is still to be encoded, and how it goes out. -/

namespace RemoteCall

/-- A value on its way out. -/
structure Entity where
  payload : Value
  limits : Limits
  /-- Encode while sending, so that the length is not known beforehand. -/
  streaming : Bool := false
  /-- A content encoding, which needs the whole body in hand and so wins over streaming. -/
  compression : Option Compression := none
  /-- What puts the body in its content encoding. -/
  compressor : Compressor := .storing
  /-- A budget that every byte is charged to. -/
  limiter : Option RateLimiter := none

namespace Entity

/-- Whether the body goes out with an unknown length. -/
def isStreaming (entity : Entity) : Bool :=
  entity.streaming && entity.compression.isNone

/-- The body in full. -/
def body (entity : Entity) : Except Failure Bytes := do
  let encoded ← encode entity.payload entity.limits
  match entity.compression with
  | none => return encoded
  | some kind =>
    match entity.compressor kind encoded with
    | some compressed => return compressed
    | none => throw .compression

/-- The length of the body, or none when it goes out with an unknown length. -/
def contentLength (entity : Entity) : Except Failure (Option Nat) := do
  if entity.isStreaming then return none
  return some (← entity.body).length

variable {σ : Type} [Sink σ]

/--
Encodes the payload straight into a sink, through a buffer.

An encoding that fails leaves what was buffered to be passed on as well as may be.
-/
def stream (entity : Entity) : SendM σ Unit := fun sink =>
  let encoder : Encoder (Buffered σ) := { sink := { inner := sink }, limits := entity.limits }
  match Encoder.writeMessage entity.payload encoder with
  | .ok () encoder =>
    match Buffered.flush encoder.sink with
    | .ok () buffered => .ok () buffered.release
    | .error cause buffered => .error (.stream cause) buffered.release
  | .error failure encoder => .error failure encoder.sink.release

/-- Sends the body. -/
def sendBody (entity : Entity) : SendM σ Unit := do
  if entity.isStreaming then
    entity.stream
  else
    send (← MonadExcept.ofExcept entity.body)
    SendM.ofStream Sink.flush

/-- Sends the body against its budget, and keeps what was charged, the latest charge first. -/
def sendCharged (entity : Entity) (limiter : RateLimiter) :
    SendM (σ × List Nat) Unit := fun (sink, charges) =>
  let throttled : Throttled σ := { inner := sink, limiter, charges }
  match entity.sendBody throttled with
  | .ok () throttled => .ok () (throttled.inner, throttled.charges)
  | .error failure throttled => .error failure (throttled.inner, throttled.charges)

/-- Sends the body, against its budget if it has one. -/
def writeTo (entity : Entity) : SendM σ Unit := fun sink =>
  match entity.limiter with
  | none => entity.sendBody sink
  | some limiter =>
    match entity.sendCharged limiter (sink, []) with
    | .ok () (sink, _) => .ok () sink
    | .error failure (sink, _) => .error failure sink

end Entity

end RemoteCall
