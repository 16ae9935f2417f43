import RemoteCall.Codec.Part
import RemoteCall.Limits
import RemoteCall.Stream.Sink

/-! Encoding of values onto a sink, message after message, under ceilings. -/

namespace RemoteCall

/-- An encoder in the course of its work. -/
structure Encoder (σ : Type) where
  sink : σ
  limits : Limits
  /-- The bytes of the present message so far. -/
  messageSize : Nat := 0
  /-- The bytes of all messages so far. -/
  written : Nat := 0

/-- A step of an encoder, which is left as it stands also when the step fails. -/
abbrev EncodeM (σ : Type) := EStateM Failure (Encoder σ)

namespace Encoder

variable {σ : Type} [Sink σ]

/-- Writes bytes of the present message, unless they pass the message ceiling. -/
def put (bytes : Bytes) : EncodeM σ Unit := fun encoder =>
  let size := addCount encoder.messageSize bytes.length
  if encoder.limits.messageSize < size then
    .error (.limitExceeded .messageSize encoder.limits.messageSize size) encoder
  else
    match Sink.writeAll bytes encoder.sink with
    | .error cause sink => .error (.stream cause) { encoder with sink }
    | .ok () sink =>
      .ok () { encoder with
        sink, messageSize := size, written := addCount encoder.written bytes.length }

/-- The greatest length that four octets hold. -/
def lengthMax : Nat := 0xFFFFFFFF

/-- Writes one part, after checking it against its own ceiling. -/
def perform (part : Part) : EncodeM σ Unit := do
  let limits := (← get).limits
  match part with
  | .enter depth =>
    if limits.depth ≤ depth then
      throw (.limitExceeded .recursionDepth limits.depth (depth + 1))
  | .raw data => put data
  | .length count =>
    if limits.frameSize < count then
      throw (.limitExceeded .frameSize limits.frameSize count)
    if lengthMax < count then
      throw (.limitExceeded .frameSize lengthMax count)
    put (Bytes.ofNatBE 4 count)

/-- Writes parts in order, up to the first that fails. -/
def performAll : List Part → EncodeM σ Unit
  | [] => return ()
  | part :: parts => do
    perform part
    performAll parts

/-- Hands everything written so far on. -/
def flush : EncodeM σ Unit := fun encoder =>
  match Sink.flush encoder.sink with
  | .error cause sink => .error (.stream cause) { encoder with sink }
  | .ok () sink => .ok () { encoder with sink }

/-- Writes one complete message, for which the message ceiling starts anew. -/
def writeMessage (value : Value) : EncodeM σ Unit := do
  modify fun encoder => { encoder with messageSize := 0 }
  performAll value.messageParts
  flush

end Encoder

/-- The bytes of a message under the given ceilings. -/
def encode (value : Value) (limits : Limits) : Except Failure Bytes :=
  let encoder : Encoder Store := { sink := {}, limits }
  match Encoder.writeMessage value encoder with
  | .ok () encoder => .ok encoder.sink.toBytes
  | .error failure _ => .error failure

end RemoteCall
