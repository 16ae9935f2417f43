import RemoteCall.Codec.Part
import RemoteCall.Compression.Kind
import RemoteCall.Limits
import RemoteCall.Stream.Sink

/-! The header that opens every frame, and the checks of the lengths that follow it. -/

namespace RemoteCall

/-- The octets that open every frame. -/
def frameMagic : Bytes := [0x57, 0x43, 0x41, 0x4C]

/-- The flag bit of a body that is sent in chunks. -/
def chunkedFlag : UInt8 := 4

/-- How many octets precede the path: magic, version, flags and path length. -/
def fixedHeaderLength : Nat := 8

/-- What the fixed part of a header tells. -/
structure Header where
  compression : Option Compression
  chunked : Bool
  pathLength : Nat
  deriving DecidableEq, Repr

namespace Header

/-- Reads the fixed part of a header. -/
def ofBytes (bytes : Bytes) : Except Failure Header := do
  match bytes.drop 4 with
  | [version, flags, high, low] =>
    if bytes.take 4 ≠ frameMagic then throw .invalidHeader
    if version ≠ wireVersion then throw (.unsupportedVersion version)
    -- Only the three lowest flag bits have a meaning.
    if 8 ≤ flags then throw .invalidHeader
    let compression ← Compression.ofFlag (flags % 4)
    return { compression, chunked := 4 ≤ flags, pathLength := Bytes.toNatBE [high, low] }
  | _ => throw .invalidHeader

/-- The flags of a frame. -/
def flags (compression : Option Compression) (chunked : Bool) : UInt8 :=
  Compression.flagOf compression + (if chunked then chunkedFlag else 0)

end Header

/-- The octets of a path, which two octets must be able to count. -/
def pathBytes (path : String) : Except Failure Bytes :=
  let bytes := Bytes.ofString path
  if 0xFFFF < bytes.length then .error (.misconfigured (.pathTooLong path))
  else .ok bytes

/-- The four octets that count a body. -/
def bodyLength (length : Nat) : Except Failure Bytes :=
  if 0xFFFFFFFF < length then .error (.limitExceeded .messageSize 0xFFFFFFFF length)
  else .ok (Bytes.ofNatBE 4 length)

/-- The path that octets spell. -/
def pathOfBytes (bytes : Bytes) : Except Failure String :=
  match Bytes.toString? bytes with
  | .ok path => .ok path
  | .error _ => .error .invalidHeader

/-- Refuses a chunk above the frame ceiling. -/
def Limits.checkFrame (limits : Limits) (length : Nat) : Except Failure Unit :=
  if limits.frameSize < length then
    .error (.limitExceeded .frameSize limits.frameSize length)
  else .ok ()

/-- Refuses a body above the message ceiling. -/
def Limits.checkMessage (limits : Limits) (length : Nat) : Except Failure Unit :=
  if limits.messageSize < length then
    .error (.limitExceeded .messageSize limits.messageSize length)
  else .ok ()

/-- A step that sends to a sink, which is left as it stands also when the step fails. -/
abbrev SendM (σ : Type) := EStateM Failure σ

/-- A step on a stream, as a step of sending. -/
def SendM.ofStream {σ α : Type} (step : StreamM σ α) : SendM σ α := fun sink =>
  match step sink with
  | .ok answer sink => .ok answer sink
  | .error cause sink => .error (.stream cause) sink

/-- Sends all of the bytes. -/
def send {σ : Type} [Sink σ] (bytes : Bytes) : SendM σ Unit :=
  SendM.ofStream (Sink.writeAll bytes)

/--
Sends the header of a frame.

A path that is too long is noticed only after the magic, the version and the flags are out.
-/
def sendHeader {σ : Type} [Sink σ] (path : String) (compression : Option Compression)
    (chunked : Bool) : SendM σ Unit := do
  send frameMagic
  send [wireVersion, Header.flags compression chunked]
  let bytes ← MonadExcept.ofExcept (pathBytes path)
  send (Bytes.ofNatBE 2 bytes.length)
  send bytes

end RemoteCall
