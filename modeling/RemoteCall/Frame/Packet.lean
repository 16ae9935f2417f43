import RemoteCall.Compression.Compress
import RemoteCall.Frame.Header
import RemoteCall.Stream.Source

/-! Frames: a body posted to a path, its two wire forms, and the buffer that frames are cut from. -/

namespace RemoteCall

/-- A body and the path that it is posted to. -/
structure Packet where
  path : String
  compression : Option Compression := none
  /-- The body as it was transmitted, its chunks joined. -/
  body : Bytes
  deriving DecidableEq, Repr, Inhabited

namespace Packet

/-- The frame of a packet, with a body of known length. -/
def toBytes (packet : Packet) : Except Failure Bytes := do
  match sendHeader packet.path packet.compression false ({} : Store) with
  | .error failure _ => throw failure
  | .ok () header =>
    let length ← bodyLength packet.body.length
    return header.toBytes ++ length ++ packet.body

/-- A buffer with the frame of a packet at its end. -/
def appendTo (packet : Packet) (buffer : Bytes) : Except Failure Bytes := do
  let path ← pathBytes packet.path
  let length ← bodyLength packet.body.length
  return buffer ++ frameMagic ++ [wireVersion, Compression.flagOf packet.compression]
    ++ Bytes.ofNatBE 2 path.length ++ path ++ length ++ packet.body

/-- The body with its content encoding removed, unless it is then too long for a message. -/
def payload (packet : Packet) (limits : Limits) (decoders : Decoders := .standard) :
    Except Failure Bytes :=
  match packet.compression with
  | none => .ok packet.body
  | some kind => decoders.decompress kind packet.body limits.messageSize

/-- A buffer is cut into pieces; nothing comes of it while a piece is not complete. -/
abbrev Cutting := OptionT (Except Failure)

/-- Cuts off a piece of the given length. -/
def cut (length : Nat) (buffer : Bytes) : Cutting (Bytes × Bytes) :=
  .mk (.ok (buffer.splitExact? length))

/-- A piece and what follows it make up the buffer. -/
theorem splitExact?_eq_some {length : Nat} {buffer front rest : Bytes}
    (split : buffer.splitExact? length = some (front, rest)) :
    front.length = length ∧ front ++ rest = buffer := by
  simp only [Bytes.splitExact?, List.splitAt_eq] at split
  split at split
  · next whole =>
    simp only [Option.some.injEq, Prod.mk.injEq] at split
    obtain ⟨rfl, rfl⟩ := split
    exact ⟨whole, List.take_append_drop ..⟩
  · simp at split

/-- Measures the chunks at the front of a buffer, up to the empty one, and finds what follows. -/
def skipChunks (limits : Limits) (total : Nat) (buffer : Bytes) :
    Except Failure (Option Bytes) :=
  match _field : buffer.splitExact? 4 with
  | none => .ok none
  | some (field, afterField) =>
    let length := Bytes.toNatBE field
    if length = 0 then .ok (some afterField)
    else
      -- A length is judged before the bytes that it announces have arrived.
      match limits.checkFrame length, limits.checkMessage (total + length) with
      | .error failure, _ => .error failure
      | .ok (), .error failure => .error failure
      | .ok (), .ok () =>
        match _chunk : afterField.splitExact? length with
        | none => .ok none
        | some (_, rest) => skipChunks limits (total + length) rest
termination_by buffer.length
decreasing_by
  obtain ⟨fieldLength, rfl⟩ := splitExact?_eq_some _field
  obtain ⟨_, rfl⟩ := splitExact?_eq_some _chunk
  simp only [List.length_append]
  omega

/-- Joins the chunks at the front of a buffer, up to the empty one; they are known to be there. -/
def joinChunks (joined : Gathered) (buffer : Bytes) : Gathered :=
  match _field : buffer.splitExact? 4 with
  | none => joined
  | some (field, afterField) =>
    let length := Bytes.toNatBE field
    if length = 0 then joined
    else joinChunks (joined.push (afterField.take length)) (afterField.drop length)
termination_by buffer.length
decreasing_by
  obtain ⟨fieldLength, rfl⟩ := splitExact?_eq_some _field
  simp only [List.length_append, List.length_drop]
  omega

/-- Cuts one frame off the front of a buffer, and answers what is left of the buffer. -/
def cutFrame (limits : Limits) (buffer : Bytes) : Cutting (Packet × Bytes) := do
  let (fixed, buffer) ← cut fixedHeaderLength buffer
  let header ← OptionT.lift (Header.ofBytes fixed)
  let (pathBytes, buffer) ← cut header.pathLength buffer
  let path ← OptionT.lift (pathOfBytes pathBytes)
  let compression := header.compression
  if header.chunked then
    -- Nothing is copied until all chunks are there.
    let rest ← OptionT.mk (skipChunks limits 0 buffer)
    return ({ path, compression, body := (joinChunks .empty buffer).toBytes }, rest)
  else
    let (field, buffer) ← cut 4 buffer
    let length := Bytes.toNatBE field
    OptionT.lift (limits.checkMessage length)
    let (body, rest) ← cut length buffer
    return ({ path, compression, body }, rest)

/--
The packet at the front of a buffer and the length of its frame.

Without an error there is none only as long as the frame is not complete.
-/
def parse (buffer : Bytes) (limits : Limits) : Except Failure (Option (Packet × Nat)) := do
  match ← (cutFrame limits buffer).run with
  | none => return none
  | some (packet, rest) => return some (packet, buffer.length - rest.length)

end Packet

/-- The bytes that have arrived and are not yet cut into frames. -/
structure FrameBuffer where
  bytes : Bytes := []
  deriving DecidableEq, Inhabited

namespace FrameBuffer

/-- Adds bytes as they arrive. -/
def push (bytes : Bytes) (buffer : FrameBuffer) : FrameBuffer :=
  ⟨buffer.bytes ++ bytes⟩

/-- Adds the frame of a packet; a packet that has none leaves the buffer as it is. -/
def encode (packet : Packet) : SendM FrameBuffer Unit := fun buffer =>
  match packet.appendTo buffer.bytes with
  | .ok bytes => .ok () ⟨bytes⟩
  | .error failure => .error failure buffer

/-- Takes the next packet off the front, and leaves the buffer as it is when there is none. -/
def decode (limits : Limits) : SendM FrameBuffer (Option Packet) := fun buffer =>
  match Packet.parse buffer.bytes limits with
  | .ok (some (packet, consumed)) => .ok (some packet) ⟨buffer.bytes.drop consumed⟩
  | .ok none => .ok none buffer
  | .error failure => .error failure buffer

end FrameBuffer

end RemoteCall
