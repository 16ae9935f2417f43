import RemoteCall.Proofs.Frame.Cutting

/-! Frames as they stand on the wire, and that a buffer opening with one is cut after it. -/

namespace RemoteCall

/-- The body of a frame on the wire. -/
inductive FrameBody where
  /-- The length of the body comes before all of it. -/
  | whole (data : Bytes)
  /-- Every chunk comes after its length, and an empty one ends the body. -/
  | chunks (pieces : List Bytes)

namespace FrameBody

/-- The bytes that the body carries. -/
def data : FrameBody → Bytes
  | .whole data => data
  | .chunks pieces => pieces.flatten

/-- Whether the body comes in chunks. -/
def isChunked : FrameBody → Bool
  | .whole _ => false
  | .chunks _ => true

/-- A chunk on the wire. -/
def chunkBytes (piece : Bytes) : Bytes := Bytes.ofNatBE 4 piece.length ++ piece

/-- The body on the wire. -/
def toBytes : FrameBody → Bytes
  | .whole data => chunkBytes data
  -- The empty chunk is the only one that a body must not have before its end.
  | .chunks pieces => (pieces.map chunkBytes).flatten ++ chunkBytes []

/-- The body respects the ceilings, and four octets count each of its lengths. -/
def Within (limits : Limits) : FrameBody → Prop
  -- A body in one piece is held to the ceiling of messages alone.
  | .whole data => data.length ≤ limits.messageSize ∧ data.length < 256 ^ 4
  -- The chunks are held to the ceiling of frames one by one, and then together.
  | .chunks pieces =>
    (∀ piece ∈ pieces, piece ≠ [] ∧ piece.length ≤ limits.frameSize ∧ piece.length < 256 ^ 4) ∧
      pieces.flatten.length ≤ limits.messageSize

end FrameBody

/-- A frame on the wire. -/
structure Frame where
  path : String
  compression : Option Compression
  body : FrameBody

namespace Frame

/-- The packet that a frame carries. -/
def packet (frame : Frame) : Packet where
  path := frame.path
  compression := frame.compression
  body := frame.body.data

/-- The fixed part of the header of a frame. -/
def fixedBytes (frame : Frame) : Bytes :=
  -- The length of the path comes last, and the path itself is not of a fixed length.
  frameMagic ++ [wireVersion, Header.flags frame.compression frame.body.isChunked]
    ++ Bytes.ofNatBE 2 (Bytes.ofString frame.path).length

/-- The bytes of a frame. -/
def toBytes (frame : Frame) : Bytes :=
  frame.fixedBytes ++ (Bytes.ofString frame.path ++ frame.body.toBytes)

/-- A frame respects the ceilings, and its path is short enough for its length field. -/
structure Within (limits : Limits) (frame : Frame) : Prop where
  path : (Bytes.ofString frame.path).length < 256 ^ 2
  body : frame.body.Within limits

end Frame

namespace Packet

/-- The flags tell the encoding and the form of a body, and the last two octets are a number. -/
theorem ofBytes_header (compression : Option Compression) (chunked : Bool) (high low : UInt8) :
    Header.ofBytes (frameMagic ++ [wireVersion, Header.flags compression chunked]
        ++ [high, low]) =
      .ok { compression, chunked, pathLength := Bytes.toNatBE [high, low] } := by
  -- There are eight flags that mean something.
  rcases compression with _ | kind
  · cases chunked <;> rfl
  · cases kind <;> cases chunked <;> rfl

/-- The fixed part of a header tells what it was made of. -/
theorem ofBytes_fixedBytes {frame : Frame}
    (short : (Bytes.ofString frame.path).length < 256 ^ 2) :
    Header.ofBytes frame.fixedBytes =
      .ok {
        compression := frame.compression
        chunked := frame.body.isChunked
        pathLength := (Bytes.ofString frame.path).length } := by
  -- The length of a short path survives in two octets.
  have length := Bytes.toNatBE_ofNatBE_of_lt short
  simp only [Frame.fixedBytes]
  generalize (Bytes.ofString frame.path).length = count at length
  -- The two octets are opened up, so that the header is one of concrete octets.
  rw [Bytes.ofNatBE_two, ofBytes_header, ← Bytes.ofNatBE_two, length]

/-- A piece of the right length is cut off, and a sequence of cuts goes on behind it. -/
theorem cut_bind {α : Type} {length : Nat} {piece : Bytes} (whole : piece.length = length)
    (rest : Bytes) (next : Bytes × Bytes → Cutting α) :
    cut length (piece ++ rest) >>= next = next (piece, rest) := by
  -- The split succeeds, so the sequence does not stop here.
  simp only [cut, Bytes.splitExact?_append_of_length whole]
  rfl

/-- A check that passes lets a sequence of cuts go on. -/
theorem lift_ok_bind {α β : Type} (answer : α) (next : α → Cutting β) :
    OptionT.lift (Except.ok answer : Except Failure α) >>= next = next answer := rfl

/-- A ceiling lets a body pass that is not longer. -/
theorem checkMessage_of_le {limits : Limits} {length : Nat} (fits : length ≤ limits.messageSize) :
    limits.checkMessage length = .ok () := if_neg (Nat.not_lt.mpr fits)

/-- A ceiling lets a chunk pass that is not longer. -/
theorem checkFrame_of_le {limits : Limits} {length : Nat} (fits : length ≤ limits.frameSize) :
    limits.checkFrame length = .ok () := if_neg (Nat.not_lt.mpr fits)

/-- Chunks that respect the ceilings are joined, whatever follows the empty one. -/
theorem cutChunks_toBytes {limits : Limits} (pieces : List Bytes) (joined : Gathered)
    (fits : ∀ piece ∈ pieces, piece ≠ [] ∧ piece.length ≤ limits.frameSize ∧
      piece.length < 256 ^ 4)
    (total : joined.size + pieces.flatten.length ≤ limits.messageSize) (rest : Bytes) :
    cutChunks limits joined ((FrameBody.chunks pieces).toBytes ++ rest) =
      .ok (some (joined.toBytes ++ pieces.flatten, rest)) := by
  -- The induction follows the chunks, and what was joined so far grows with each of them.
  induction pieces generalizing joined with
  | nil =>
    -- Only the empty chunk is left, and it ends the body.
    have field : Bytes.splitExact? 4 ((FrameBody.chunks []).toBytes ++ rest) =
        some (Bytes.ofNatBE 4 0, rest) :=
      Bytes.splitExact?_append_of_length (Bytes.length_ofNatBE 4 0) rest
    have none : Bytes.toNatBE (Bytes.ofNatBE 4 0) = 0 := rfl
    rw [cutChunks_of_field field, if_pos none]
    simp
  | cons piece pieces ih =>
    obtain ⟨present, framed, counted⟩ := fits piece (by simp)
    have positive := List.length_pos_iff.mpr present
    simp only [List.flatten_cons, List.length_append] at total
    -- The octets of the length come first, then those of the chunk, then the other chunks.
    have spelled : (FrameBody.chunks (piece :: pieces)).toBytes ++ rest =
        Bytes.ofNatBE 4 piece.length ++ (piece ++ ((FrameBody.chunks pieces).toBytes ++ rest)) := by
      simp [FrameBody.toBytes, FrameBody.chunkBytes]
    have field := Bytes.splitExact?_append_of_length (Bytes.length_ofNatBE 4 piece.length)
      (piece ++ ((FrameBody.chunks pieces).toBytes ++ rest))
    have length := Bytes.toNatBE_ofNatBE_of_lt counted
    rw [spelled, cutChunks_of_field field, length, if_neg (by omega), checkFrame_of_le framed,
      checkMessage_of_le (by omega)]
    simp only [Bytes.splitExact?_append]
    rw [ih (joined.push piece) (fun other member => fits other (by simp [member]))]
    · simp
    · simp only [Gathered.push]
      omega

/-- A frame that respects the ceilings is cut off, whatever follows it. -/
theorem cutFrame_toBytes {limits : Limits} {frame : Frame} (within : frame.Within limits)
    (rest : Bytes) :
    (cutFrame limits (frame.toBytes ++ rest)).run = .ok (some (frame.packet, rest)) := by
  obtain ⟨short, body⟩ := within
  have fixed : frame.fixedBytes.length = fixedHeaderLength := by
    simp [Frame.fixedBytes, frameMagic, fixedHeaderLength]
  -- The frame is cut in the order in which it is spelled: header, path and body.
  simp only [cutFrame_eq, Frame.toBytes, List.append_assoc]
  rw [cut_bind fixed, ofBytes_fixedBytes short, lift_ok_bind, cut_bind rfl]
  -- The octets of the path are those of a string.
  have path : pathOfBytes (Bytes.ofString frame.path) = .ok frame.path := by
    simp [pathOfBytes]
  rw [path, lift_ok_bind]
  cases shape : frame.body with
  -- The length field of a body in one piece is checked, and then the body is cut off.
  | whole data =>
    rw [shape] at body
    obtain ⟨fits, counted⟩ := body
    have length := Bytes.toNatBE_ofNatBE_of_lt counted
    simp only [FrameBody.isChunked, Bool.false_eq_true, if_false, FrameBody.toBytes,
      FrameBody.chunkBytes, List.append_assoc]
    rw [cut_bind (Bytes.length_ofNatBE 4 data.length)]
    simp only [length]
    rw [checkMessage_of_le fits, lift_ok_bind, cut_bind rfl]
    simp only [Frame.packet, shape, FrameBody.data]
    rfl
  -- The chunks are joined, starting from nothing.
  | chunks pieces =>
    rw [shape] at body
    have joined := cutChunks_toBytes pieces .empty body.1 (by simpa using body.2) rest
    simp only [FrameBody.isChunked, if_true, joined]
    simp [Frame.packet, shape, FrameBody.data]

/-- A buffer that opens with a frame is parsed up to the end of the frame. -/
theorem parse_toBytes {limits : Limits} {frame : Frame} (within : frame.Within limits)
    (rest : Bytes) :
    parse (frame.toBytes ++ rest) limits = .ok (some (frame.packet, frame.toBytes.length)) := by
  -- The length of a frame is counted from what the cut has left.
  have consumed : (frame.toBytes ++ rest).length - rest.length = frame.toBytes.length := by
    rw [List.length_append]
    omega
  simp only [parse, cutFrame_toBytes within rest]
  exact congrArg (fun count => Except.ok (some (frame.packet, count))) consumed

end Packet

end RemoteCall
