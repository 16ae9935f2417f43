import RemoteCall.Proofs.Frame.Cutting

/-! Packets come out of a stream in the same way, however it is cut into pieces on arrival. -/

namespace RemoteCall

/-- What came of a stream so far. -/
structure Intake where
  /-- The packets that were decoded, oldest first. -/
  packets : List Packet := []
  /-- Why the bytes that are left were refused; nothing as long as they are only incomplete. -/
  refusal : Option Failure := none
  buffer : FrameBuffer := {}
  deriving DecidableEq

/-- An intake, with packets that came before. -/
def Intake.after (packets : List Packet) (intake : Intake) : Intake :=
  -- Packets are delivered once, so what came before is only put in front.
  { intake with packets := packets ++ intake.packets }

namespace FrameBuffer

variable {limits : Limits} {buffer after : FrameBuffer} {packet : Packet} {failure : Failure}

/-- Decoding is cutting one frame off the front. -/
theorem decode_eq (limits : Limits) (buffer : FrameBuffer) :
    decode limits buffer =
      match (Packet.cutFrame limits buffer.bytes).run with
      | .ok (some (packet, rest)) => .ok (some packet) ⟨rest⟩
      | .ok none => .ok none buffer
      | .error failure => .error failure buffer := by
  -- The three ways in which a cut can end are the three answers of the decoder.
  rcases found : (Packet.cutFrame limits buffer.bytes).run with failure | _ | ⟨packet, rest⟩
  · simp only [decode, Packet.parse, found]
    rfl
  · simp only [decode, Packet.parse, found]
    rfl
  · obtain ⟨front, whole, _⟩ := (Packet.stable_cutFrame limits).complete found
    -- What is dropped is the frame, although its length is counted from the end.
    have consumed : buffer.bytes.length - rest.length = front.length := by
      rw [whole, List.length_append]
      omega
    have left : buffer.bytes.drop (buffer.bytes.length - rest.length) = rest := by
      rw [consumed, whole, List.drop_left]
    simp only [decode, Packet.parse, found]
    change EStateM.Result.ok (some packet)
      (FrameBuffer.mk (buffer.bytes.drop (buffer.bytes.length - rest.length))) = _
    rw [left]

/-- A packet is decoded exactly when its frame is cut off the front. -/
theorem decode_eq_packet_iff :
    decode limits buffer = .ok (some packet) after ↔
      (Packet.cutFrame limits buffer.bytes).run = .ok (some (packet, after.bytes)) := by
  -- Only a complete cut gives a packet, and then what is left is the buffer.
  rw [decode_eq]
  constructor
  · intro decoded
    split at decoded
    · next found =>
      cases decoded
      exact found
    all_goals cases decoded
  · intro found
    rw [found]

/-- A buffer is refused exactly when a frame cannot be cut off it, and it stays as it is. -/
theorem decode_eq_error_iff :
    decode limits buffer = .error failure after ↔
      (Packet.cutFrame limits buffer.bytes).run = .error failure ∧ after = buffer := by
  -- Only a refused cut is a failure, and it takes nothing off the buffer.
  rw [decode_eq]
  constructor
  · intro decoded
    split at decoded
    · cases decoded
    · cases decoded
    · next found =>
      cases decoded
      exact ⟨found, rfl⟩
  · intro facts
    obtain ⟨found, rfl⟩ := facts
    rw [found]

/-- An incomplete buffer stays as it is. -/
theorem eq_of_decode_none (decoded : decode limits buffer = .ok none after) : after = buffer := by
  -- Only an incomplete cut gives no packet, and it takes nothing off the buffer either.
  rw [decode_eq] at decoded
  split at decoded
  · cases decoded
  · cases decoded
    rfl
  · cases decoded

/-- A packet that was decoded is decoded from its frame alone, with other bytes left. -/
theorem decode_push_of_packet (decoded : decode limits buffer = .ok (some packet) after)
    (more : Bytes) : decode limits (buffer.push more) = .ok (some packet) (after.push more) := by
  have found := decode_eq_packet_iff.mp decoded
  -- The frame is the front of the buffer, and the bytes that arrive come after the rest.
  obtain ⟨front, whole, again⟩ := (Packet.stable_cutFrame limits).complete found
  apply decode_eq_packet_iff.mpr
  simp only [push]
  rw [whole, List.append_assoc]
  exact again _

/-- A buffer that was refused is refused with more bytes, too. -/
theorem decode_push_of_refused (decoded : decode limits buffer = .error failure after)
    (more : Bytes) : decode limits (buffer.push more) = .error failure (buffer.push more) := by
  obtain ⟨found, _⟩ := decode_eq_error_iff.mp decoded
  apply decode_eq_error_iff.mpr
  -- The cut is refused as before, and pushing is all that happened to the buffer.
  exact ⟨(Packet.stable_cutFrame limits).refused found more, rfl⟩

/-- A frame is not empty, so a packet leaves fewer bytes than there were. -/
theorem length_lt_of_decode (decoded : decode limits buffer = .ok (some packet) after) :
    after.bytes.length < buffer.bytes.length := by
  have found := decode_eq_packet_iff.mp decoded
  obtain ⟨front, whole, again⟩ := (Packet.stable_cutFrame limits).complete found
  -- An empty frame would be found in an empty buffer, too.
  cases front with
  | nil => cases again []
  | cons byte front =>
    rw [whole, List.length_append, List.length_cons]
    omega

/-- Decodes again and again, until what is left is incomplete or refused. -/
def drain (limits : Limits) (buffer : FrameBuffer) : Intake :=
  match _decoded : decode limits buffer with
  -- A packet is put in front of those that are found behind it.
  | .ok (some packet) left => (drain limits left).after [packet]
  | .ok none left => { buffer := left }
  | .error failure left => { refusal := some failure, buffer := left }
termination_by buffer.bytes.length
decreasing_by exact length_lt_of_decode _decoded

/-- A packet that can be decoded is the first of those that are drained. -/
theorem drain_of_packet (decoded : decode limits buffer = .ok (some packet) after) :
    drain limits buffer = (drain limits after).after [packet] := by
  -- The answer of the decoder decides how the walk goes on.
  rw [drain]
  split
  · next found =>
    cases decoded.symm.trans found
    rfl
  all_goals next found => cases decoded.symm.trans found

/-- A buffer that is incomplete is left as it is. -/
theorem drain_of_none (decoded : decode limits buffer = .ok none after) :
    drain limits buffer = { buffer := after } := by
  -- An incomplete frame ends the walk, and waits.
  rw [drain]
  split
  · next found => cases decoded.symm.trans found
  · next found =>
    cases decoded.symm.trans found
    rfl
  · next found => cases decoded.symm.trans found

end FrameBuffer

namespace Intake

/-- A piece arrives, and the buffer is decoded as far as possible. -/
def push (limits : Limits) (intake : Intake) (piece : Bytes) : Intake :=
  -- Whatever was refused before is looked at again, together with the piece.
  ((intake.buffer.push piece).drain limits).after intake.packets

/-- The pieces of a stream arrive, one after the other. -/
def run (limits : Limits) (pieces : List Bytes) : Intake :=
  pieces.foldl (push limits) {}

/-- Packets that came before stay before those that come of a further piece. -/
theorem push_after (limits : Limits) (packets : List Packet) (intake : Intake) (piece : Bytes) :
    (intake.after packets).push limits piece = (intake.push limits piece).after packets := by
  -- The packets do not matter to what is decoded.
  simp [push, after]

/-- To drain before more bytes arrive is to take the packets out earlier, and nothing else. -/
theorem drain_push (limits : Limits) (buffer : FrameBuffer) (more : Bytes) :
    (buffer.push more).drain limits = (buffer.drain limits).push limits more := by
  -- A packet is taken out in both cases; at the end, both buffers are the same.
  fun_induction FrameBuffer.drain limits buffer with
  | case1 buffer packet left decoded ih =>
    have decodedMore := FrameBuffer.decode_push_of_packet decoded more
    rw [FrameBuffer.drain_of_packet decodedMore, ih, push_after]
  | case2 buffer left decoded =>
    rw [FrameBuffer.eq_of_decode_none decoded]
    rfl
  | case3 buffer failure left decoded =>
    rw [(FrameBuffer.decode_eq_error_iff.mp decoded).2]
    rfl

/-- Nothing comes of nothing. -/
theorem drain_empty (limits : Limits) : FrameBuffer.drain limits {} = {} :=
  -- Without any bytes there is no frame yet.
  FrameBuffer.drain_of_none (FrameBuffer.decode_eq limits {})

/-- What comes of a stream is what comes of all its bytes at once. -/
theorem run_eq_drain (limits : Limits) (pieces : List Bytes) :
    run limits pieces = FrameBuffer.drain limits ⟨pieces.flatten⟩ := by
  -- The last piece arrives in a buffer that all the others have been drained from.
  induction pieces using List.reverseRecOn with
  | nil => exact (drain_empty limits).symm
  | append_singleton pieces piece ih =>
    rw [run, List.foldl_append, List.foldl_cons, List.foldl_nil]
    change (run limits pieces).push limits piece = _
    rw [ih, ← drain_push]
    simp [FrameBuffer.push]

/--
However a stream is cut into pieces, the same packets come of it, and the same is left of it.

A buffer that is incomplete or refused stays as it is, and neither a packet nor a refusal is
changed by bytes that arrive later.
-/
theorem run_eq_of_flatten_eq (limits : Limits) {pieces others : List Bytes}
    (same : pieces.flatten = others.flatten) :
    run limits pieces = run limits others ∧
      (∀ buffer after, FrameBuffer.decode limits buffer = .ok none after → after = buffer) ∧
      (∀ buffer packet after, FrameBuffer.decode limits buffer = .ok (some packet) after →
        ∀ more, FrameBuffer.decode limits (buffer.push more) =
          .ok (some packet) (after.push more)) ∧
      (∀ buffer failure after, FrameBuffer.decode limits buffer = .error failure after →
        after = buffer ∧ ∀ more, FrameBuffer.decode limits (buffer.push more) =
          .error failure (buffer.push more)) := by
  refine ⟨?_, ?_, ?_, ?_⟩
  · -- Both runs come to what all the bytes at once come to.
    rw [run_eq_drain, run_eq_drain, same]
  · intro buffer after decoded
    exact FrameBuffer.eq_of_decode_none decoded
  · intro buffer packet after decoded more
    exact FrameBuffer.decode_push_of_packet decoded more
  · intro buffer failure after decoded
    obtain ⟨_, unchanged⟩ := FrameBuffer.decode_eq_error_iff.mp decoded
    exact ⟨unchanged, FrameBuffer.decode_push_of_refused decoded⟩

/-- A frame and the start of another one, cut inside the header and inside the body. -/
theorem run_eq_of_flatten_eq_halves :
    let pieces : List Bytes := [[0x57, 0x43, 0x41], [0x4C, 1, 0, 0, 2, 0x2F, 0x61, 0, 0, 0, 2, 7],
      [], [8, 0x57]]
    let others : List Bytes := [[0x57, 0x43, 0x41, 0x4C, 1, 0, 0, 2, 0x2F, 0x61, 0, 0, 0, 2, 7, 8,
      0x57]]
    pieces.flatten = others.flatten ∧ run {} pieces = run {} others ∧
      run {} others = { packets := [{ path := "/a", body := [7, 8] }], buffer := ⟨[0x57]⟩ } := by
  -- One cut lies in the magic octets, another one in the body, and one piece is empty.
  intro pieces others
  have same : pieces.flatten = others.flatten := by decide
  exact ⟨same, (run_eq_of_flatten_eq {} same).1, by decide +kernel⟩

end Intake

end RemoteCall
