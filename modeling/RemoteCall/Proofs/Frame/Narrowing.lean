import RemoteCall.Proofs.Codec.Narrowing
import RemoteCall.Proofs.Codec.RoundTrip
import RemoteCall.Proofs.Frame.Acceptance

/-! What becomes of a frame under lower ceilings, and of all that ceilings are asked about. -/

namespace RemoteCall

variable {lower higher : Limits}

namespace Packet

variable {α β : Type}

/-- A sequence of cuts narrows if both of its cuts do. -/
theorem narrows_bind {first other : Cutting α} {next otherNext : α → Cutting β}
    (narrows : Narrows first.run other.run)
    (narrowsNext : ∀ answer, Narrows (next answer).run (otherNext answer).run) :
    Narrows (first >>= next).run (other >>= otherNext).run := by
  rw [OptionT.run_bind, OptionT.run_bind]
  -- A ceiling that stops the first cut stops the sequence.
  rcases narrows with same | ⟨ceiling, limit, actual, stopped⟩
  · rw [same]
    rcases other.run with failure | _ | answer
    · exact .inl rfl
    · exact .inl rfl
    · exact narrowsNext answer
  · rw [stopped]
    exact .inr ⟨ceiling, limit, actual, rfl⟩

/-- A cut that no ceiling is asked about may come before others. -/
theorem narrows_bind_same {first : Cutting α} {next otherNext : α → Cutting β}
    (narrowsNext : ∀ answer, Narrows (next answer).run (otherNext answer).run) :
    Narrows (first >>= next).run (first >>= otherNext).run :=
  narrows_bind (.inl rfl) narrowsNext

/-- A check narrows as a cut if it does so by itself. -/
theorem narrows_lift {check other : Except Failure α} (narrows : Narrows check other) :
    Narrows (OptionT.lift check : Cutting α).run (OptionT.lift other : Cutting α).run := by
  rcases narrows with rfl | ⟨ceiling, limit, actual, rfl⟩
  · exact .inl rfl
  · exact .inr ⟨ceiling, limit, actual, rfl⟩

/-- A length is let pass alike, unless it exceeds the lower ceiling of messages. -/
theorem narrows_checkMessage (below : lower.Below higher) (length : Nat) :
    Narrows (lower.checkMessage length) (higher.checkMessage length) := by
  by_cases exceeded : lower.messageSize < length
  · exact .inr ⟨_, _, _, if_pos exceeded⟩
  · have fits := Nat.not_lt.mp exceeded
    rw [checkMessage_of_le fits, checkMessage_of_le (Nat.le_trans fits below.message)]
    exact .inl rfl

/-- A length is let pass alike, unless it exceeds the lower ceiling of frames. -/
theorem narrows_checkFrame (below : lower.Below higher) (length : Nat) :
    Narrows (lower.checkFrame length) (higher.checkFrame length) := by
  by_cases exceeded : lower.frameSize < length
  · exact .inr ⟨_, _, _, if_pos exceeded⟩
  · have fits := Nat.not_lt.mp exceeded
    rw [checkFrame_of_le fits, checkFrame_of_le (Nat.le_trans fits below.frame)]
    exact .inl rfl

/-- A body that is refused for its length is refused by the name of the ceiling. -/
theorem checkMessage_eq_error {limits : Limits} {length : Nat} {failure : Failure}
    (refused : limits.checkMessage length = .error failure) :
    failure = .limitExceeded .messageSize limits.messageSize length := by
  unfold Limits.checkMessage at refused
  split at refused
  · exact (Except.error.inj refused).symm
  · cases refused

/-- A chunk that is refused for its length is refused by the name of the ceiling. -/
theorem checkFrame_eq_error {limits : Limits} {length : Nat} {failure : Failure}
    (refused : limits.checkFrame length = .error failure) :
    failure = .limitExceeded .frameSize limits.frameSize length := by
  unfold Limits.checkFrame at refused
  split at refused
  · exact (Except.error.inj refused).symm
  · cases refused

/-- Chunks are joined alike, unless one of them or all of them together exceed a lower ceiling. -/
theorem narrows_cutChunks (below : lower.Below higher) (joined : Gathered) (buffer : Bytes) :
    Narrows (cutChunks lower joined buffer) (cutChunks higher joined buffer) := by
  -- The induction follows the chunks that the lower ceilings let pass.
  fun_induction cutChunks lower joined buffer with
  -- Neither a missing length nor the one that ends the body is held to a ceiling.
  | case1 joined buffer missing =>
    rw [cutChunks]
    split
    · exact .inl rfl
    · next found => cases missing.symm.trans found
  | case2 joined buffer field after split length last =>
    rw [cutChunks_of_field split, if_pos last]
    exact .inl rfl
  -- A check that fails under the lower ceilings stops the walk.
  | case3 joined buffer field after split length positive failure refused =>
    exact .inr ⟨_, _, _, congrArg Except.error (checkFrame_eq_error refused)⟩
  | case4 joined buffer field after split length positive failure refused framed =>
    exact .inr ⟨_, _, _, congrArg Except.error (checkMessage_eq_error refused)⟩
  -- Checks that are passed under the lower ceilings are passed under the higher ones.
  | case5 joined buffer field after split length positive fits framed missing =>
    have framed := (narrows_checkFrame below length).eq_ok framed
    have fits := (narrows_checkMessage below _).eq_ok fits
    simp only [length] at framed fits missing
    rw [cutChunks_of_field split, if_neg positive, framed, fits]
    simp only [missing]
    exact .inl rfl
  | case6 joined buffer field after split length positive fits framed chunk rest further ih =>
    have framed := (narrows_checkFrame below length).eq_ok framed
    have fits := (narrows_checkMessage below _).eq_ok fits
    simp only [length] at framed fits further
    rw [cutChunks_of_field split, if_neg positive, framed, fits]
    simp only [further]
    exact ih

/-- A frame is cut off alike, unless it exceeds a lower ceiling. -/
theorem narrows_cutFrame (below : lower.Below higher) (buffer : Bytes) :
    Narrows (cutFrame lower buffer).run (cutFrame higher buffer).run := by
  rw [cutFrame_eq, cutFrame_eq]
  -- No ceiling is asked about the header and the path.
  refine narrows_bind_same fun cutFixed => narrows_bind_same fun header => ?_
  refine narrows_bind_same fun cutPath => narrows_bind_same fun path => ?_
  cases chunked : header.chunked with
  -- The chunks are held to both ceilings as they come.
  | true =>
    simp only [if_true]
    exact narrows_bind (narrows_cutChunks below .empty cutPath.2) fun body => .inl rfl
  | false =>
    simp only [Bool.false_eq_true, if_false]
    -- The length of a body in one piece is held to that of messages before the body is cut off.
    refine narrows_bind_same fun cutField => ?_
    exact narrows_bind (narrows_lift (narrows_checkMessage below _)) fun _ => .inl rfl

/-- A frame is parsed under lower ceilings as under higher ones, unless it exceeds one. -/
theorem parse_narrows (below : lower.Below higher) (buffer : Bytes) :
    Narrows (parse buffer lower) (parse buffer higher) := by
  unfold parse
  -- What is left of the buffer only tells how much was consumed.
  rcases narrows_cutFrame below buffer with same | ⟨ceiling, limit, actual, stopped⟩
  · rw [same]
    exact .inl rfl
  · rw [stopped]
    exact .inr ⟨ceiling, limit, actual, rfl⟩

end Packet

/--
Lower ceilings change what becomes of a message or a frame in one way only: they stop it.

The outcome under lower ceilings is that under higher ones, failures included, or it is the failure
that names a ceiling; what is accepted is therefore accepted under higher ceilings, and with the
same result.
-/
theorem ceilings_narrow (below : lower.Below higher) :
    (∀ bytes, Narrows (decode bytes lower) (decode bytes higher)) ∧
      (∀ value, Narrows (encode value lower) (encode value higher)) ∧
      (∀ buffer, Narrows (Packet.parse buffer lower) (Packet.parse buffer higher)) ∧
      (∀ bytes value, decode bytes lower = .ok value → decode bytes higher = .ok value) ∧
      (∀ value bytes, encode value lower = .ok bytes → encode value higher = .ok bytes) ∧
      ∀ buffer found, Packet.parse buffer lower = .ok found →
        Packet.parse buffer higher = .ok found :=
  ⟨decode_narrows below, encode_narrows below, Packet.parse_narrows below,
    fun bytes _ => (decode_narrows below bytes).eq_ok,
    fun value _ => (encode_narrows below value).eq_ok,
    fun buffer _ => (Packet.parse_narrows below buffer).eq_ok⟩

/-- A list in a list is stopped by the lower ceiling of depth, and a list alone is not. -/
theorem ceilings_narrow_list :
    let lower : Limits := { messageSize := 12, frameSize := 4, depth := 1 }
    let higher : Limits := { messageSize := 12, frameSize := 4, depth := 2 }
    let deep : Bytes := [1, 8, 0, 0, 0, 1, 8, 0, 0, 0, 0]
    let shallow : Bytes := [1, 8, 0, 0, 0, 0]
    lower.Below higher ∧ decode deep higher = .ok (.list [.list []]) ∧
      (∃ ceiling limit actual, decode deep lower = .error (.limitExceeded ceiling limit actual)) ∧
      decode shallow lower = .ok (.list []) ∧ decode shallow higher = .ok (.list []) := by
  intro lower higher deep shallow
  have below : lower.Below higher := ⟨by decide, by decide, by decide⟩
  obtain ⟨narrows, _, _, kept, _⟩ := ceilings_narrow below
  have accepted : decode deep higher = .ok (.list [.list []]) :=
    decode_eq_ok_iff.mpr ⟨by decide +kernel, by decide⟩
  have admitted : decode shallow lower = .ok (.list []) :=
    decode_eq_ok_iff.mpr ⟨by decide +kernel, by decide⟩
  refine ⟨below, accepted, (narrows deep).resolve_left fun same => ?_, admitted,
    kept shallow _ admitted⟩
  -- Under the lower ceilings there is no answer at all.
  have refused : (decode deep lower).isOk = false := by decide +kernel
  rw [same, accepted] at refused
  cases refused

end RemoteCall
