import RemoteCall.Proofs.Frame.Intake
import RemoteCall.Proofs.Frame.Spelling

/-! How long a buffer can get that waits for the rest of a frame, and which lengths end the wait. -/

namespace RemoteCall

namespace Packet

variable {α β : Type} {limits : Limits} {buffer : Bytes}

/-- The flags in a buffer, if it holds any yet, tell of a body in chunks. -/
def MarkedChunked (buffer : Bytes) : Prop := ∃ flags, buffer[5]? = some flags ∧ flags &&& 0b100 ≠ 0

/-- A buffer is no longer than one that waits for the rest of a frame may be. -/
structure Confined (limits : Limits) (buffer : Bytes) : Prop where
  -- In the worst case, every byte of the body comes in a chunk of its own, behind four octets.
  always : buffer.length < 65547 + 5 * limits.messageSize
  -- A body in one piece comes behind the octets of a single length.
  unchunked : ¬ MarkedChunked buffer → buffer.length < 65547 + limits.messageSize

/-- What is short enough for a body in one piece is short enough. -/
theorem Confined.of_lt (short : buffer.length < 65547 + limits.messageSize) :
    Confined limits buffer :=
  ⟨by omega, fun _ => short⟩

/-- A sequence of cuts waits for the first of them, or for the second after the first. -/
theorem cutting_bind_eq_none_iff {first : Cutting α} {next : α → Cutting β} :
    (first >>= next).run = .ok none ↔
      first.run = .ok none ∨
        ∃ answer, first.run = .ok (some answer) ∧ (next answer).run = .ok none := by
  rw [OptionT.run_bind]
  rcases first.run with cause | _ | answer
  · constructor
    · intro waiting
      cases waiting
    · rintro (same | ⟨_, same, _⟩)
      · cases same
      · cases same
  · exact ⟨fun _ => .inl rfl, fun _ => rfl⟩
  · constructor
    · intro waiting
      exact .inr ⟨answer, rfl, waiting⟩
    · rintro (same | ⟨_, same, waiting⟩)
      · cases same
      · cases same
        exact waiting

/-- A piece is waited for exactly as long as the buffer is shorter. -/
theorem cut_eq_none_iff {length : Nat} :
    (cut length buffer).run = .ok none ↔ buffer.length < length := by
  change Except.ok (buffer.splitExact? length) = Except.ok none ↔ _
  simp only [Except.ok.injEq, Bytes.splitExact?, List.splitAt_eq, List.length_take]
  split
  · simp
    omega
  · simp
    omega

/-- What waits for a piece, or for what follows it, is told from how much of the buffer is there. -/
theorem cut_bind_eq_none {length : Nat} {next : Bytes × Bytes → Cutting β}
    (waiting : (cut length buffer >>= next).run = .ok none) :
    buffer.length < length ∨ ∃ front rest, front.length = length ∧ buffer = front ++ rest ∧
      (next (front, rest)).run = .ok none := by
  rcases cutting_bind_eq_none_iff.mp waiting with missing | ⟨⟨front, rest⟩, found, behind⟩
  · exact .inl (cut_eq_none_iff.mp missing)
  · obtain ⟨whole, joined⟩ := cut_eq_some_iff.mp found
    exact .inr ⟨front, rest, whole, joined, behind⟩

/-- A check is not waited for, only what follows it. -/
theorem lift_bind_eq_none {check : Except Failure α} {next : α → Cutting β}
    (waiting : (OptionT.lift check >>= next).run = .ok none) :
    ∃ answer, check = .ok answer ∧ (next answer).run = .ok none := by
  cases check with
  | ok answer => exact ⟨answer, rfl, waiting⟩
  | error failure => cases waiting

/-- Chunks that are waited for come with at most four octets for each byte that is still allowed. -/
theorem length_lt_of_cutChunks {joined : Gathered} (room : joined.size ≤ limits.messageSize)
    (waiting : cutChunks limits joined buffer = .ok none) :
    buffer.length < 4 + 5 * (limits.messageSize - joined.size) := by
  -- The induction follows the chunks that are there; none of them is empty.
  fun_induction cutChunks limits joined buffer with
  | case2 | case3 | case4 => cases waiting
  -- Not even the length of the next chunk is there.
  | case1 joined buffer missing =>
    have short := cut_eq_none_iff.mp (congrArg Except.ok missing)
    omega
  -- The length is there, and was let pass, so that the chunk itself is allowed.
  | case5 joined buffer field after split length positive fits framed missing =>
    obtain ⟨four, rfl⟩ := splitExact?_eq_some split
    have short := cut_eq_none_iff.mp (congrArg Except.ok missing)
    have total := checkMessage_eq_ok_iff.mp fits
    rw [List.length_append]
    omega
  -- A chunk takes four octets and itself, and leaves so much less room.
  | case6 joined buffer field after split length positive fits framed chunk rest further ih =>
    obtain ⟨four, rfl⟩ := splitExact?_eq_some split
    obtain ⟨whole, rfl⟩ := splitExact?_eq_some further
    have total := checkMessage_eq_ok_iff.mp fits
    have size : (joined.push chunk).size = chunk.length + joined.size := rfl
    have others := ih (by omega) waiting
    rw [List.length_append, List.length_append]
    omega

/-- The flags of a header that was understood tell whether the body comes in chunks. -/
theorem markedChunked_iff {fixed after : Bytes} {header : Header}
    (told : Header.ofBytes fixed = .ok header) :
    MarkedChunked (fixed ++ after) ↔ header.chunked = true := by
  obtain ⟨_, rfl⟩ := Header.eq_of_ofBytes told
  have formed := (eq_flags_iff.mp (rfl : Header.flags header.compression header.chunked = _)).2.2
  -- Magic and version come before the flags.
  have sixth : (frameMagic ++ [wireVersion, Header.flags header.compression header.chunked]
      ++ Bytes.ofNatBE 2 header.pathLength ++ after)[5]? =
        some (Header.flags header.compression header.chunked) := rfl
  constructor
  · rintro ⟨flags, found, marked⟩
    cases sixth.symm.trans found
    rw [← formed]
    exact bne_iff_ne.mpr marked
  · intro chunked
    exact ⟨_, sixth, bne_iff_ne.mp (formed.trans chunked)⟩

/-- A buffer that a frame cannot be cut off yet is confined. -/
theorem confined_of_cutFrame (waiting : (cutFrame limits buffer).run = .ok none) :
    Confined limits buffer := by
  rw [cutFrame_eq] at waiting
  rcases cut_bind_eq_none waiting with short | ⟨fixed, after, eight, rfl, headed⟩
  · simp only [fixedHeaderLength] at short
    exact .of_lt (by omega)
  simp only [fixedHeaderLength] at eight
  obtain ⟨header, told, named⟩ := lift_bind_eq_none headed
  have few : header.pathLength < 256 ^ 2 := (Header.eq_of_ofBytes told).1
  rcases cut_bind_eq_none named with short | ⟨octets, body, path, rfl, spelled⟩
  · refine .of_lt ?_
    rw [List.length_append]
    omega
  obtain ⟨_, _, carried⟩ := lift_bind_eq_none spelled
  -- Header and path are there, and it is the body that is waited for.
  cases chunked : header.chunked with
  | true =>
    simp only [chunked, if_true] at carried
    rcases cutting_bind_eq_none_iff.mp carried with missing | ⟨_, _, done⟩
    · have short := length_lt_of_cutChunks (Nat.zero_le _) missing
      simp only [Gathered.size_empty, Nat.sub_zero] at short
      refine ⟨?_, fun unmarked => (unmarked ((markedChunked_iff told).mpr chunked)).elim⟩
      simp only [List.length_append]
      omega
    · cases done
  | false =>
    simp only [chunked, Bool.false_eq_true, if_false] at carried
    -- Either the length is missing, or it was let pass and some of the body is missing.
    have short : body.length < 4 + limits.messageSize := by
      rcases cut_bind_eq_none carried with short | ⟨field, data, four, rfl, judged⟩
      · omega
      obtain ⟨_, fits, awaited⟩ := lift_bind_eq_none judged
      have allowed := checkMessage_eq_ok_iff.mp fits
      rcases cut_bind_eq_none awaited with short | ⟨_, _, _, _, done⟩
      · rw [List.length_append]
        exact Nat.add_lt_add_of_le_of_lt four.le (Nat.lt_of_lt_of_le short allowed)
      · cases done
    refine .of_lt ?_
    simp only [List.length_append]
    omega

/-- Nothing is parsed exactly when decoding leaves the buffer as it is, without a packet. -/
theorem parse_eq_none_iff_decode :
    parse buffer limits = .ok none ↔
      ∃ after, FrameBuffer.decode limits ⟨buffer⟩ = .ok none after := by
  rw [parse_eq_none_iff, FrameBuffer.decode_eq]
  -- The decoder answers as the cut ends.
  rcases (cutFrame limits buffer).run with failure | _ | ⟨packet, rest⟩
  · simp
  · simp
  · simp

/-- The cut of a frame goes on with the body once header and path are there. -/
theorem cutFrame_opening {path : String} {compression : Option Compression} {chunked : Bool}
    {opening : Bytes} (opens : Opening path compression chunked opening) (behind : Bytes) :
    cutFrame limits (opening ++ behind) =
      if chunked then do
        let (body, rest) ← OptionT.mk (cutChunks limits .empty behind)
        return ({ path, compression, body }, rest)
      else do
        let (field, buffer) ← cut 4 behind
        let length := Bytes.toNatBE field
        OptionT.lift (limits.checkMessage length)
        let (body, rest) ← cut length buffer
        return ({ path, compression, body }, rest) := by
  obtain ⟨short, rfl⟩ := opening_iff.mp opens
  -- The header is that of a frame, of which nothing but the form of its body matters.
  obtain ⟨body, rfl⟩ : ∃ body : FrameBody, body.isChunked = chunked := by
    cases chunked with
    | false => exact ⟨.whole [], rfl⟩
    | true => exact ⟨.chunks [], rfl⟩
  have told : Header.ofBytes (Frame.fixedBytes ⟨path, compression, body⟩) = .ok _ :=
    ofBytes_fixedBytes short
  have spelled : pathOfBytes (Bytes.ofString path) = .ok path := pathOfBytes_eq_ok_iff.mpr rfl
  have eight : (Frame.fixedBytes ⟨path, compression, body⟩).length = fixedHeaderLength := by
    simp [Frame.fixedBytes, frameMagic, fixedHeaderLength]
  change cutFrame limits (Frame.fixedBytes ⟨path, compression, body⟩ ++ _ ++ behind) = _
  simp only [cutFrame_eq, List.append_assoc]
  rw [cut_bind eight, told, lift_ok_bind, cut_bind rfl, spelled, lift_ok_bind]

/-- Chunks that respect the ceilings are joined before anything behind them is looked at. -/
theorem cutChunks_row {row data : Bytes} (chunks : ChunkRow limits row data) (joined : Gathered)
    (fits : joined.size + data.length ≤ limits.messageSize) :
    ∃ more : Gathered, more.size = joined.size + data.length ∧
      ∀ behind, cutChunks limits joined (row ++ behind) = cutChunks limits more behind := by
  induction chunks generalizing joined with
  | nil => exact ⟨joined, rfl, fun _ => rfl⟩
  | @cons field piece row data four counted present framed others ih =>
    rw [List.length_append] at fits ⊢
    have size : (joined.push piece).size = piece.length + joined.size := rfl
    obtain ⟨more, gathered, further⟩ := ih (joined.push piece) (by omega)
    refine ⟨more, by omega, fun behind => ?_⟩
    -- The chunk is let pass, and the others are cut off behind it.
    rw [List.append_assoc, List.append_assoc,
      cutChunks_of_field (Bytes.splitExact?_append_of_length four _), counted,
      if_neg (by omega), checkFrame_of_le framed, checkMessage_of_le (by omega)]
    simp only [Bytes.splitExact?_append]
    exact further behind

/-- A length that is over its ceiling, behind all that comes before it, and the failure it is. -/
inductive Overlong (limits : Limits) : Bytes → Failure → Prop where
  /-- A body in one piece is too long for a message. -/
  | whole {path : String} {compression : Option Compression} {opening field : Bytes}
      (opens : Opening path compression false opening) (four : field.length = 4)
      (excess : limits.messageSize < Bytes.toNatBE field) :
      Overlong limits (opening ++ field)
        (.limitExceeded .messageSize limits.messageSize (Bytes.toNatBE field))
  /-- A chunk is too long for a chunk. -/
  | chunk {path : String} {compression : Option Compression} {opening row data field : Bytes}
      (opens : Opening path compression true opening) (chunks : ChunkRow limits row data)
      (fits : data.length ≤ limits.messageSize) (four : field.length = 4)
      (excess : limits.frameSize < Bytes.toNatBE field) :
      Overlong limits (opening ++ (row ++ field))
        (.limitExceeded .frameSize limits.frameSize (Bytes.toNatBE field))
  /-- A chunk is too long for a message together with those before it. -/
  | together {path : String} {compression : Option Compression} {opening row data field : Bytes}
      (opens : Opening path compression true opening) (chunks : ChunkRow limits row data)
      (fits : data.length ≤ limits.messageSize) (four : field.length = 4)
      (present : 1 ≤ Bytes.toNatBE field) (framed : Bytes.toNatBE field ≤ limits.frameSize)
      (excess : limits.messageSize < data.length + Bytes.toNatBE field) :
      Overlong limits (opening ++ (row ++ field))
        (.limitExceeded .messageSize limits.messageSize (data.length + Bytes.toNatBE field))

/-- A length over its ceiling is refused once it is there, whatever follows it. -/
theorem Overlong.refused {front : Bytes} {failure : Failure}
    (overlong : Overlong limits front failure) (rest : Bytes) :
    (cutFrame limits (front ++ rest)).run = .error failure := by
  cases overlong with
  | @whole _ _ _ field opens four excess =>
    have refused : limits.checkMessage (Bytes.toNatBE field) = .error _ := if_pos excess
    rw [List.append_assoc, cutFrame_opening opens, if_neg Bool.false_ne_true, cut_bind four]
    simp only [refused]
    rfl
  | chunk opens chunks fits four excess =>
    obtain ⟨more, _, further⟩ := cutChunks_row chunks .empty (by simpa using fits)
    rw [List.append_assoc, cutFrame_opening opens, if_pos rfl, List.append_assoc, further,
      cutChunks_of_field (Bytes.splitExact?_append_of_length four rest), if_neg (by omega),
      Limits.checkFrame, if_pos excess]
    rfl
  | together opens chunks fits four present framed excess =>
    obtain ⟨more, gathered, further⟩ := cutChunks_row chunks .empty (by simpa using fits)
    rw [Gathered.size_empty, Nat.zero_add] at gathered
    rw [List.append_assoc, cutFrame_opening opens, if_pos rfl, List.append_assoc, further,
      cutChunks_of_field (Bytes.splitExact?_append_of_length four rest), if_neg (by omega),
      checkFrame_of_le framed, gathered, Limits.checkMessage, if_pos excess]
    rfl

end Packet

/-- What is left when no bytes were refused waits for the rest of a frame. -/
theorem FrameBuffer.decode_of_drain {limits : Limits} {buffer : FrameBuffer}
    (accepted : (drain limits buffer).refusal = none) :
    ∃ after, decode limits (drain limits buffer).buffer = .ok none after := by
  -- The packets in front do not matter to what is left behind them.
  fun_induction drain limits buffer with
  | case1 buffer packet left decoded ih => exact ih accepted
  | case2 buffer left decoded =>
    have unchanged := eq_of_decode_none decoded
    subst unchanged
    exact ⟨left, decoded⟩
  | case3 buffer failure left decoded => cases accepted

namespace Packet

/-- A buffer that is parsed to nothing is confined. -/
theorem confined_of_parse {limits : Limits} {buffer : Bytes}
    (waiting : parse buffer limits = .ok none) : Confined limits buffer :=
  confined_of_cutFrame (parse_eq_none_iff.mp waiting)

/--
What waits for the rest of a frame is confined, whatever arrives and however it is cut.

A buffer that is longer holds a frame or is refused. A length over its ceiling is not even waited
for: it is refused once its octets are there, whatever follows them.
-/
theorem waiting_confined (limits : Limits) (buffer : Bytes) :
    (parse buffer limits = .ok none → Confined limits buffer) ∧
      (∀ after, FrameBuffer.decode limits ⟨buffer⟩ = .ok none after → Confined limits buffer) ∧
      (∀ pieces, (Intake.run limits pieces).refusal = none →
        Confined limits (Intake.run limits pieces).buffer.bytes) ∧
      (¬ Confined limits buffer →
        (∃ packet consumed, parse buffer limits = .ok (some (packet, consumed))) ∨
          ∃ failure, parse buffer limits = .error failure) ∧
      ∀ front failure, Overlong limits front failure → front <+: buffer →
        parse buffer limits = .error failure := by
  refine ⟨confined_of_parse, ?decoded, ?run, ?longer, ?refused⟩
  case decoded =>
    intro after decoded
    exact confined_of_parse (parse_eq_none_iff_decode.mpr ⟨after, decoded⟩)
  case run =>
    intro pieces accepted
    rw [Intake.run_eq_drain] at accepted ⊢
    exact confined_of_parse
      (parse_eq_none_iff_decode.mpr (FrameBuffer.decode_of_drain accepted))
  case longer =>
    intro long
    rcases parsed : parse buffer limits with failure | _ | ⟨packet, consumed⟩
    · exact .inr ⟨failure, rfl⟩
    · exact (long (confined_of_parse parsed)).elim
    · exact .inl ⟨packet, consumed, rfl⟩
  case refused =>
    rintro front failure overlong ⟨rest, rfl⟩
    exact parse_eq_error_iff.mpr (overlong.refused rest)

/-- A chunk is there, and as soon as the next length is, both are too long for a message. -/
theorem waiting_confined_together :
    let limits : Limits := { messageSize := 2, frameSize := 2 }
    let waiting : Bytes := [0x57, 0x43, 0x41, 0x4C, 1, 0b100, 0, 0, 0, 0, 0, 1, 7, 0, 0, 0]
    let front : Bytes := waiting ++ [2]
    let failure : Failure := .limitExceeded .messageSize 2 3
    parse waiting limits = .ok none ∧ Confined limits waiting ∧
      (Intake.run limits [waiting]).refusal = none ∧
      Confined limits (Intake.run limits [waiting]).buffer.bytes ∧
      Overlong limits front failure ∧ front <+: front ++ [8, 9] ∧
      parse (front ++ [8, 9]) limits = .error failure ∧
      ¬ Confined limits (List.replicate 70000 0) ∧
      ((∃ packet consumed,
          parse (List.replicate 70000 0) limits = .ok (some (packet, consumed))) ∨
        ∃ cause, parse (List.replicate 70000 0) limits = .error cause) := by
  intro limits waiting front failure
  have empty : Bytes.ofString "" = [] := by decide +kernel
  have counted : 256 * (0 : UInt8).toNat + (0 : UInt8).toNat = (Bytes.ofString "").length := by
    rw [empty]
    rfl
  have opens : Opening "" none true [0x57, 0x43, 0x41, 0x4C, 1, 0b100, 0, 0] := by
    have opening := @Opening.spelled "" none true 0b100 0 0 rfl rfl rfl counted
    rwa [empty] at opening
  have chunks : ChunkRow limits ([0, 0, 0, 1] ++ [7] ++ []) ([7] ++ []) :=
    .cons rfl rfl (by decide) (by decide) .nil
  have overlong : Overlong limits front failure :=
    @Overlong.together _ _ _ _ _ _ [0, 0, 0, 2] opens chunks (by decide) rfl (by decide) (by decide)
      (by decide)
  have long : ¬ Confined limits (List.replicate 70000 0) := by
    intro confined
    have short := confined.always
    rw [List.length_replicate] at short
    exact absurd short (by decide)
  have parsed : parse waiting limits = .ok none := by decide +kernel
  have accepted : (Intake.run limits [waiting]).refusal = none := by decide +kernel
  obtain ⟨confined, _, running, _, _⟩ := waiting_confined limits waiting
  obtain ⟨_, _, _, _, refused⟩ := waiting_confined limits (front ++ [8, 9])
  obtain ⟨_, _, _, longer, _⟩ := waiting_confined limits (List.replicate 70000 0)
  exact ⟨parsed, confined parsed, accepted, running _ accepted, overlong,
    List.prefix_append .., refused _ _ overlong (List.prefix_append ..), long, longer long⟩

end Packet

end RemoteCall
