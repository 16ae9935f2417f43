import RemoteCall.Proofs.Frame.Grammar
import RemoteCall.Proofs.Frame.Header

/-! Only frames are cut off a buffer, and no frame is the beginning of another one. -/

namespace RemoteCall

namespace Packet

variable {α β : Type} {limits : Limits} {buffer rest : Bytes}

/-- A piece that was cut off is the front of the buffer. -/
theorem cut_eq_some_iff {length : Nat} {front : Bytes} :
    (cut length buffer).run = .ok (some (front, rest)) ↔
      front.length = length ∧ buffer = front ++ rest := by
  constructor
  · intro found
    obtain ⟨whole, joined⟩ := splitExact?_eq_some (Except.ok.inj found)
    exact ⟨whole, joined.symm⟩
  · rintro ⟨whole, rfl⟩
    exact congrArg Except.ok (Bytes.splitExact?_append_of_length whole rest)

/-- A check that was passed came to an answer. -/
theorem lift_eq_some_iff {check : Except Failure α} {answer : α} :
    (OptionT.lift check : Cutting α).run = .ok (some answer) ↔ check = .ok answer := by
  cases check with
  | ok found =>
    change Except.ok (some found) = _ ↔ _
    simp
  | error failure =>
    change Except.error failure = _ ↔ _
    simp

/-- A ceiling of bodies is passed exactly by those that are not longer. -/
theorem checkMessage_eq_ok_iff {length : Nat} :
    limits.checkMessage length = .ok () ↔ length ≤ limits.messageSize := by
  unfold Limits.checkMessage
  split <;> simp_all

/-- A ceiling of chunks is passed exactly by those that are not longer. -/
theorem checkFrame_eq_ok_iff {length : Nat} :
    limits.checkFrame length = .ok () ↔ length ≤ limits.frameSize := by
  unfold Limits.checkFrame
  split <;> simp_all

/-- The octets of a path are those of the string that it is read as. -/
theorem pathOfBytes_eq_ok_iff {octets : Bytes} {path : String} :
    pathOfBytes octets = .ok path ↔ octets = Bytes.ofString path := by
  rw [← Bytes.toString?_eq_ok_iff]
  unfold pathOfBytes
  split <;> simp_all

/-- A length field and as many bytes behind it are a chunk. -/
theorem chunkBytes_of_field {field piece : Bytes} (whole : field.length = 4)
    (counted : piece.length = Bytes.toNatBE field) :
    piece.length < 256 ^ 4 ∧ FrameBody.chunkBytes piece = field ++ piece := by
  obtain ⟨small, rfl⟩ := Bytes.eq_ofNatBE_iff.mp ⟨whole, counted.symm⟩
  exact ⟨small, rfl⟩

/-- Chunks that were joined stand in the buffer as they are spelled. -/
theorem cutChunks_eq_some {joined : Gathered} {body : Bytes}
    (room : joined.size ≤ limits.messageSize)
    (found : cutChunks limits joined buffer = .ok (some (body, rest))) :
    ∃ pieces : List Bytes, body = joined.toBytes ++ pieces.flatten ∧
      buffer = (FrameBody.chunks pieces).toBytes ++ rest ∧
      (∀ piece ∈ pieces, piece ≠ [] ∧ piece.length ≤ limits.frameSize ∧ piece.length < 256 ^ 4) ∧
        joined.size + pieces.flatten.length ≤ limits.messageSize := by
  -- The induction follows the chunks that were cut off.
  fun_induction cutChunks limits joined buffer with
  | case1 | case3 | case4 | case5 => cases found
  -- A length of nothing ends the body, and is the whole of the empty chunk.
  | case2 joined buffer field after split length last =>
    cases found
    obtain ⟨whole, rfl⟩ := splitExact?_eq_some split
    have nothing : ([] : Bytes).length = Bytes.toNatBE field := last.symm
    obtain ⟨_, ended⟩ := chunkBytes_of_field whole nothing
    refine ⟨[], by simp, ?_, by simp, by simpa using room⟩
    simp [FrameBody.toBytes, ended]
  -- A chunk of some length is cut off in front of the others.
  | case6 joined buffer field after split length positive fits framed piece between further ih =>
    obtain ⟨whole, rfl⟩ := splitExact?_eq_some split
    obtain ⟨wholePiece, rfl⟩ := splitExact?_eq_some further
    obtain ⟨small, spelled⟩ := chunkBytes_of_field whole wholePiece
    have total := checkMessage_eq_ok_iff.mp fits
    have ceiling := checkFrame_eq_ok_iff.mp framed
    -- What is joined with the chunk still respects the ceiling of the whole body.
    have roomLeft : (joined.push piece).size ≤ limits.messageSize := by
      simp only [Gathered.push]
      omega
    obtain ⟨pieces, rfl, rfl, bounded, together⟩ := ih roomLeft found
    simp only [Gathered.push] at together
    refine ⟨piece :: pieces, by simp, ?_, ?_, ?_⟩
    · simp [FrameBody.toBytes, spelled]
    · intro other member
      rcases List.mem_cons.mp member with rfl | member
      · exact ⟨List.length_pos_iff.mp (by omega), by omega, small⟩
      · exact bounded other member
    · simp only [List.flatten_cons, List.length_append]
      omega

/-- A frame is cut off exactly when the buffer opens with its bytes and the ceilings admit it. -/
theorem cutFrame_eq_some_iff {packet : Packet} :
    (cutFrame limits buffer).run = .ok (some (packet, rest)) ↔
      ∃ frame : Frame, frame.Within limits ∧ frame.packet = packet ∧
        buffer = frame.toBytes ++ rest := by
  constructor
  · intro found
    rw [cutFrame_eq] at found
    -- The steps of the cut are taken apart in their order.
    obtain ⟨⟨fixed, afterFixed⟩, cutFixed, ran⟩ := cutting_bind_eq_some_iff.mp found
    obtain ⟨header, told, ranPath⟩ := cutting_bind_eq_some_iff.mp ran
    obtain ⟨⟨octets, afterPath⟩, cutPath, ranText⟩ := cutting_bind_eq_some_iff.mp ranPath
    obtain ⟨path, spelled, ranBody⟩ := cutting_bind_eq_some_iff.mp ranText
    clear found ran ranPath ranText
    obtain ⟨_, rfl⟩ := cut_eq_some_iff.mp cutFixed
    obtain ⟨wholePath, rfl⟩ := cut_eq_some_iff.mp cutPath
    obtain ⟨short, rfl⟩ := Header.eq_of_ofBytes (lift_eq_some_iff.mp told)
    have same := pathOfBytes_eq_ok_iff.mp (lift_eq_some_iff.mp spelled)
    subst same
    -- The header and the path are those of a frame; what is left is the form of its body.
    have opened (body : FrameBody) (form : body.isChunked = header.chunked) :
        ({ path, compression := header.compression, body } : Frame).fixedBytes =
          frameMagic ++ [wireVersion, Header.flags header.compression header.chunked]
            ++ Bytes.ofNatBE 2 header.pathLength := by
      rw [← wholePath, ← form]
      rfl
    cases chunked : header.chunked with
    | true =>
      simp only [chunked, if_true] at ranBody
      obtain ⟨⟨body, left⟩, cutBody, ranRest⟩ := cutting_bind_eq_some_iff.mp ranBody
      cases ranRest
      obtain ⟨pieces, rfl, rfl, bounded, together⟩ :=
        cutChunks_eq_some (Nat.zero_le _) cutBody
      refine ⟨{ path, compression := header.compression, body := .chunks pieces },
        ⟨wholePath ▸ short, bounded, by simpa using together⟩,
        by simp [Frame.packet, FrameBody.data], ?_⟩
      rw [Frame.toBytes, opened (.chunks pieces) (by simp [chunked, FrameBody.isChunked])]
      simp [chunked]
    | false =>
      simp only [chunked, Bool.false_eq_true, if_false] at ranBody
      obtain ⟨⟨field, afterField⟩, cutField, ranCheck⟩ := cutting_bind_eq_some_iff.mp ranBody
      obtain ⟨_, fits, ranData⟩ := cutting_bind_eq_some_iff.mp ranCheck
      obtain ⟨⟨body, left⟩, cutBody, ranRest⟩ := cutting_bind_eq_some_iff.mp ranData
      cases ranRest
      obtain ⟨wholeField, rfl⟩ := cut_eq_some_iff.mp cutField
      obtain ⟨wholeBody, rfl⟩ := cut_eq_some_iff.mp cutBody
      obtain ⟨small, spelledBody⟩ := chunkBytes_of_field wholeField wholeBody
      have ceiling := checkMessage_eq_ok_iff.mp (lift_eq_some_iff.mp fits)
      refine ⟨{ path, compression := header.compression, body := .whole body },
        ⟨wholePath ▸ short, wholeBody ▸ ceiling, small⟩, rfl, ?_⟩
      rw [Frame.toBytes, opened (.whole body) (by simp [chunked, FrameBody.isChunked])]
      simp [chunked, FrameBody.toBytes, spelledBody]
  · rintro ⟨frame, within, rfl, rfl⟩
    exact cutFrame_toBytes within rest

end Packet

/-- A body that some ceilings admit is admitted by all that are no lower. -/
theorem FrameBody.Within.mono {body : FrameBody} {limits others : Limits}
    (within : body.Within limits) (messages : limits.messageSize ≤ others.messageSize)
    (frames : limits.frameSize ≤ others.frameSize) : body.Within others := by
  cases body with
  | whole data => exact ⟨Nat.le_trans within.1 messages, within.2⟩
  | chunks pieces =>
    refine ⟨fun piece member => ?_, Nat.le_trans within.2 messages⟩
    -- A chunk is held to both ceilings, but is counted in four octets all the same.
    obtain ⟨present, framed, counted⟩ := within.1 piece member
    exact ⟨present, Nat.le_trans framed frames, counted⟩

namespace Frame

/-- The bytes of two frames are told apart wherever they stand: they carry one packet. -/
theorem packet_eq_of_toBytes_append {first second : Frame} {limits others : Limits}
    (within : first.Within limits) (withinOther : second.Within others) {rest more : Bytes}
    (same : first.toBytes ++ rest = second.toBytes ++ more) :
    first.packet = second.packet ∧ rest = more := by
  -- Ceilings that admit both frames cut either of them off, and the cut has one outcome.
  let both : Limits :=
    { messageSize := max limits.messageSize others.messageSize
      frameSize := max limits.frameSize others.frameSize }
  have admitted : first.Within both :=
    ⟨within.path, within.body.mono (Nat.le_max_left ..) (Nat.le_max_left ..)⟩
  have admittedOther : second.Within both :=
    ⟨withinOther.path, withinOther.body.mono (Nat.le_max_right ..) (Nat.le_max_right ..)⟩
  have cut := Packet.cutFrame_toBytes admitted rest
  have cutOther := Packet.cutFrame_toBytes admittedOther more
  rw [same, cutOther] at cut
  obtain ⟨packet, left⟩ := Prod.mk.inj (Option.some.inj (Except.ok.inj cut))
  exact ⟨packet.symm, left.symm⟩

/-- The bytes of two frames that stand at one place end at one place. -/
theorem eq_of_toBytes_append {first second : Frame} {limits others : Limits}
    (within : first.Within limits) (withinOther : second.Within others) {rest more : Bytes}
    (same : first.toBytes ++ rest = second.toBytes ++ more) : rest = more :=
  (packet_eq_of_toBytes_append within withinOther same).2

/-- The bytes are the beginning of a frame, some of which is still missing. -/
def Unfinished (bytes : Bytes) : Prop :=
  -- The frame may be any that some ceilings admit.
  ∃ (frame : Frame) (limits : Limits) (missing : Bytes),
    frame.Within limits ∧ missing ≠ [] ∧ bytes ++ missing = frame.toBytes

/-- With nothing yet, all of a frame is missing. -/
theorem Unfinished.nil : Unfinished [] :=
  ⟨{ path := "", compression := none, body := .whole [] }, {}, _,
    ⟨by decide, Nat.zero_le _, by decide⟩, by decide, rfl⟩

/-- No packet is parsed from the beginning of a frame, whatever the ceilings. -/
theorem Unfinished.parse_ne_some {bytes : Bytes} (unfinished : Unfinished bytes) (limits : Limits)
    (packet : Packet) (consumed : Nat) :
    Packet.parse bytes limits ≠ .ok (some (packet, consumed)) := by
  intro parsed
  obtain ⟨frame, ceilings, missing, within, more, whole⟩ := unfinished
  -- Whatever is parsed is a frame, and would be the beginning of the unfinished one.
  obtain ⟨rest, found, _⟩ := Packet.parse_eq_some_iff.mp parsed
  obtain ⟨early, withinEarly, _, rfl⟩ := Packet.cutFrame_eq_some_iff.mp found
  have same : early.toBytes ++ (rest ++ missing) = frame.toBytes ++ [] := by
    rw [← List.append_assoc, whole, List.append_nil]
  -- Then nothing would be missing.
  have nothing := eq_of_toBytes_append withinEarly within same
  exact more (List.append_eq_nil_iff.mp nothing).2

end Frame

end RemoteCall
