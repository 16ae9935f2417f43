import RemoteCall.Proofs.Codec.Narrowing
import RemoteCall.Proofs.Codec.RoundTrip

/-! A message that is cut short is told from a whole one, wherever it is cut. -/

namespace RemoteCall

namespace Decoder

variable {α β : Type}

/-- One decoder has less before it than another: these bytes are missing at the end. -/
structure Lacks (missing : Bytes) (whole short : Decoder) : Prop where
  sameLimits : short.limits = whole.limits
  sameSize : short.messageSize = whole.messageSize
  sameRead : short.read = whole.read
  front : whole.source.rest = short.source.rest ++ missing
  -- The source with less in it comes to its end, and does not break before that or there.
  ends : short.source.Reaches (short.source.rest.length + 1)

/--
A step that succeeds on a decoder notices where another one has less before it.

Unless what is there is enough for the same answer, it fails because the message ends.
-/
def Notices (step : DecodeM α) : Prop :=
  ∀ (whole short : Decoder) {missing : Bytes} {answer : α} {after : Decoder},
    Lacks missing whole short → step whole = .ok answer after →
      (∃ shortAfter, step short = .ok answer shortAfter ∧ Lacks missing after shortAfter) ∨
        ∃ shortAfter, step short = .error (.malformed .unexpectedEnd) shortAfter

namespace Notices

/-- An answer at hand needs no bytes. -/
theorem pure (answer : α) : Notices (Pure.pure answer) := by
  intro whole short _ _ _ lacks ran
  cases ran
  exact .inl ⟨short, rfl, lacks⟩

/-- A failure at hand does not succeed with whatever bytes. -/
theorem throw (failure : Failure) : Notices (MonadExcept.throw failure : DecodeM α) :=
  fun _ _ _ _ _ _ ran => nomatch ran

/-- Steps in sequence notice what is missing if each of them does. -/
theorem bind {first : DecodeM α} {next : α → DecodeM β} (notices : Notices first)
    (noticesNext : ∀ answer, Notices (next answer)) : Notices (first >>= next) := by
  intro whole short missing _ _ lacks ran
  obtain ⟨answer, between, ranFirst, ranNext⟩ := run_bind_eq_ok_iff.mp ran
  rw [run_bind]
  -- The bytes end within the first step, or it leaves both decoders at one place.
  rcases notices whole short lacks ranFirst with ⟨shortBetween, same, lacks⟩ | ⟨shortAfter, ended⟩
  · rw [same]
    exact noticesNext answer between shortBetween lacks ranNext
  · rw [ended]
    exact .inr ⟨shortAfter, rfl⟩

/-- Making something of an answer needs no more bytes. -/
theorem map {step : DecodeM α} (notices : Notices step) (make : α → β) :
    Notices (do return make (← step)) :=
  notices.bind fun answer => pure (make answer)

/-- Asking for the ceilings needs no bytes, and both decoders have the same. -/
theorem asking {next : Limits → DecodeM α} (notices : ∀ limits, Notices (next limits)) :
    Notices (get >>= fun decoder => next decoder.limits) := by
  intro whole short _ _ _ lacks ran
  rw [run_bind, run_get] at ran ⊢
  dsimp only at ran ⊢
  rw [lacks.sameLimits]
  exact notices whole.limits whole short lacks ran

end Notices

/-- Bytes are taken as long as they are there. -/
theorem notices_take (count : Nat) : Notices (take count) := by
  intro whole short missing bytes _ lacks taken
  obtain ⟨length, fits, _, front, rfl⟩ := take_eq_ok_iff.mp taken
  have fitsShort : addCount short.messageSize count ≤ short.limits.messageSize := by
    rw [lacks.sameSize, lacks.sameLimits]
    exact fits
  by_cases enough : count ≤ short.source.rest.length
  -- The bytes that are missing come after those that are taken.
  · have reaches : short.source.Reaches (count + (short.source.rest.length + 1 - count)) := by
      rw [Nat.add_sub_cancel' (by omega)]
      exact lacks.ends
    have ahead : (short.skip count).source.rest.length + 1 =
        short.source.rest.length + 1 - count := by
      simp only [skip, Source.skip, List.length_drop]
      omega
    have opens : bytes = short.source.rest.take count := by
      have same := congrArg (List.take count) (lacks.front.symm.trans front)
      rw [List.take_append_of_le_length enough, List.take_left' length] at same
      exact same.symm
    refine .inl ⟨short.skip count, take_eq_ok_iff.mpr
      ⟨length, fitsShort, (Source.reaches_add.mp reaches).1, ?_, rfl⟩, ?_⟩
    · rw [opens]
      exact (List.take_append_drop ..).symm
    · refine ⟨lacks.sameLimits, ?_, ?_, ?_, ?_⟩
      · simp only [skip, lacks.sameSize]
      · simp only [skip, lacks.sameRead]
      · simp only [skip, Source.skip, lacks.front, List.drop_append_of_le_length enough]
      · rw [ahead]
        exact (Source.reaches_add.mp reaches).2
  -- The ceiling lets them be taken, and then the source ends.
  · obtain ⟨source, ended⟩ := Source.take_of_short lacks.ends (Nat.not_le.mp enough)
    refine .inr ?_
    simp only [take, if_neg (Nat.not_lt.mpr fitsShort), ended]
    exact ⟨_, rfl⟩

/-- Numbers are taken as long as their octets are there. -/
theorem notices_takeNat (width : Nat) : Notices (takeNat width) :=
  (notices_take width).map Bytes.toNatBE

/-- A length is checked once its octets are there. -/
theorem notices_takeLength : Notices takeLength := by
  refine (notices_takeNat 4).bind fun length whole short _ _ _ lacks ran => ?_
  simp only [run_bind, run_get] at ran ⊢
  rw [lacks.sameLimits]
  by_cases exceeded : whole.limits.frameSize < length
  · rw [if_pos exceeded] at ran
    cases ran
  · rw [if_neg exceeded] at ran ⊢
    cases ran
    exact .inl ⟨short, rfl, lacks⟩

/-- Octets are looked at once they are all there. -/
theorem notices_takeText (length : Nat) : Notices (takeText length) := by
  refine (notices_take length).bind fun bytes => ?_
  cases Bytes.toString? bytes with
  | ok text => exact .pure text
  | error fault => exact .throw _

/-- A string is its length and then so many octets. -/
theorem notices_takeString : Notices takeString := notices_takeLength.bind notices_takeText

/-- A tag is known or not as soon as its octet is there. -/
theorem notices_takeTag : Notices takeTag := by
  refine (notices_takeNat 1).bind fun number => ?_
  cases known : Tag.ofByte? (UInt8.ofNat number) with
  | some tag =>
    simp only [known]
    exact .pure tag
  | none =>
    simp only [known]
    exact fun _ _ _ _ _ _ ran => nomatch ran

/-- What is missing is noticed by the first of some steps that needs it. -/
theorem notices_repeated {step : DecodeM α} (notices : Notices step) (count : Nat)
    (done : List α) : Notices (repeated step count done) := by
  -- The answers so far are the same, and grow with each step.
  induction count generalizing done with
  | zero => exact .pure done.reverse
  | succ count ih => exact notices.bind fun answer => ih (answer :: done)

/-- A container is entered without any bytes, where one may open. -/
theorem notices_enter {inner : Option (DecodeM Value)} {read : DecodeM Value → DecodeM α}
    (notices : ∀ step, inner = some step → Notices (read step)) : Notices (enter inner read) := by
  cases inner with
  | none => exact fun _ _ _ _ _ _ ran => nomatch ran
  | some step => exact notices step rfl

/-- Items are their count and then one after the other. -/
theorem notices_takeItems {inner : DecodeM Value} (notices : Notices inner) :
    Notices (takeItems inner) :=
  notices_takeLength.bind fun count => notices_repeated notices count []

/-- Entries are their count and then one after the other, each key before its value. -/
theorem notices_takeEntries {inner : DecodeM Value} (notices : Notices inner) :
    Notices (takeEntries inner) := by
  have entry := notices_takeString.bind fun key => notices.map fun value => (key, value)
  exact notices_takeLength.bind fun count => notices_repeated entry count []

/-- What follows a tag is noticed to be missing. -/
theorem notices_takeContent {inner : Option (DecodeM Value)}
    (notices : ∀ step, inner = some step → Notices step) (tag : Tag) :
    Notices (takeContent inner tag) := by
  -- One shape after the other: each is a sequence of steps that were looked at before.
  cases tag with
  | null => exact .pure _
  | false => exact .pure _
  | true => exact .pure _
  | int => exact (notices_takeNat 8).map fun number => Value.int (Int64.ofNat number)
  | word => exact (notices_takeNat 8).map fun number => Value.word (UInt64.ofNat number)
  | float => exact (notices_takeNat 8).map fun number => Value.float ⟨UInt64.ofNat number⟩
  | string => exact notices_takeString.map Value.string
  | bytes => exact notices_takeLength.bind fun count => (notices_take count).map Value.bytes
  | list =>
    exact notices_enter fun step found => (notices_takeItems (notices step found)).map Value.list
  | array =>
    exact notices_enter fun step found => notices_takeString.bind fun elementType =>
      (notices_takeItems (notices step found)).map (Value.array elementType)
  | map =>
    exact notices_enter fun step found => (notices_takeEntries (notices step found)).map Value.map
  | object =>
    exact notices_enter fun step found => notices_takeString.bind fun typeName =>
      (notices_takeEntries (notices step found)).map (Value.object typeName)

/-- A tag and what follows it are noticed to be missing. -/
theorem notices_takeValueWith {inner : Option (DecodeM Value)}
    (notices : ∀ step, inner = some step → Notices step) : Notices (takeValueWith inner) :=
  notices_takeTag.bind (notices_takeContent notices)

/-- A value is noticed to be cut short, however deep in it the bytes end. -/
theorem notices_takeValue (room : Nat) : Notices (takeValue room) := by
  -- Each container that opens takes one off the room.
  induction room with
  | zero => exact notices_takeValueWith fun _ found => nomatch found
  | succ room ih =>
    refine notices_takeValueWith fun step found => ?_
    cases found
    exact ih

/-- A message is noticed to be cut short. -/
theorem notices_takeMessage : Notices takeMessage := by
  have anew : Notices (modify fun decoder => { decoder with messageSize := 0 }) := by
    intro whole short missing _ _ lacks ran
    cases ran
    exact .inl ⟨_, rfl, lacks.sameLimits, rfl, lacks.sameRead, lacks.front, lacks.ends⟩
  refine anew.bind fun _ => (notices_takeNat 1).bind fun number => ?_
  by_cases current : UInt8.ofNat number = wireVersion
  · simp only [current, ne_eq, not_true_eq_false, if_false]
    exact .asking fun limits => notices_takeValue limits.depth
  · simp only [current, ne_eq, not_false_eq_true, if_true]
    exact .throw _

/-- A message of which something is missing at the end is refused for that, and is none. -/
theorem takeMessage_of_short {value : Value} {limits : Limits} {bytes missing : Bytes}
    {short : Decoder} (encoded : encode value limits = .ok bytes) (some : missing ≠ [])
    (front : bytes = short.source.rest ++ missing) (sameLimits : short.limits = limits)
    (counted : short.read ≤ wordMax)
    (ends : short.source.Reaches (short.source.rest.length + 1)) :
    ∃ after, takeMessage short = .error (.malformed .unexpectedEnd) after := by
  -- With nothing missing, the same decoder would take the message.
  let whole : Decoder := { short with source := { rest := bytes } }
  have lacks : Lacks missing whole short := ⟨rfl, rfl, rfl, front, ends⟩
  obtain ⟨admitted, image⟩ := encode_eq_ok_iff.mp encoded
  have countedWhole : whole.read ≤ wordMax := counted
  have taken : takeMessage whole = .ok value (whole.anew.skip bytes.length) := by
    refine (takeMessage_eq_ok_iff countedWhole).mpr ⟨?_, Or.inr (by simp [whole, anew]), ?_, ?_⟩
    · exact sameLimits ▸ admitted
    · rw [← Value.image_eq, ← image]
      simp [whole, anew, skip, Source.skip]
    · rw [← Value.image_eq, ← image]
  rcases notices_takeMessage whole short lacks taken with ⟨after, _, lacksAfter⟩ | refused
  -- The whole message is used up, so nothing can be missing behind it.
  · have nothing : [] = after.source.rest ++ missing := by
      have left := lacksAfter.front
      simpa [whole, anew, skip, Source.skip] using left
    exact absurd (List.append_eq_nil_iff.mp nothing.symm).2 some
  · exact refused

end Decoder

/-- The beginning of a message is not decoded, and the failure says that the message ends. -/
theorem decode_of_short {value : Value} {limits : Limits} {bytes : Bytes}
    (encoded : encode value limits = .ok bytes) (small : bytes.length < 2 ^ 64) {count : Nat}
    (shorter : count < bytes.length) :
    decode (bytes.take count) limits = .error (.malformed .unexpectedEnd) := by
  -- The beginning of a message respects the ceiling that the message respects.
  have bounded := length_le_of_encode_of_counted encoded (Nat.le_pred_of_lt small)
  have fits : ¬ limits.messageSize < (bytes.take count).length := by
    rw [List.length_take]
    omega
  have missing : bytes.drop count ≠ [] := by
    rw [ne_eq, List.drop_eq_nil_iff]
    omega
  let short : Decoder := { source := { rest := bytes.take count }, limits }
  have refused : ∃ after, Decoder.takeMessage short = .error (.malformed .unexpectedEnd) after :=
    Decoder.takeMessage_of_short encoded missing (List.take_append_drop ..).symm rfl
      (Nat.zero_le _) (.inr (by simp [short]))
  obtain ⟨after, refused⟩ := refused
  simp only [short] at refused
  simp only [decode, if_neg fits, refused]

/--
A message that is cut short is always told from a whole one, and always in the same words.

It does not matter where it is cut, nor whether its bytes are at hand or come from a source. So no
message is the beginning of another one, whatever the ceilings under which they are messages.
-/
theorem truncated_refused {value : Value} {limits : Limits} {bytes : Bytes}
    (encoded : encode value limits = .ok bytes) (small : bytes.length < 2 ^ 64) :
    Failure.kind (.malformed .unexpectedEnd) = "Serialization" ∧
      Malformation.unexpectedEnd.message = "Unexpected end of message" ∧
      (∀ count < bytes.length,
        decode (bytes.take count) limits = .error (.malformed .unexpectedEnd) ∧
          ∀ decoder : Decoder, decoder.limits = limits → decoder.read ≤ wordMax →
            decoder.source.rest = bytes.take count → decoder.source.Reaches (count + 1) →
              ∃ after, Decoder.takeMessage decoder = .error (.malformed .unexpectedEnd) after) ∧
      (∀ count < bytes.length, ∀ ceilings other,
        decode (bytes.take count) ceilings ≠ .ok other) ∧
      ∀ other ceilings front, encode other ceilings = .ok front → front <+: bytes →
        front = bytes := by
  have strict : ∀ count < bytes.length, ∀ ceilings other,
      decode (bytes.take count) ceilings ≠ .ok other := by
    intro count shorter ceilings other decoded
    -- Higher ceilings admit both the message and its beginning.
    let both : Limits :=
      { messageSize := max limits.messageSize ceilings.messageSize
        frameSize := max limits.frameSize ceilings.frameSize
        depth := max limits.depth ceilings.depth }
    have below : limits.Below both :=
      ⟨Nat.le_max_left .., Nat.le_max_left .., Nat.le_max_left ..⟩
    have belowToo : ceilings.Below both :=
      ⟨Nat.le_max_right .., Nat.le_max_right .., Nat.le_max_right ..⟩
    have whole := (encode_narrows below value).eq_ok encoded
    have part := (decode_narrows belowToo _).eq_ok decoded
    rw [decode_of_short whole small shorter] at part
    cases part
  refine ⟨rfl, rfl, fun count shorter => ⟨decode_of_short encoded small shorter, ?_⟩, strict, ?_⟩
  · intro decoder sameLimits counted rest ends
    have missing : bytes.drop count ≠ [] := by
      rw [ne_eq, List.drop_eq_nil_iff]
      omega
    have length : decoder.source.rest.length = count := by
      rw [rest, List.length_take]
      omega
    exact Decoder.takeMessage_of_short encoded missing
      (by rw [rest, List.take_append_drop]) sameLimits counted (length.symm ▸ ends)
  · intro other ceilings front encodedFront opens
    by_contra different
    -- The front would be what is left of the message when it is cut there.
    have shorter : front.length < bytes.length := by
      refine Nat.lt_of_le_of_ne opens.length_le fun same => different ?_
      exact opens.eq_of_length same
    have cut : bytes.take front.length = front := (List.prefix_iff_eq_take.mp opens).symm
    have decoded := decode_eq_ok_iff.mpr
      ⟨encodedFront, Nat.le_pred_of_lt (Nat.lt_trans shorter small)⟩
    rw [← cut] at decoded
    exact strict front.length shorter ceilings other decoded

/-- A list of a text and a number is refused wherever it is cut, also within the text. -/
theorem truncated_refused_list :
    let value : Value := .list [.string "é", .int 7]
    let limits : Limits := { messageSize := 22, frameSize := 2, depth := 1 }
    let bytes : Bytes :=
      [1, 8, 0, 0, 0, 2, 6, 0, 0, 0, 2, 195, 169, 3, 0, 0, 0, 0, 0, 0, 0, 7]
    encode value limits = .ok bytes ∧ bytes.length < 2 ^ 64 ∧
      decode [1, 8, 0, 0, 0, 2, 6, 0, 0, 0, 2, 195] limits = .error (.malformed .unexpectedEnd) ∧
      ∃ after, Decoder.takeMessage
          { source := { rest := [1, 8, 0, 0], grain := fun _ => some 3 }, limits } =
        .error (.malformed .unexpectedEnd) after := by
  intro value limits bytes
  have encoded : encode value limits = .ok bytes := by decide +kernel
  have small : bytes.length < 2 ^ 64 := by decide
  obtain ⟨_, _, refused, _⟩ := truncated_refused encoded small
  exact ⟨encoded, small, (refused 12 (by decide)).1,
    (refused 4 (by decide)).2 _ rfl (Nat.zero_le _) rfl (.inr (by simp))⟩

end RemoteCall
