import RemoteCall.Codec.Decoder
import RemoteCall.Proofs.Bytes
import RemoteCall.Proofs.Codec.Admission
import RemoteCall.Proofs.Steps
import RemoteCall.Proofs.Stream.Source

/-! A decoder accepts exactly the parts that an encoder writes, whatever follows them. -/

namespace RemoteCall

namespace Decoder

/-- The counts of a decoder are words, and the present message respects its ceiling so far. -/
structure Steady (decoder : Decoder) : Prop where
  -- Counts stop at the greatest word, so they must not start above it.
  small : decoder.messageSize ≤ wordMax
  fits : decoder.messageSize ≤ decoder.limits.messageSize
  counted : decoder.read ≤ wordMax

/-- The decoder after so many more bytes of the present message. -/
def skip (count : Nat) (decoder : Decoder) : Decoder :=
  -- The source moves, and both counts with it.
  { decoder with
    source := decoder.source.skip count
    messageSize := addCount decoder.messageSize count
    read := addCount decoder.read count }

/-- Skipping twice is skipping both counts at once. -/
theorem skip_skip (decoder : Decoder) (first second : Nat) :
    (decoder.skip first).skip second = decoder.skip (first + second) := by
  -- Neither the source nor a count can tell one stretch from two.
  simp only [skip, Source.skip_skip, addCount_addCount]

/-- Skipping nothing changes nothing. -/
theorem Steady.skip_zero {decoder : Decoder} (steady : decoder.Steady) :
    decoder.skip 0 = decoder := by
  -- A count that is a word is not changed by counting nothing.
  simp [skip, Source.skip, addCount_zero steady.small, addCount_zero steady.counted]

/-- Taking bytes succeeds exactly when the ceiling has room for them and the source gives them. -/
theorem take_eq_ok_iff {count : Nat} {decoder after : Decoder} {bytes : Bytes} :
    take count decoder = .ok bytes after ↔
      bytes.length = count ∧
        addCount decoder.messageSize count ≤ decoder.limits.messageSize ∧
        decoder.source.Reaches count ∧
        decoder.source.rest = bytes ++ after.source.rest ∧ after = decoder.skip count := by
  simp only [take]
  split
  · next exceeded =>
    -- The ceiling is checked before the source is asked for anything.
    simp [Nat.not_le.mpr exceeded]
  · next fits =>
    constructor
    · -- What was taken came from the source.
      intro taken
      split at taken
      · next found =>
        cases taken
        obtain ⟨length, reaches, front, rfl⟩ := Source.take_eq_ok_iff.mp found
        exact ⟨length, Nat.not_lt.mp fits, reaches, front, rfl⟩
      all_goals cases taken
    · intro facts
      -- The ceiling is passed already, so the source decides.
      obtain ⟨length, _, reaches, front, rfl⟩ := facts
      have found := Source.take_eq_ok_iff.mpr ⟨length, reaches, front, rfl⟩
      simp only [skip] at found ⊢
      simp only [found]

/-- The source of a decoder opens with the bytes of admitted parts, and the decoder skips them. -/
structure Passes (decoder : Decoder) (parts : List Part) (after : Decoder) : Prop where
  -- What the ceilings say is what an encoder would be told at the same count.
  admitted : decoder.limits.Admits decoder.messageSize parts
  -- The bytes are within reach, and they are those of the parts, in order.
  reaches : decoder.source.Reaches (Part.images parts).length
  front : decoder.source.rest = Part.images parts ++ after.source.rest
  -- Nothing else changes.
  skipped : after = decoder.skip (Part.images parts).length

/-- The counts stay in order. -/
theorem Passes.steady {decoder after : Decoder} {parts : List Part}
    (passes : decoder.Passes parts after) : after.Steady := by
  -- The count after the parts is the one that the ceiling was asked about.
  obtain ⟨⟨_, bounded⟩, _, _, rfl⟩ := passes
  exact ⟨addCount_le_wordMax .., bounded, addCount_le_wordMax ..⟩

/-- The ceilings stay the same. -/
theorem Passes.sameLimits {decoder after : Decoder} {parts : List Part}
    (passes : decoder.Passes parts after) : after.limits = decoder.limits := by
  rw [passes.skipped]
  rfl

/-- No parts are passed without moving. -/
theorem passes_nil {decoder after : Decoder} (steady : decoder.Steady) :
    decoder.Passes [] after ↔ after = decoder := by
  constructor
  · intro passes
    rw [passes.skipped]
    exact steady.skip_zero
  · intro same
    subst same
    -- A steady decoder stays where it is.
    exact ⟨Limits.admits_nil steady.small steady.fits, Source.reaches_zero _, rfl,
      steady.skip_zero.symm⟩

/-- Parts are passed one stretch after the other. -/
theorem passes_append {decoder after : Decoder} {front back : List Part} :
    decoder.Passes (front ++ back) after ↔
      ∃ between, decoder.Passes front between ∧ between.Passes back after := by
  constructor
  · intro facts
    -- Each condition on the whole is split at the end of the first stretch.
    obtain ⟨admitted, reaches, opening, rfl⟩ := facts
    rw [Limits.admits_append] at admitted
    simp only [Part.images_append, List.length_append, List.append_assoc] at reaches opening ⊢
    rw [Source.reaches_add] at reaches
    -- What follows the first stretch is what the decoder finds after skipping it.
    have rest := congrArg (List.drop (Part.images front).length) opening
    rw [List.drop_left] at rest
    refine ⟨decoder.skip (Part.images front).length,
      ⟨admitted.1, reaches.1, ?_, rfl⟩, ⟨admitted.2, reaches.2, rest, ?_⟩⟩
    · exact opening.trans (congrArg _ rest.symm)
    · rw [skip_skip]
  · intro facts
    obtain ⟨between, front, back⟩ := facts
    obtain ⟨admitted, reaches, opening, rfl⟩ := front
    obtain ⟨admittedBack, reachesBack, openingBack, rfl⟩ := back
    -- The two stretches lie side by side, so their conditions add up.
    refine ⟨Limits.admits_append.mpr ⟨admitted, admittedBack⟩, ?_, ?_, ?_⟩
    · rw [Part.images_append, List.length_append]
      exact Source.reaches_add.mpr ⟨reaches, reachesBack⟩
    · rw [opening, openingBack, Part.images_append, List.append_assoc]
    · rw [skip_skip, Part.images_append, List.length_append]

/-- Parts are passed one after the other. -/
theorem passes_cons {decoder after : Decoder} {part : Part} {parts : List Part} :
    decoder.Passes (part :: parts) after ↔
      ∃ between, decoder.Passes [part] between ∧ between.Passes parts after := by
  show decoder.Passes ([part] ++ parts) after ↔ _
  exact passes_append

/-- Entering a container takes no bytes, but needs room for one more. -/
theorem passes_enter {decoder after : Decoder} {depth : Nat} {parts : List Part} :
    decoder.Passes (.enter depth :: parts) after ↔
      depth < decoder.limits.depth ∧ decoder.Passes parts after := by
  constructor
  · intro facts
    obtain ⟨⟨within, bounded⟩, reaches, opening, skipped⟩ := facts
    -- The container is one part among the others, without any bytes.
    exact ⟨within (.enter depth) (by simp),
      ⟨⟨fun part member => within part (by simp [member]), bounded⟩, reaches, opening, skipped⟩⟩
  · intro facts
    obtain ⟨shallow, ⟨within, bounded⟩, reaches, opening, skipped⟩ := facts
    refine ⟨⟨fun part member => ?_, bounded⟩, reaches, opening, skipped⟩
    -- A part is the container, which has room, or one of those that were admitted.
    rcases List.mem_cons.mp member with rfl | member
    · exact shallow
    · exact within part member

/-- It does not matter to a decoder whether a container is entered before its tag or after it. -/
theorem passes_enter_cons {decoder after : Decoder} {depth : Nat} {part : Part}
    {parts : List Part} :
    decoder.Passes (.enter depth :: part :: parts) after ↔
      decoder.Passes (part :: .enter depth :: parts) after := by
  rw [passes_enter, passes_cons, passes_cons]
  constructor
  · intro facts
    obtain ⟨shallow, between, first, rest⟩ := facts
    -- The ceiling of depth is the same before and behind the part.
    exact ⟨between, first, passes_enter.mpr ⟨first.sameLimits ▸ shallow, rest⟩⟩
  · intro facts
    obtain ⟨between, first, rest⟩ := facts
    obtain ⟨shallow, rest⟩ := passes_enter.mp rest
    exact ⟨first.sameLimits ▸ shallow, between, first, rest⟩

/--
A step accepts exactly the parts that its answers have.

The form of an answer is the grammar of the step: soundness and completeness in one.
-/
def Reads {α : Type} (limits : Limits) (step : DecodeM α) (form : α → List Part → Prop) : Prop :=
  -- Only a steady decoder counts as an encoder does.
  ∀ decoder : Decoder, decoder.Steady → decoder.limits = limits → ∀ answer after,
    step decoder = .ok answer after ↔ ∃ parts, form answer parts ∧ decoder.Passes parts after

variable {α β : Type} {limits : Limits}

/-- Two grammars of the same answers and parts are one. -/
theorem Reads.congr {step : DecodeM α} {form other : α → List Part → Prop}
    (reads : Reads limits step form)
    (same : ∀ answer parts, form answer parts ↔ other answer parts) :
    Reads limits step other := by
  intro decoder steady sameLimits answer after
  -- Only the parts are described in other words.
  rw [reads decoder steady sameLimits answer after]
  simp only [same]

/-- An answer at hand has no parts. -/
theorem Reads.pure (answer : α) :
    Reads limits (Pure.pure answer) fun found parts => found = answer ∧ parts = [] := by
  intro decoder steady _ found after
  constructor
  · intro done
    -- The decoder does not move, and no parts are passed without moving.
    cases done
    exact ⟨[], ⟨rfl, rfl⟩, (passes_nil steady).mpr rfl⟩
  · intro facts
    obtain ⟨parts, ⟨rfl, rfl⟩, passes⟩ := facts
    -- The parts are none, so that the decoder is where it was.
    rw [(passes_nil steady).mp passes]
    rfl

/-- The parts of a sequence are those of its first step and those of its second one. -/
theorem Reads.bind {step : DecodeM α} {next : α → DecodeM β} {form : α → List Part → Prop}
    {formNext : α → β → List Part → Prop} (reads : Reads limits step form)
    (readsNext : ∀ answer, Reads limits (next answer) (formNext answer)) :
    Reads limits (step >>= next) fun result parts =>
      ∃ answer front back, form answer front ∧ formNext answer result back ∧
        parts = front ++ back := by
  intro decoder steady sameLimits result after
  rw [run_bind_eq_ok_iff]
  constructor
  · intro facts
    obtain ⟨answer, between, done, doneNext⟩ := facts
    -- Each step passes its own parts, the second one from where the first one stopped.
    obtain ⟨front, formed, passes⟩ := (reads decoder steady sameLimits answer between).mp done
    obtain ⟨back, formedNext, passesNext⟩ :=
      (readsNext answer between passes.steady (passes.sameLimits.trans sameLimits) result after).mp
        doneNext
    exact ⟨front ++ back, ⟨answer, front, back, formed, formedNext, rfl⟩,
      passes_append.mpr ⟨between, passes, passesNext⟩⟩
  · intro facts
    obtain ⟨_, ⟨answer, front, back, formed, formedNext, rfl⟩, passes⟩ := facts
    -- The first stretch is what the first step accepts; it leaves a steady decoder.
    obtain ⟨between, passes, passesNext⟩ := passes_append.mp passes
    exact ⟨answer, between,
      (reads decoder steady sameLimits answer between).mpr ⟨front, formed, passes⟩,
      (readsNext answer between passes.steady (passes.sameLimits.trans sameLimits) result
        after).mpr ⟨back, formedNext, passesNext⟩⟩

/-- What is made of an answer has the parts of the answer. -/
theorem Reads.map {step : DecodeM α} {form : α → List Part → Prop} (reads : Reads limits step form)
    (make : α → β) :
    Reads limits (do return make (← step)) fun result parts =>
      ∃ answer, result = make answer ∧ form answer parts := by
  -- Making something of an answer is a second step without parts.
  refine (reads.bind fun answer => Reads.pure (make answer)).congr fun result parts => ?_
  constructor
  · intro facts
    obtain ⟨answer, front, back, formed, ⟨rfl, rfl⟩, rfl⟩ := facts
    exact ⟨answer, rfl, by simpa using formed⟩
  · intro facts
    obtain ⟨answer, rfl, formed⟩ := facts
    exact ⟨answer, parts, [], formed, ⟨rfl, rfl⟩, by simp⟩

/-! Elementary parts. -/

/-- Bytes of a length are taken as they are. -/
theorem reads_take (count : Nat) :
    Reads limits (take count) fun bytes parts => bytes.length = count ∧ parts = [.raw bytes] := by
  intro decoder steady _ bytes after
  -- The conditions on bytes are those on a single part without a ceiling of its own.
  rw [take_eq_ok_iff]
  constructor
  · intro facts
    obtain ⟨rfl, fits, reaches, front, rfl⟩ := facts
    refine ⟨_, ⟨rfl, rfl⟩, ⟨⟨by simp [Part.Within], ?_⟩, ?_, ?_, ?_⟩⟩
    · simpa [Part.image] using fits
    · simpa [Part.image] using reaches
    · simpa [Part.image] using front
    · simp [Part.image]
  · intro facts
    obtain ⟨_, ⟨rfl, rfl⟩, ⟨⟨_, fits⟩, reaches, front, skipped⟩⟩ := facts
    have image : Part.images [.raw bytes] = bytes := by simp [Part.image]
    rw [image] at fits reaches front skipped
    exact ⟨rfl, fits, reaches, front, skipped⟩

/-- A number of a width is its digits. -/
theorem reads_takeNat (width : Nat) :
    Reads limits (takeNat width) fun number parts =>
      number < 256 ^ width ∧ parts = [.raw (Bytes.ofNatBE width number)] := by
  -- Octets and the numbers that fit their width are the same thing.
  refine ((reads_take width).map Bytes.toNatBE).congr fun number parts => ?_
  constructor
  · intro facts
    obtain ⟨bytes, rfl, length, rfl⟩ := facts
    obtain ⟨fits, digits⟩ := Bytes.eq_ofNatBE_iff.mp ⟨length, rfl⟩
    exact ⟨fits, by rw [← digits]⟩
  · intro facts
    obtain ⟨fits, rfl⟩ := facts
    obtain ⟨length, same⟩ := Bytes.eq_ofNatBE_iff.mpr ⟨fits, rfl⟩
    exact ⟨_, same.symm, length, rfl⟩

/-- A length is checked against its ceiling, also the one that four octets set. -/
theorem reads_takeLength : Reads limits takeLength fun count parts => parts = [.length count] := by
  intro decoder steady sameLimits count after
  -- Four octets hold exactly the lengths that an encoder lets out.
  have lengthMax : 256 ^ 4 = Encoder.lengthMax + 1 := rfl
  have image : Part.images [.length count] = Part.images [.raw (Bytes.ofNatBE 4 count)] := rfl
  rw [takeLength, run_bind_eq_ok_iff]
  simp only [reads_takeNat 4 decoder steady sameLimits]
  constructor
  · intro facts
    obtain ⟨number, between, ⟨_, ⟨fits, rfl⟩, passes⟩, done⟩ := facts
    have sameLimits := passes.sameLimits
    -- The octets are taken in any case, and the ceiling is asked afterwards.
    by_cases exceeded : between.limits.frameSize < number
    · simp [exceeded] at done
    · simp only [run_bind, run_get, exceeded, if_false, run_pure] at done
      cases done
      -- The octets are those of a length, which respects its ceiling besides.
      obtain ⟨⟨_, bounded⟩, reaches, front, skipped⟩ := passes
      rw [← image] at bounded reaches front skipped
      refine ⟨_, rfl, ⟨⟨?_, bounded⟩, reaches, front, skipped⟩⟩
      simp only [List.mem_singleton, forall_eq, Part.Within]
      exact ⟨sameLimits ▸ Nat.not_lt.mp exceeded, by omega⟩
  · intro facts
    obtain ⟨_, rfl, passes⟩ := facts
    have sameLimits := passes.sameLimits
    obtain ⟨⟨within, bounded⟩, reaches, front, skipped⟩ := passes
    obtain ⟨framed, fits⟩ : Part.Within decoder.limits (.length count) := within _ (by simp)
    rw [image] at bounded reaches front skipped
    refine ⟨count, after,
      ⟨_, ⟨by omega, rfl⟩, ⟨⟨by simp [Part.Within], bounded⟩, reaches, front, skipped⟩⟩, ?_⟩
    -- A length that was admitted is under the ceiling that the decoder asks.
    have allowed : ¬ after.limits.frameSize < count := by rw [sameLimits]; omega
    simp [allowed]

/-- A string of a length is its octets, which are no string unless they spell one. -/
theorem reads_takeText (length : Nat) :
    Reads limits (takeText length) fun text parts =>
      (Bytes.ofString text).length = length ∧ parts = [.raw (Bytes.ofString text)] := by
  intro decoder steady sameLimits text after
  rw [takeText, run_bind_eq_ok_iff]
  simp only [reads_take length decoder steady sameLimits]
  constructor
  · intro facts
    obtain ⟨bytes, between, ⟨_, ⟨rfl, rfl⟩, passes⟩, done⟩ := facts
    -- Octets that spell nothing are refused.
    cases spelled : Bytes.toString? bytes with
    | error fault => simp [spelled] at done
    | ok found =>
      simp only [spelled, run_pure] at done
      cases done
      -- What spells a string is nothing but its octets.
      rw [Bytes.toString?_eq_ok_iff.mp spelled] at passes ⊢
      exact ⟨_, ⟨rfl, rfl⟩, passes⟩
  · intro facts
    obtain ⟨_, ⟨rfl, rfl⟩, passes⟩ := facts
    exact ⟨_, after, ⟨_, ⟨rfl, rfl⟩, passes⟩, by simp⟩

/-- A string is its length and its octets. -/
theorem reads_takeString :
    Reads limits takeString fun text parts => parts = Part.ofString text := by
  -- The length is that of the octets which follow it.
  refine (reads_takeLength.bind reads_takeText).congr fun text parts => ?_
  constructor
  · intro facts
    obtain ⟨_, _, _, rfl, ⟨rfl, rfl⟩, rfl⟩ := facts
    rfl
  · intro same
    subst same
    exact ⟨_, _, _, rfl, ⟨rfl, rfl⟩, rfl⟩

/-- An octet is a tag exactly when it is the octet of that tag. -/
theorem ofByte?_eq_some_iff {byte : UInt8} {tag : Tag} :
    Tag.ofByte? byte = some tag ↔ byte = tag.toByte := by
  constructor
  · intro found
    apply UInt8.toNat_inj.mp
    -- Every known octet is met by one branch, and the tag of the branch has that octet.
    unfold Tag.ofByte? at found
    split at found
    all_goals first | (cases found; assumption) | cases found
  · intro same
    subst same
    exact Tag.ofByte?_toByte tag

/-- A tag is its octet. -/
theorem reads_takeTag : Reads limits takeTag fun tag parts => parts = [.ofTag tag] := by
  intro decoder steady sameLimits tag after
  rw [takeTag, run_bind_eq_ok_iff]
  simp only [reads_takeNat 1 decoder steady sameLimits]
  have single (byte : UInt8) : Bytes.ofNatBE 1 byte.toNat = [byte] := by
    simp [Bytes.ofNatBE]
  constructor
  · intro facts
    obtain ⟨number, between, ⟨_, ⟨fits, rfl⟩, passes⟩, done⟩ := facts
    -- A number that fits one octet is the number of that octet.
    have back : (UInt8.ofNat number).toNat = number := UInt8.toNat_ofNat_of_lt fits
    cases known : Tag.ofByte? (UInt8.ofNat number) with
    | none => simp [known] at done
    | some found =>
      simp only [known, run_pure] at done
      cases done
      rw [← back, single, ofByte?_eq_some_iff.mp known] at passes
      exact ⟨_, rfl, passes⟩
  · intro facts
    obtain ⟨_, rfl, passes⟩ := facts
    rw [Part.ofTag, ← single] at passes
    exact ⟨_, after, ⟨_, ⟨tag.toByte.toNat_lt, rfl⟩, passes⟩, by simp⟩

end Decoder

end RemoteCall
