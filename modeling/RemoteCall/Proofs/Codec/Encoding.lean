import RemoteCall.Proofs.Codec.Admission
import RemoteCall.Proofs.Stream.Lossless

/-! An encoding succeeds exactly when the ceilings admit it, and then it is the wire image. -/

namespace RemoteCall

namespace Part

/-- A single part is admitted exactly when it respects its own ceiling and that of the message. -/
theorem admits_singleton {limits : Limits} {size : Nat} {part : Part} :
    limits.Admits size [part] ↔
      part.Within limits ∧ addCount size part.image.length ≤ limits.messageSize := by
  constructor
  · intro facts
    obtain ⟨within, bounded⟩ := facts
    exact ⟨within part (by simp), by simpa using bounded⟩
  · intro facts
    obtain ⟨within, bounded⟩ := facts
    exact ⟨by simpa using within, by simpa using bounded⟩

end Part

namespace Encoder

variable {σ : Type}

/-- The present message respects its ceiling so far. -/
structure Steady (encoder : Encoder σ) : Prop where
  small : encoder.messageSize ≤ wordMax
  fits : encoder.messageSize ≤ encoder.limits.messageSize

variable {encoder after : Encoder σ}

/-- The present message still respects its ceiling after a part that was admitted. -/
theorem steady_of_admits {part : Part}
    (admitted : encoder.limits.Admits encoder.messageSize [part])
    (sameLimits : after.limits = encoder.limits)
    (counted : after.messageSize = addCount encoder.messageSize part.image.length) :
    after.Steady where
  small := counted ▸ addCount_le_wordMax ..
  fits := by
    -- What was admitted was asked for with the part already counted.
    rw [counted, sameLimits]
    exact (Part.admits_singleton.mp admitted).2

variable [Sink σ]

/-- What is put respects the ceiling of the message, and is counted. -/
theorem put_eq_ok {data : Bytes} (done : put data encoder = .ok () after) :
    addCount encoder.messageSize data.length ≤ encoder.limits.messageSize ∧
      after.limits = encoder.limits ∧
        after.messageSize = addCount encoder.messageSize data.length := by
  simp only [put] at done
  -- The ceiling is asked before the sink is given anything.
  split at done
  · cases done
  · next fits =>
    split at done
    · cases done
    · cases done
      exact ⟨Nat.not_lt.mp fits, rfl, rfl⟩

/-- A part that was written was admitted, and its bytes are counted. -/
theorem perform_eq_ok {part : Part} (steady : encoder.Steady)
    (done : perform part encoder = .ok () after) :
    encoder.limits.Admits encoder.messageSize [part] ∧ after.limits = encoder.limits ∧
      after.messageSize = addCount encoder.messageSize part.image.length := by
  -- Each kind of part is checked against its own ceiling first.
  rw [Part.admits_singleton]
  cases part with
  | enter depth =>
    -- Entering writes nothing, so the count stays where it is.
    by_cases deep : encoder.limits.depth ≤ depth
    · simp [perform, deep] at done
    · simp only [perform, run_bind, run_get, deep, if_false, run_pure] at done
      cases done
      have unchanged := addCount_zero steady.small
      have fits := Nat.le_trans (Nat.le_of_eq unchanged) steady.fits
      exact ⟨⟨Nat.not_le.mp deep, fits⟩, rfl, unchanged.symm⟩
  | raw data =>
    -- Only the ceiling of the message is asked about bytes as they are.
    obtain ⟨fits, facts⟩ := put_eq_ok done
    exact ⟨⟨trivial, fits⟩, facts⟩
  | length count =>
    -- A length is checked twice before its octets go out.
    by_cases long : encoder.limits.frameSize < count
    · simp [perform, long] at done
    · by_cases wide : lengthMax < count
      · simp [perform, long, wide] at done
      · simp only [perform, run_bind, run_get, long, wide, if_false] at done
        obtain ⟨fits, facts⟩ := put_eq_ok done
        exact ⟨⟨⟨Nat.not_lt.mp long, Nat.not_lt.mp wide⟩, fits⟩, facts⟩

/-- Parts that were all written were admitted together. -/
theorem performAll_eq_ok {parts : List Part} (steady : encoder.Steady)
    (done : performAll parts encoder = .ok () after) :
    encoder.limits.Admits encoder.messageSize parts := by
  -- The induction follows the parts; the encoder changes with each of them.
  induction parts generalizing encoder with
  | nil => exact Limits.admits_nil steady.small steady.fits
  | cons part parts ih =>
    obtain ⟨_, between, first, done⟩ := run_bind_eq_ok_iff.mp done
    obtain ⟨admitted, sameLimits, counted⟩ := perform_eq_ok steady first
    -- The count after the first part is what the others are admitted at.
    have rest := ih (steady_of_admits admitted sameLimits counted) done
    rw [sameLimits, counted] at rest
    exact Limits.admits_cons.mpr ⟨admitted, rest⟩

variable {holds : Holding σ} {given : Bytes}

/-- What the ceiling of the message has room for is put onto a sink that loses nothing. -/
theorem put_of_fits (lossless : Lossless σ holds) (held : holds encoder.sink given)
    (data : Bytes) (fits : addCount encoder.messageSize data.length ≤ encoder.limits.messageSize) :
    ∃ after, put data encoder = .ok () after ∧ holds after.sink (given ++ data) ∧
      after.limits = encoder.limits ∧
        after.messageSize = addCount encoder.messageSize data.length := by
  -- A sink that loses nothing takes all of it.
  obtain ⟨answer, sink, wrote, held⟩ := lossless.writeAll data encoder.sink given held
  refine ⟨{ encoder with
      sink, messageSize := addCount encoder.messageSize data.length,
      written := addCount encoder.written data.length }, ?_, held, rfl, rfl⟩
  simp only [put, if_neg (Nat.not_lt.mpr fits), wrote]

/-- A part that is admitted goes out to a sink that loses nothing. -/
theorem perform_of_admits (lossless : Lossless σ holds) (held : holds encoder.sink given)
    (steady : encoder.Steady) {part : Part}
    (admitted : encoder.limits.Admits encoder.messageSize [part]) :
    ∃ after, perform part encoder = .ok () after ∧ holds after.sink (given ++ part.image) ∧
      after.limits = encoder.limits ∧
        after.messageSize = addCount encoder.messageSize part.image.length := by
  -- The two conditions of admission are the two checks, one before the other.
  obtain ⟨within, fits⟩ := Part.admits_singleton.mp admitted
  cases part with
  | enter depth =>
    -- Entering gives nothing to the sink and counts nothing.
    refine ⟨encoder, ?_, by simpa [Part.image] using held, rfl,
      (addCount_zero steady.small).symm⟩
    have shallow : ¬ encoder.limits.depth ≤ depth := Nat.not_le.mpr within
    simp [perform, shallow]
  | raw data => exact put_of_fits lossless held data fits
  | length count =>
    -- A length goes out as four octets.
    obtain ⟨after, done, facts⟩ := put_of_fits lossless held (Bytes.ofNatBE 4 count) fits
    refine ⟨after, ?_, facts⟩
    simp [perform, Nat.not_lt.mpr within.1, Nat.not_lt.mpr within.2, done]

/-- Parts that are admitted together all go out to a sink that loses nothing. -/
theorem performAll_of_admits (lossless : Lossless σ holds) {parts : List Part}
    (steady : encoder.Steady) (held : holds encoder.sink given)
    (admitted : encoder.limits.Admits encoder.messageSize parts) :
    ∃ after, performAll parts encoder = .ok () after ∧
      holds after.sink (given ++ Part.images parts) := by
  -- After each part, the others are admitted at the count that is then reached.
  induction parts generalizing encoder given with
  | nil => exact ⟨encoder, rfl, by simpa using held⟩
  | cons part parts ih =>
    obtain ⟨first, rest⟩ := Limits.admits_cons.mp admitted
    obtain ⟨between, done, held, sameLimits, counted⟩ :=
      perform_of_admits lossless held steady first
    have steady := steady_of_admits first sameLimits counted
    rw [← sameLimits, ← counted] at rest
    obtain ⟨after, doneRest, held⟩ := ih steady held rest
    exact ⟨after, by simp only [performAll, run_bind, done, doneRest], by simpa using held⟩

/-- A message whose parts are admitted goes out to a sink that loses nothing. -/
theorem writeMessage_of_admits (lossless : Lossless σ holds) (encoder : Encoder σ)
    (held : holds encoder.sink given) {value : Value}
    (admitted : encoder.limits.Admits 0 value.messageParts) :
    ∃ after, writeMessage value encoder = .ok () after ∧
      holds after.sink (given ++ value.image) := by
  -- A message starts at a count of nothing, whatever was sent before.
  have steady : Steady { encoder with messageSize := 0 } := ⟨Nat.zero_le _, Nat.zero_le _⟩
  obtain ⟨between, done, held⟩ := performAll_of_admits lossless steady held admitted
  -- The sink is flushed behind the last part.
  obtain ⟨answer, sink, flushed, held⟩ := lossless.flush between.sink _ held
  refine ⟨{ between with sink }, ?_, by simpa [Part.images, Value.image] using held⟩
  simp only [writeMessage, run_bind, run_modify, done, Encoder.flush, flushed]

/-- A message that was written was admitted, whatever the sink. -/
theorem admits_of_writeMessage {value : Value}
    (done : writeMessage value encoder = .ok () after) :
    encoder.limits.Admits 0 value.messageParts := by
  -- A message starts at a count of nothing.
  have steady : Steady { encoder with messageSize := 0 } := ⟨Nat.zero_le _, Nat.zero_le _⟩
  obtain ⟨_, _, reset, done⟩ := run_bind_eq_ok_iff.mp done
  cases reset
  obtain ⟨_, _, performed, _⟩ := run_bind_eq_ok_iff.mp done
  exact performAll_eq_ok steady performed

end Encoder

/-- Encoding succeeds exactly when the ceilings admit the message, and then gives its image. -/
theorem encode_eq_ok_iff {value : Value} {limits : Limits} {bytes : Bytes} :
    encode value limits = .ok bytes ↔
      limits.Admits 0 value.messageParts ∧ bytes = value.image := by
  -- The store of an encoding is empty at first, and loses nothing.
  have complete (admitted : limits.Admits 0 value.messageParts) :
      encode value limits = .ok value.image := by
    obtain ⟨after, done, held⟩ := Encoder.writeMessage_of_admits Store.lossless
      { sink := ({} : Store), limits } ⟨rfl, rfl⟩ admitted
    simp only [encode, done, held.2]
    rfl
  constructor
  · intro encoded
    -- What was written was admitted, and so it is known what was written.
    have admitted : limits.Admits 0 value.messageParts := by
      simp only [encode] at encoded
      split at encoded
      · next done => exact Encoder.admits_of_writeMessage done
      · cases encoded
    refine ⟨admitted, ?_⟩
    rw [complete admitted] at encoded
    exact (Except.ok.inj encoded).symm
  · intro facts
    obtain ⟨admitted, rfl⟩ := facts
    exact complete admitted

end RemoteCall
