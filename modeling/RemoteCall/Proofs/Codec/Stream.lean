import Mathlib.Data.List.Forall2
import RemoteCall.Proofs.Codec.RoundTrip

/-! Messages that follow one another on a stream, with nothing between them to keep them apart. -/

namespace RemoteCall

/-! An encoder counts what it writes over all messages. -/

namespace Encoder

variable {σ : Type}

/-- An encoder has written so many more bytes, under the same ceilings. -/
structure Advances (encoder : Encoder σ) (count : Nat) (after : Encoder σ) : Prop where
  sameLimits : after.limits = encoder.limits
  written : after.written = addCount encoder.written count

variable {encoder between after : Encoder σ} {first second : Nat}

/-- Bytes that were written one after the other are counted together. -/
theorem Advances.trans (advances : encoder.Advances first between)
    (further : between.Advances second after) : encoder.Advances (first + second) after where
  sameLimits := further.sameLimits.trans advances.sameLimits
  written := by rw [further.written, advances.written, addCount_addCount]

/-- The count over all messages remains a word. -/
theorem Advances.counted (advances : encoder.Advances first after) : after.written ≤ wordMax :=
  advances.written ▸ addCount_le_wordMax ..

/-- An encoder that has written nothing is where it was. -/
theorem Advances.refl (counted : encoder.written ≤ wordMax) : encoder.Advances 0 encoder where
  sameLimits := rfl
  written := (addCount_zero counted).symm

variable [Sink σ]

/-- What is put is counted. -/
theorem put_advances {data : Bytes} (done : put data encoder = .ok () after) :
    encoder.Advances data.length after := by
  simp only [put] at done
  -- Only what the ceiling and the sink let through is counted.
  split at done
  · cases done
  · split at done
    · cases done
    · cases done
      exact ⟨rfl, rfl⟩

/-- A part that is written is counted by the bytes that it puts on the wire. -/
theorem perform_advances {part : Part} (counted : encoder.written ≤ wordMax)
    (done : perform part encoder = .ok () after) : encoder.Advances part.image.length after := by
  cases part with
  | enter depth =>
    -- Entering a container puts nothing on the wire.
    by_cases deep : encoder.limits.depth ≤ depth
    · simp [perform, deep] at done
    · simp only [perform, run_bind, run_get, deep, if_false, run_pure] at done
      cases done
      exact .refl counted
  | raw data => exact put_advances done
  | length count =>
    -- Neither of the two checks may have failed.
    by_cases long : encoder.limits.frameSize < count
    · simp [perform, long] at done
    · by_cases wide : lengthMax < count
      · simp [perform, long, wide] at done
      · simp only [perform, run_bind, run_get, long, wide, if_false] at done
        exact put_advances done

/-- Parts that are all written are counted by all of their bytes. -/
theorem performAll_advances {parts : List Part} (counted : encoder.written ≤ wordMax)
    (done : performAll parts encoder = .ok () after) :
    encoder.Advances (Part.images parts).length after := by
  -- The induction follows the parts, from one count to the next.
  induction parts generalizing encoder with
  | nil =>
    cases done
    exact .refl counted
  | cons part parts ih =>
    obtain ⟨_, between, first, rest⟩ := run_bind_eq_ok_iff.mp done
    have advances := perform_advances counted first
    rw [Part.images_cons, List.length_append]
    exact advances.trans (ih advances.counted rest)

/-- A message that is written is counted by its bytes, on top of those of all others. -/
theorem writeMessage_advances {value : Value} (counted : encoder.written ≤ wordMax)
    (done : writeMessage value encoder = .ok () after) :
    encoder.Advances value.image.length after := by
  obtain ⟨_, _, reset, written⟩ := run_bind_eq_ok_iff.mp done
  cases reset
  obtain ⟨_, between, performed, flushed⟩ := run_bind_eq_ok_iff.mp written
  -- Only the count of the present message starts anew.
  have counted : ({ encoder with messageSize := 0 } : Encoder σ).written ≤ wordMax := counted
  have advances := performAll_advances counted performed
  -- The sink is flushed behind the last part, which is not counted.
  simp only [Encoder.flush] at flushed
  split at flushed
  · cases flushed
  · cases flushed
    exact ⟨advances.sameLimits, advances.written⟩

/-- Writes messages, one after the other. -/
def writeMessages : List Value → EncodeM σ Unit
  | [] => return ()
  | value :: values => do
    writeMessage value
    writeMessages values

variable {holds : Holding σ} {given : Bytes}

/-- To a sink that loses nothing, a message is written exactly when it can be encoded. -/
theorem writeMessage_iff (lossless : Lossless σ holds) (held : holds encoder.sink given)
    (value : Value) :
    (∃ after, writeMessage value encoder = .ok () after) ↔
      ∃ bytes, encode value encoder.limits = .ok bytes := by
  -- Both sides come to what the ceilings admit at the start of a message.
  constructor
  · rintro ⟨after, done⟩
    exact ⟨_, encode_eq_ok_iff.mpr ⟨admits_of_writeMessage done, rfl⟩⟩
  · rintro ⟨bytes, encoded⟩
    obtain ⟨after, done, _⟩ :=
      writeMessage_of_admits lossless encoder held (encode_eq_ok_iff.mp encoded).1
    exact ⟨after, done⟩

/-- A message that can be encoded goes out to a sink that loses nothing as its encoding. -/
theorem writeMessage_of_encode (lossless : Lossless σ holds) (held : holds encoder.sink given)
    (counted : encoder.written ≤ wordMax) {value : Value} {bytes : Bytes}
    (encoded : encode value encoder.limits = .ok bytes) :
    ∃ after, writeMessage value encoder = .ok () after ∧ holds after.sink (given ++ bytes) ∧
      encoder.Advances bytes.length after := by
  obtain ⟨admitted, rfl⟩ := encode_eq_ok_iff.mp encoded
  obtain ⟨after, done, held⟩ := writeMessage_of_admits lossless encoder held admitted
  exact ⟨after, done, held, writeMessage_advances counted done⟩

/-- Messages that can each be encoded go out one after the other. -/
theorem writeMessages_of_encode (lossless : Lossless σ holds) (start : Encoder σ) {limits : Limits}
    {values : List Value} {encodings : List Bytes}
    (encoded : List.Forall₂ (fun value bytes => encode value limits = .ok bytes) values encodings)
    (sameLimits : start.limits = limits) (held : holds start.sink given)
    (counted : start.written ≤ wordMax) :
    ∃ after, writeMessages values start = .ok () after ∧
      holds after.sink (given ++ encodings.flatten) ∧
        start.Advances encodings.flatten.length after := by
  -- Each message meets a sink that has all of those before it.
  induction encoded generalizing start given with
  | nil => exact ⟨start, rfl, by simpa using held, .refl counted⟩
  | cons first _ ih =>
    subst sameLimits
    -- The first message leaves an encoder with the same ceilings and a greater count.
    obtain ⟨between, done, heldFirst, advances⟩ :=
      writeMessage_of_encode lossless held counted first
    obtain ⟨after, doneRest, heldAll, further⟩ :=
      ih between advances.sameLimits heldFirst advances.counted
    refine ⟨after, ?_, by simpa using heldAll, ?_⟩
    · rw [writeMessages, run_bind, done]
      exact doneRest
    · rw [List.flatten_cons, List.length_append]
      exact advances.trans further

end Encoder

/-! A decoder stops where a message ends. -/

namespace Decoder

variable {decoder after : Decoder}

/-- A decoder takes exactly the messages that can be encoded, and stops behind their encodings. -/
theorem takeMessage_iff_encode (counted : decoder.read ≤ wordMax) {value : Value} :
    takeMessage decoder = .ok value after ↔
      ∃ bytes, encode value decoder.limits = .ok bytes ∧ decoder.source.Reaches bytes.length ∧
        decoder.source.rest = bytes ++ after.source.rest ∧
          after = decoder.anew.skip bytes.length := by
  rw [takeMessage_eq_ok_iff counted]
  -- What is admitted at the start of a message is what can be encoded.
  constructor
  · rintro ⟨admitted, reaches, front, skipped⟩
    exact ⟨value.image, encode_eq_ok_iff.mpr ⟨admitted, rfl⟩, reaches, front, skipped⟩
  · rintro ⟨bytes, encoded, reaches, front, skipped⟩
    obtain ⟨admitted, rfl⟩ := encode_eq_ok_iff.mp encoded
    exact ⟨admitted, reaches, front, skipped⟩

/-- Encodings that follow one another are taken one by one, and nothing behind them is touched. -/
theorem takeMessages_of_encode (start : Decoder) {limits : Limits} {values : List Value}
    {encodings : List Bytes}
    (encoded : List.Forall₂ (fun value bytes => encode value limits = .ok bytes) values encodings)
    (done : List Value) {rest : Bytes} (sameLimits : start.limits = limits)
    (counted : start.read ≤ wordMax) (reaches : start.source.Reaches encodings.flatten.length)
    (front : start.source.rest = encodings.flatten ++ rest) :
    ∃ after, repeated takeMessage values.length done start = .ok (done.reverse ++ values) after ∧
      after.limits = limits ∧ after.source = start.source.skip encodings.flatten.length ∧
        after.read = addCount start.read encodings.flatten.length := by
  -- Each message is taken from where the one before it ended; the values so far are kept.
  induction encoded generalizing start done with
  | nil =>
    refine ⟨start, by simp [repeated], sameLimits, ?_, (addCount_zero counted).symm⟩
    simp [Source.skip]
  | @cons value bytes values encodings first _ ih =>
    subst sameLimits
    simp only [List.flatten_cons, List.length_append, List.append_assoc] at reaches front ⊢
    obtain ⟨reachesFirst, reachesRest⟩ := Source.reaches_add.mp reaches
    -- Behind the first message, the source opens with the encodings of the others.
    let between := start.anew.skip bytes.length
    have behind : between.source.rest = encodings.flatten ++ rest :=
      (congrArg (List.drop bytes.length) front).trans List.drop_left
    have taken : takeMessage start = .ok value between :=
      (takeMessage_iff_encode counted).mpr
        ⟨bytes, first, reachesFirst, front.trans (congrArg _ behind.symm), rfl⟩
    -- The stretches that are skipped and the bytes that are counted add up.
    obtain ⟨after, takenRest, kept, moved, read⟩ :=
      ih between (value :: done) rfl (addCount_le_wordMax ..) reachesRest behind
    refine ⟨after, ?_, kept, moved.trans (Source.skip_skip ..), read.trans (addCount_addCount ..)⟩
    rw [List.length_cons, repeated, run_bind, taken]
    simpa using takenRest

end Decoder

/--
Messages on a stream keep themselves apart, whatever comes behind them.

However many of them are written, the sink has their encodings and nothing else, and as many of them
are read back without a byte of what follows; both sides count over all messages. The ceilings apply
to each message by itself: whether the next one is written or read depends on it alone.
-/
theorem messages_delimited {σ : Type} [Sink σ] {holds : Holding σ} (lossless : Lossless σ holds)
    {limits : Limits} {values : List Value} {encodings : List Bytes}
    (encoded : List.Forall₂ (fun value bytes => encode value limits = .ok bytes) values encodings)
    (small : (encodings.map List.length).sum < 2 ^ 64) {sink : σ} {given : Bytes}
    (held : holds sink given) {source : Source} {rest : Bytes}
    (front : source.rest = encodings.flatten ++ rest)
    (reaches : source.Reaches encodings.flatten.length) {count : Nat}
    (bounded : count ≤ values.length) :
    let length := ((encodings.take count).map List.length).sum
    (∃ after, Encoder.writeMessages (values.take count) { sink, limits } = .ok () after ∧
      holds after.sink (given ++ (encodings.take count).flatten) ∧ after.written = length ∧
        ∀ value, (∃ further, Encoder.writeMessage value after = .ok () further) ↔
          ∃ bytes, encode value limits = .ok bytes) ∧
      ∃ after, Decoder.repeated Decoder.takeMessage count [] { source, limits } =
          .ok (values.take count) after ∧
        after.source = source.skip length ∧
        after.source.rest = (encodings.drop count).flatten ++ rest ∧ after.read = length ∧
          ∀ value further, Decoder.takeMessage after = .ok value further ↔
            ∃ bytes, encode value limits = .ok bytes ∧ after.source.Reaches bytes.length ∧
              after.source.rest = bytes ++ further.source.rest ∧
                further = after.anew.skip bytes.length := by
  intro length
  -- The messages up to the count are messages on a stream, with the others behind them.
  have encodedFront := List.forall₂_take count encoded
  have split : encodings.flatten =
      (encodings.take count).flatten ++ (encodings.drop count).flatten := by
    rw [← List.flatten_append, List.take_append_drop]
  have whole : (encodings.take count).flatten.length = length := List.length_flatten
  -- None of the counts is cut off, since all the messages together can be counted.
  have counted : addCount 0 length = length := by
    have sizes := congrArg List.length split
    rw [List.length_append, List.length_flatten] at sizes
    have bounded : length < 2 ^ 64 := by omega
    exact zero_addCount (Nat.le_pred_of_lt bounded)
  rw [split, List.length_append, Source.reaches_add] at reaches
  rw [split, List.append_assoc] at front
  constructor
  -- A fresh encoder has written nothing, so its count is that of the messages.
  · obtain ⟨after, written, heldAll, advances⟩ :=
      Encoder.writeMessages_of_encode lossless { sink, limits } encodedFront rfl held
        (Nat.zero_le _)
    refine ⟨after, written, heldAll, ?_, fun value => ?_⟩
    · exact advances.written.trans (whole ▸ counted)
    · have next := Encoder.writeMessage_iff lossless heldAll value
      rwa [advances.sameLimits] at next
  -- A fresh decoder takes the same messages, and finds the others where it stops.
  · obtain ⟨after, taken, kept, moved, read⟩ :=
      Decoder.takeMessages_of_encode { source, limits } encodedFront [] rfl
        (Nat.zero_le _) reaches.1 front
    rw [List.length_take_of_le bounded, List.reverse_nil, List.nil_append] at taken
    rw [whole] at moved read
    have read : after.read = length := read.trans counted
    refine ⟨after, taken, moved, ?_, read, fun value further => ?_⟩
    · rw [moved]
      exact (congrArg (List.drop length) front).trans (whole ▸ List.drop_left)
    · have countable : after.read ≤ wordMax := by
        rw [read, ← counted]
        exact addCount_le_wordMax ..
      rw [Decoder.takeMessage_iff_encode countable, kept]

/-- Three messages that are longer together than one may be, and some bytes behind them. -/
theorem messages_delimited_three :
    let limits : Limits := { messageSize := 6, frameSize := 2, depth := 1 }
    let values : List Value := [.list [], .null, .list []]
    let encodings : List Bytes := [[1, 8, 0, 0, 0, 0], [1, 0], [1, 8, 0, 0, 0, 0]]
    let source : Source := { rest := encodings.flatten ++ [1, 8], grain := fun _ => some 3 }
    (∃ after : Encoder Store, Encoder.writeMessages values { sink := {}, limits } = .ok () after ∧
      after.sink.toBytes = encodings.flatten ∧ after.written = 14) ∧
      ∃ after, Decoder.repeated Decoder.takeMessage 3 [] { source, limits } = .ok values after ∧
        after.source.rest = [1, 8] ∧ after.read = 14 := by
  intro limits values encodings source
  -- The two lists are as long as a message may be, and are written all the same.
  have encoded : List.Forall₂ (fun value bytes => encode value limits = .ok bytes) values
      encodings :=
    .cons (by decide +kernel) (.cons (by decide +kernel) (.cons (by decide +kernel) .nil))
  have reaches : source.Reaches encodings.flatten.length := .inr (by simp [source])
  have empty : Store.Holds {} [] := ⟨rfl, rfl⟩
  have front : source.rest = encodings.flatten ++ [1, 8] := rfl
  have bounded : 3 ≤ values.length := Nat.le_refl 3
  obtain ⟨⟨sent, written, held, countWritten, _⟩, received, taken, _, left, countRead, _⟩ :=
    messages_delimited Store.lossless encoded (by decide) empty front reaches bounded
  exact ⟨⟨sent, written, held.2, countWritten⟩, received, taken, left, countRead⟩

end RemoteCall
