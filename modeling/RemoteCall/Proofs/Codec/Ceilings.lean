import RemoteCall.Proofs.Codec.Encoding
import RemoteCall.Proofs.Codec.WireForm

/-! The ceilings decide which values are encoded, and a refusal names one that a value exceeds. -/

namespace RemoteCall

namespace Value

/-- A value respects all three ceilings. -/
structure Within (limits : Limits) (value : Value) : Prop where
  /-- The whole message is no longer than a message may be. -/
  message : value.wireImage.length ≤ limits.messageSize
  /-- No length or count in it is more than an item may have, or than four octets can tell. -/
  items : ∀ count ∈ value.lengths, count ≤ min limits.frameSize (2 ^ 32 - 1)
  /-- No more containers lie inside one another than may. -/
  depth : value.nesting ≤ limits.depth

instance (limits : Limits) (value : Value) : Decidable (value.Within limits) :=
  decidable_of_iff
    (value.wireImage.length ≤ limits.messageSize ∧
      (∀ count ∈ value.lengths, count ≤ min limits.frameSize (2 ^ 32 - 1)) ∧
      value.nesting ≤ limits.depth)
    ⟨fun ⟨message, items, depth⟩ => ⟨message, items, depth⟩,
      fun within => ⟨within.message, within.items, within.depth⟩⟩

/-- A value exceeds a ceiling, by as much as one of its measures tells. -/
inductive Exceeds (limits : Limits) (value : Value) : Ceiling → Nat → Nat → Prop where
  /-- Some of the message is more than a message may be. -/
  | message {size : Nat} (exceeded : limits.messageSize < size)
      (part : size ≤ value.wireImage.length) :
      Exceeds limits value .messageSize limits.messageSize size
  /-- A length or a count in it is more than an item may have, or than four octets can tell. -/
  | items {limit count : Nat} (known : limit = limits.frameSize ∨ limit = 2 ^ 32 - 1)
      (exceeded : limit < count) (occurs : count ∈ value.lengths) :
      Exceeds limits value .frameSize limit count
  /-- As many containers lie inside one another, which are more than may. -/
  | depth {levels : Nat} (exceeded : limits.depth < levels) (nested : levels ≤ value.nesting) :
      Exceeds limits value .recursionDepth limits.depth levels

variable {limits : Limits} {value : Value}

/-- Whatever exceeds a ceiling is more than the ceiling. -/
theorem Exceeds.limit_lt {ceiling : Ceiling} {limit actual : Nat}
    (exceeds : value.Exceeds limits ceiling limit actual) : limit < actual := by
  cases exceeds with
  | message exceeded => exact exceeded
  | items _ exceeded => exact exceeded
  | depth exceeded => exact exceeded

/-- What exceeds a ceiling can be counted where the message can. -/
theorem Exceeds.actual_le {ceiling : Ceiling} {limit actual : Nat}
    (exceeds : value.Exceeds limits ceiling limit actual) : actual ≤ value.wireImage.length := by
  -- The message has one byte more than the value, which holds its lengths and its containers.
  cases exceeds with
  | message _ part => exact part
  | items _ _ occurs => exact Nat.le_succ_of_le (le_wire_of_mem_lengths value occurs)
  | depth _ nested => exact Nat.le_succ_of_le (Nat.le_trans nested (nesting_le_wire value))

/-- The parts of a message respect their own ceilings exactly when the value respects those two. -/
theorem messageParts_within_iff :
    (∀ part ∈ value.messageParts, part.Within limits) ↔
      (∀ count ∈ value.lengths, count ≤ min limits.frameSize (2 ^ 32 - 1)) ∧
        value.nesting ≤ limits.depth := by
  constructor
  · intro within
    refine ⟨fun count occurs => ?_, ?_⟩
    · -- A length that occurs in the value is written.
      have member := (length_mem_parts 0 count value).mpr occurs
      exact Nat.le_min.mpr (within _ (List.mem_cons_of_mem _ member))
    · -- The innermost container is entered.
      by_contra deep
      have member := (enter_mem_parts 0 limits.depth value).mpr ⟨Nat.zero_le _, by omega⟩
      exact Nat.lt_irrefl _ (within _ (List.mem_cons_of_mem _ member))
  · rintro ⟨items, shallow⟩ part member
    rcases List.mem_cons.mp member with rfl | member
    · trivial
    · cases part with
      | enter level =>
        obtain ⟨_, nested⟩ := (enter_mem_parts 0 level value).mp member
        have below : level < limits.depth := by omega
        exact below
      | raw data => trivial
      | length count =>
        exact Nat.le_min.mp (items count ((length_mem_parts 0 count value).mp member))

/-- The ceilings admit a message exactly when its value respects them. -/
theorem admits_iff_within (small : value.wireImage.length ≤ wordMax) :
    limits.Admits 0 value.messageParts ↔ value.Within limits := by
  -- A message that a word can count is counted as it is.
  have counted : addCount 0 (Part.images value.messageParts).length = value.wireImage.length := by
    have spelled : Part.images value.messageParts = value.wireImage := image_eq_wireImage value
    rw [spelled, addCount, Nat.zero_add]
    exact Nat.min_eq_left small
  constructor
  · intro admitted
    obtain ⟨items, shallow⟩ := messageParts_within_iff.mp admitted.within
    exact ⟨counted ▸ admitted.bounded, items, shallow⟩
  · intro within
    exact ⟨messageParts_within_iff.mpr ⟨within.items, within.depth⟩, counted ▸ within.message⟩

end Value

/-- Encoding succeeds exactly for values that respect the ceilings, with the form of the grammar. -/
theorem encode_eq_ok_iff_within {limits : Limits} {value : Value}
    (small : value.wireImage.length ≤ wordMax) {bytes : Bytes} :
    encode value limits = .ok bytes ↔ value.Within limits ∧ bytes = value.wireImage := by
  rw [encode_eq_ok_iff, Value.admits_iff_within small, Value.image_eq_wireImage]

/-- A value that respects ceilings is encoded, if a word can count as many bytes as they allow. -/
theorem encode_of_within {limits : Limits} {value : Value} (within : value.Within limits)
    (modest : limits.messageSize ≤ wordMax) : encode value limits = .ok value.wireImage :=
  (encode_eq_ok_iff_within (Nat.le_trans within.message modest)).mpr ⟨within, rfl⟩

/-! What is refused is refused by a ceiling that a part of the message passes. -/

/-- A ceiling keeps a part out of a message that has so many bytes. -/
inductive Part.Refused (limits : Limits) (size : Nat) : Part → Ceiling → Nat → Nat → Prop where
  /-- A container would lie inside as many others as may lie inside one another. -/
  | deep {depth : Nat} (full : limits.depth ≤ depth) :
      Refused limits size (.enter depth) .recursionDepth limits.depth (depth + 1)
  /-- A length is more than an item may have. -/
  | long {count : Nat} (exceeded : limits.frameSize < count) :
      Refused limits size (.length count) .frameSize limits.frameSize count
  /-- A length is more than four octets can tell. -/
  | wide {count : Nat} (exceeded : Encoder.lengthMax < count) :
      Refused limits size (.length count) .frameSize Encoder.lengthMax count
  /-- The message would be longer than a message may be. -/
  | large {part : Part} (exceeded : limits.messageSize < addCount size part.image.length) :
      Refused limits size part .messageSize limits.messageSize (addCount size part.image.length)

namespace Encoder

variable {σ : Type} [Sink σ] {holds : Holding σ} {encoder after : Encoder σ} {given : Bytes}
  {failure : Failure}

/-- What is not put onto a sink that loses nothing would make the message too long. -/
theorem put_eq_error (lossless : Lossless σ holds) (held : holds encoder.sink given)
    {data : Bytes} (failed : put data encoder = .error failure after) :
    encoder.limits.messageSize < addCount encoder.messageSize data.length ∧
      failure = .limitExceeded .messageSize encoder.limits.messageSize
        (addCount encoder.messageSize data.length) := by
  by_cases fits : addCount encoder.messageSize data.length ≤ encoder.limits.messageSize
  · obtain ⟨_, done, _⟩ := put_of_fits lossless held data fits
    rw [done] at failed
    cases failed
  · have exceeded := Nat.not_le.mp fits
    simp only [put, if_pos exceeded] at failed
    cases failed
    exact ⟨exceeded, rfl⟩

/-- A part that does not go out to a sink that loses nothing is kept out by a ceiling. -/
theorem perform_eq_error (lossless : Lossless σ holds) (held : holds encoder.sink given)
    {part : Part} (failed : perform part encoder = .error failure after) :
    ∃ ceiling limit actual, failure = .limitExceeded ceiling limit actual ∧
      part.Refused encoder.limits encoder.messageSize ceiling limit actual := by
  cases part with
  | enter depth =>
    by_cases full : encoder.limits.depth ≤ depth
    · simp only [perform, run_bind, run_get, full, if_true, run_throw] at failed
      cases failed
      exact ⟨_, _, _, rfl, .deep full⟩
    · simp [perform, full] at failed
  | raw data =>
    obtain ⟨exceeded, rfl⟩ := put_eq_error lossless held failed
    exact ⟨_, _, _, rfl, .large exceeded⟩
  | length count =>
    -- The two checks of a length come before its octets.
    by_cases long : encoder.limits.frameSize < count
    · simp only [perform, run_bind, run_get, long, if_true, run_throw] at failed
      cases failed
      exact ⟨_, _, _, rfl, .long long⟩
    · by_cases wide : lengthMax < count
      · simp only [perform, run_bind, run_get, long, wide, if_true, if_false, run_throw] at failed
        cases failed
        exact ⟨_, _, _, rfl, .wide wide⟩
      · simp only [perform, run_bind, run_get, long, wide, if_false] at failed
        obtain ⟨exceeded, rfl⟩ := put_eq_error lossless held failed
        exact ⟨_, _, _, rfl, .large exceeded⟩

/-- Of parts that do not all go out, the first that is kept out tells why. -/
theorem performAll_eq_error (lossless : Lossless σ holds) (steady : encoder.Steady)
    (held : holds encoder.sink given) {parts : List Part}
    (failed : performAll parts encoder = .error failure after) :
    ∃ front part back ceiling limit actual, parts = front ++ part :: back ∧
      failure = .limitExceeded ceiling limit actual ∧
        part.Refused encoder.limits (addCount encoder.messageSize (Part.images front).length)
          ceiling limit actual := by
  -- The induction follows the parts; the count that is reached grows with each that went out.
  induction parts generalizing encoder given with
  | nil => cases failed
  | cons part parts ih =>
    rcases run_bind_eq_error_iff.mp failed with first | ⟨_, between, first, rest⟩
    · obtain ⟨ceiling, limit, actual, rfl, refused⟩ := perform_eq_error lossless held first
      refine ⟨[], part, parts, ceiling, limit, actual, rfl, rfl, ?_⟩
      rwa [Part.images_nil, List.length_nil, addCount_zero steady.small]
    · obtain ⟨admitted, sameLimits, counted⟩ := perform_eq_ok steady first
      -- A part that went out to the sink is held by it.
      obtain ⟨_, done, heldNow, _⟩ := perform_of_admits lossless held steady admitted
      rw [first] at done
      cases done
      obtain ⟨front, other, back, ceiling, limit, actual, rfl, rfl, refused⟩ :=
        ih (steady_of_admits admitted sameLimits counted) heldNow rest
      refine ⟨part :: front, other, back, ceiling, limit, actual, rfl, rfl, ?_⟩
      rwa [sameLimits, counted, addCount_addCount, ← List.length_append] at refused

end Encoder

variable {limits : Limits} {value : Value} {failure : Failure}

/-- An encoding that fails tells of the first part that a ceiling keeps out. -/
theorem encode_eq_error (failed : encode value limits = .error failure) :
    ∃ front part back ceiling limit actual, value.messageParts = front ++ part :: back ∧
      failure = .limitExceeded ceiling limit actual ∧
        part.Refused limits (addCount 0 (Part.images front).length) ceiling limit actual := by
  let start : Encoder Store := { sink := {}, limits }
  have held : Store.Holds start.sink [] := ⟨rfl, rfl⟩
  have steady : start.Steady := ⟨Nat.zero_le _, Nat.zero_le _⟩
  -- Only the parts can fail: a store is flushed without further ado.
  cases performed : Encoder.performAll value.messageParts start with
  | ok answer between =>
    have written : encode value limits = .ok between.sink.toBytes := by
      simp only [start] at performed
      simp only [encode, Encoder.writeMessage, run_bind, run_modify, performed, Encoder.flush]
      rfl
    rw [written] at failed
    cases failed
  | error cause between =>
    have refused : encode value limits = .error cause := by
      simp only [start] at performed
      simp only [encode, Encoder.writeMessage, run_bind, run_modify, performed]
    rw [refused] at failed
    cases failed
    exact Encoder.performAll_eq_error Store.lossless steady held performed

/-- A part of a message that a ceiling keeps out shows that the value exceeds that ceiling. -/
theorem Value.exceeds_of_refused {front back : List Part} {part : Part} {ceiling : Ceiling}
    {limit actual : Nat} (spelled : value.messageParts = front ++ part :: back)
    (refused : part.Refused limits (addCount 0 (Part.images front).length) ceiling limit actual) :
    value.Exceeds limits ceiling limit actual := by
  have member : part ∈ .raw [wireVersion] :: value.parts 0 := by
    change part ∈ value.messageParts
    simp [spelled]
  cases refused with
  | deep full =>
    -- The version is no container, so the container is one of the value.
    have inside := (List.mem_cons.mp member).resolve_left (by simp)
    obtain ⟨_, nested⟩ := (enter_mem_parts 0 _ value).mp inside
    exact .depth (by omega) (by omega)
  | long exceeded =>
    have inside := (List.mem_cons.mp member).resolve_left (by simp)
    exact .items (.inl rfl) exceeded ((length_mem_parts 0 _ value).mp inside)
  | wide exceeded =>
    have inside := (List.mem_cons.mp member).resolve_left (by simp)
    exact .items (.inr rfl) exceeded ((length_mem_parts 0 _ value).mp inside)
  | large exceeded =>
    -- What was counted is the front of the message, up to the part that is too much.
    have whole : value.wireImage.length =
        (Part.images front).length + (part.image.length + (Part.images back).length) := by
      have images : Part.images value.messageParts = value.wireImage := image_eq_wireImage value
      rw [← images, spelled]
      simp
    refine .message exceeded ?_
    rw [addCount_addCount, addCount]
    omega

/--
The ceilings decide whether a value is encoded.

It is encoded exactly when its message is no longer than a message may be, every length and count
in it can be told, and no more containers lie inside one another than may; the bytes are then those
of the grammar. Otherwise the failure names a ceiling that the value exceeds, and by how much.
-/
theorem encode_decided (value : Value) (limits : Limits)
    (small : value.wireImage.length < 2 ^ 64) :
    (∀ bytes, encode value limits = .ok bytes ↔ value.Within limits ∧ bytes = value.wireImage) ∧
      (¬ value.Within limits → ∃ ceiling limit actual,
        encode value limits = .error (.limitExceeded ceiling limit actual) ∧ limit < actual ∧
          value.Exceeds limits ceiling limit actual) := by
  have countable : value.wireImage.length ≤ wordMax := Nat.le_pred_of_lt small
  refine ⟨fun bytes => encode_eq_ok_iff_within countable, fun beyond => ?_⟩
  cases encoded : encode value limits with
  | ok bytes => exact absurd ((encode_eq_ok_iff_within countable).mp encoded).1 beyond
  | error failure =>
    obtain ⟨front, part, back, ceiling, limit, actual, spelled, rfl, refused⟩ :=
      encode_eq_error encoded
    have exceeds := Value.exceeds_of_refused spelled refused
    exact ⟨ceiling, limit, actual, rfl, exceeds.limit_lt, exceeds⟩

/-- A value is encoded under ceilings that it just respects, and not with one byte less. -/
theorem encode_decided_nested :
    let value : Value := .object "P" [("k", .array "i" [.int (-1), .null]), ("k", .float ⟨1⟩)]
    let tight : Limits := { messageSize := 50, frameSize := 2, depth := 2 }
    let tighter : Limits := { tight with messageSize := 49 }
    value.wireImage.length < 2 ^ 64 ∧ value.Within tight ∧ ¬ value.Within tighter ∧
      encode value tight = .ok value.wireImage ∧ ∃ ceiling limit actual,
        encode value tighter = .error (.limitExceeded ceiling limit actual) ∧ limit < actual ∧
          value.Exceeds tighter ceiling limit actual := by
  intro value tight tighter
  have small : value.wireImage.length < 2 ^ 64 := by decide
  have within : value.Within tight := by decide
  have beyond : ¬ value.Within tighter := by decide
  exact ⟨small, within, beyond, ((encode_decided value tight small).1 _).mpr ⟨within, rfl⟩,
    (encode_decided value tighter small).2 beyond⟩

end RemoteCall
