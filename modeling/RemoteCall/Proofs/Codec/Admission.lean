import RemoteCall.Codec.Encoder

/-! What the ceilings admit, said of all parts of a message at once. -/

namespace RemoteCall

/-- Counting in two steps is counting in one. -/
theorem addCount_addCount (count first second : Nat) :
    addCount (addCount count first) second = addCount count (first + second) := by
  -- A count that has reached the greatest word stays there, however it got there.
  unfold addCount
  omega

/-- No running count passes the greatest word. -/
theorem addCount_le_wordMax (count more : Nat) : addCount count more ≤ wordMax :=
  Nat.min_le_right ..

/-- Counting nothing changes nothing. -/
theorem addCount_zero {count : Nat} (bounded : count ≤ wordMax) : addCount count 0 = count :=
  Nat.min_eq_left bounded

/-- A count that starts at nothing is what was counted, if a word can tell that. -/
theorem zero_addCount {count : Nat} (bounded : count ≤ wordMax) : addCount 0 count = count := by
  rw [addCount, Nat.zero_add]
  exact Nat.min_eq_left bounded

/-- A count only grows. -/
theorem addCount_mono (count : Nat) {first second : Nat} (le : first ≤ second) :
    addCount count first ≤ addCount count second := by
  -- Cutting two sums off at the same word keeps their order.
  unfold addCount
  omega

namespace Part

/-- A part respects the ceiling of its own kind. -/
def Within (limits : Limits) : Part → Prop
  -- A container at some depth needs room for one more below that depth.
  | .enter depth => depth < limits.depth
  -- Bytes as they are have no ceiling but that of the message.
  | .raw _ => True
  -- The ceiling may be greater than what a length field can hold.
  | .length count => count ≤ limits.frameSize ∧ count ≤ Encoder.lengthMax

/-- The bytes of parts, one after the other. -/
def images (parts : List Part) : Bytes := (parts.map image).flatten

@[simp] theorem images_nil : images [] = [] := rfl

@[simp] theorem images_cons (part : Part) (parts : List Part) :
    images (part :: parts) = part.image ++ images parts := rfl

@[simp] theorem images_append (front back : List Part) :
    images (front ++ back) = images front ++ images back := by
  -- The parts are written in order, so two stretches of them are written in order, too.
  simp [images]

end Part

/-- The ceilings let parts go out when the message already has so many bytes. -/
structure Limits.Admits (limits : Limits) (size : Nat) (parts : List Part) : Prop where
  /-- Every part respects the ceiling of its own kind. -/
  within : ∀ part ∈ parts, part.Within limits
  /-- All of them together respect the ceiling of the message. -/
  bounded : addCount size (Part.images parts).length ≤ limits.messageSize

namespace Limits

variable {limits : Limits} {size : Nat}

/-- A message that respects its ceiling does so without further parts. -/
theorem admits_nil (small : size ≤ wordMax) (fits : size ≤ limits.messageSize) :
    limits.Admits size [] where
  within := by simp
  -- Counting nothing leaves a count as it is only if it is a word.
  bounded := by simpa [addCount_zero small] using fits

/-- Parts are admitted in one go exactly when they are admitted in two. -/
theorem admits_append {front back : List Part} :
    limits.Admits size (front ++ back) ↔
      limits.Admits size front ∧
        limits.Admits (addCount size (Part.images front).length) back := by
  constructor
  · intro facts
    obtain ⟨within, bounded⟩ := facts
    rw [Part.images_append, List.length_append] at bounded
    -- The first stretch is no longer than both, and the second one is counted after it.
    refine ⟨⟨fun part member => within part (by simp [member]), ?_⟩,
      ⟨fun part member => within part (by simp [member]), ?_⟩⟩
    · exact Nat.le_trans (addCount_mono size (Nat.le_add_right ..)) bounded
    · rwa [addCount_addCount]
  · intro facts
    obtain ⟨⟨withinFront, _⟩, ⟨withinBack, bounded⟩⟩ := facts
    refine ⟨fun part member => ?_, ?_⟩
    · -- A part is in one of the two stretches; their bytes are counted together.
      rcases List.mem_append.mp member with member | member
      · exact withinFront part member
      · exact withinBack part member
    · rwa [Part.images_append, List.length_append, ← addCount_addCount]

/-- Parts are admitted exactly when the first one is, and the others after it. -/
theorem admits_cons {part : Part} {parts : List Part} :
    limits.Admits size (part :: parts) ↔
      limits.Admits size [part] ∧ limits.Admits (addCount size part.image.length) parts := by
  -- One part in front is a stretch of its own.
  rw [← List.singleton_append, admits_append]
  simp

end Limits

end RemoteCall
