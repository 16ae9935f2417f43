import RemoteCall.Proofs.Frame.Chunks

/-! What was cut off a buffer, or refused, stays so whatever bytes arrive later. -/

namespace RemoteCall.Packet

variable {α β : Type}

/-- A sequence of cuts is complete exactly when both of them are. -/
theorem cutting_bind_eq_some_iff {first : Cutting α} {next : α → Cutting β} {result : β} :
    (first >>= next).run = .ok (some result) ↔
      ∃ answer, first.run = .ok (some answer) ∧ (next answer).run = .ok (some result) := by
  -- A first cut that is refused or incomplete leaves nothing to the second one.
  rw [OptionT.run_bind]
  rcases first.run with cause | _ | answer
  · constructor
    · intro found
      cases found
    · intro facts
      obtain ⟨_, same, _⟩ := facts
      cases same
  · constructor
    · intro found
      cases found
    · intro facts
      obtain ⟨_, same, _⟩ := facts
      cases same
  · constructor
    · intro found
      exact ⟨answer, rfl, found⟩
    · intro facts
      obtain ⟨_, same, found⟩ := facts
      cases same
      exact found

/-- A sequence of cuts is refused by the first of them, or by the second after the first. -/
theorem cutting_bind_eq_error_iff {first : Cutting α} {next : α → Cutting β} {failure : Failure} :
    (first >>= next).run = .error failure ↔
      first.run = .error failure ∨
        ∃ answer, first.run = .ok (some answer) ∧ (next answer).run = .error failure := by
  -- A first cut that is incomplete is no refusal, and ends the sequence.
  rw [OptionT.run_bind]
  rcases first.run with cause | _ | answer
  · constructor
    · intro found
      cases found
      exact Or.inl rfl
    · intro either
      rcases either with same | ⟨_, same, _⟩
      · cases same
        rfl
      · cases same
  · constructor
    · intro found
      cases found
    · intro either
      rcases either with same | ⟨_, same, _⟩
      · cases same
      · cases same
  · constructor
    · intro found
      exact Or.inr ⟨answer, rfl, found⟩
    · intro either
      rcases either with same | ⟨_, same, found⟩
      · cases same
      · cases same
        exact found

/--
A step that cuts the front off a buffer depends on that front alone.

Whatever follows the front is left, and a refusal stands however much follows.
-/
structure Stable (step : Bytes → Cutting (α × Bytes)) : Prop where
  -- The front is the same whatever comes behind it, and so is the answer.
  complete : ∀ {buffer answer rest}, (step buffer).run = .ok (some (answer, rest)) →
    ∃ front, buffer = front ++ rest ∧
      ∀ other, (step (front ++ other)).run = .ok (some (answer, other))
  -- Bytes that arrive later cannot mend what was wrong.
  refused : ∀ {buffer failure}, (step buffer).run = .error failure →
    ∀ more, (step (buffer ++ more)).run = .error failure

/-- A piece of a known length depends on its own bytes alone. -/
theorem stable_cut (length : Nat) : Stable (cut length) where
  complete := by
    intro buffer piece rest found
    -- A piece is there once its bytes are, and they are at the front.
    obtain ⟨whole, joined⟩ := splitExact?_eq_some (Except.ok.inj found)
    refine ⟨piece, joined.symm, fun other => ?_⟩
    exact congrArg Except.ok (Bytes.splitExact?_append_of_length whole other)
  -- A piece is incomplete at worst.
  refused := by
    intro buffer failure found
    cases found

/-- An answer at hand depends on no bytes at all. -/
theorem stable_pure (answer : α) : Stable fun buffer => pure (answer, buffer) where
  complete := by
    intro buffer found rest done
    cases done
    -- The front is empty, since nothing is cut off.
    exact ⟨[], rfl, fun other => rfl⟩
  refused := by
    intro buffer failure done
    cases done

/-- Two steps, one after the other, depend on the two fronts that they cut off. -/
theorem Stable.bind {first : Bytes → Cutting (α × Bytes)} {next : α × Bytes → Cutting (β × Bytes)}
    (stable : Stable first) (stableNext : ∀ answer, Stable fun rest => next (answer, rest)) :
    Stable fun buffer => first buffer >>= next where
  complete := by
    intro buffer result rest found
    obtain ⟨⟨answer, between⟩, ran, ranNext⟩ := cutting_bind_eq_some_iff.mp found
    obtain ⟨front, rfl, again⟩ := stable.complete ran
    obtain ⟨back, rfl, againNext⟩ := (stableNext answer).complete ranNext
    -- The front of the sequence is made up of the two.
    refine ⟨front ++ back, (List.append_assoc ..).symm, fun other => ?_⟩
    rw [List.append_assoc]
    exact cutting_bind_eq_some_iff.mpr ⟨_, again _, againNext other⟩
  refused := by
    intro buffer failure found more
    apply cutting_bind_eq_error_iff.mpr
    -- Either the first step was refused, or the second one behind its front.
    rcases cutting_bind_eq_error_iff.mp found with early | ⟨⟨answer, between⟩, ran, late⟩
    · exact Or.inl (stable.refused early more)
    · -- The first step goes through as before, and leaves more bytes to the second one.
      obtain ⟨front, rfl, again⟩ := stable.complete ran
      rw [List.append_assoc]
      exact Or.inr ⟨_, again _, (stableNext answer).refused late more⟩

/-- A check that does not look at the buffer may come before a step. -/
theorem Stable.check {next : α → Bytes → Cutting (β × Bytes)} (check : Except Failure α)
    (stable : ∀ answer, Stable fun buffer => next answer buffer) :
    Stable fun buffer => OptionT.lift check >>= fun answer => next answer buffer := by
  -- The check comes to the same before any buffer.
  cases check with
  | ok answer => exact stable answer
  | error failure =>
    constructor
    · intro buffer result rest found
      cases found
    · intro buffer cause found more
      exact found

/-- The chunks of a body depend on their own bytes alone. -/
theorem stable_cutChunks (limits : Limits) (joined : Gathered) :
    Stable fun buffer => OptionT.mk (cutChunks limits joined buffer) where
  complete := by
    intro buffer body rest found
    change cutChunks limits joined buffer = _ at found
    show ∃ front, buffer = front ++ rest ∧
      ∀ other, cutChunks limits joined (front ++ other) = .ok (some (body, other))
    -- The induction follows the chunks that were cut off the first buffer.
    fun_induction cutChunks limits joined buffer with
    | case1 | case3 | case4 | case5 => cases found
    -- The empty chunk ends the body, and its field is the front.
    | case2 joined buffer field after split length last =>
      cases found
      obtain ⟨whole, rfl⟩ := splitExact?_eq_some split
      refine ⟨field, rfl, fun other => ?_⟩
      rw [cutChunks_of_field (Bytes.splitExact?_append_of_length whole other), if_pos last]
    -- A chunk is cut off, and the front goes on with those behind it.
    | case6 joined buffer field after split length more framed fits chunk between splitChunk ih =>
      obtain ⟨whole, rfl⟩ := splitExact?_eq_some split
      obtain ⟨wholeChunk, rfl⟩ := splitExact?_eq_some splitChunk
      obtain ⟨front, rfl, again⟩ := ih found
      refine ⟨field ++ (chunk ++ front), by simp, fun other => ?_⟩
      simp only [List.append_assoc]
      rw [cutChunks_of_field (Bytes.splitExact?_append_of_length whole _), if_neg more]
      simp only [length] at framed fits wholeChunk
      rw [framed, fits]
      simp only [Bytes.splitExact?_append_of_length wholeChunk, again]
  refused := by
    intro buffer failure found more
    change cutChunks limits joined buffer = _ at found
    show cutChunks limits joined (buffer ++ more) = _
    -- A refusal is met at some length field, which stays where it is.
    fun_induction cutChunks limits joined buffer with
    | case1 | case2 | case5 => cases found
    -- The length is over the ceiling of chunks.
    | case3 joined buffer field after split length positive cause framed =>
      rw [cutChunks_of_field (Bytes.splitExact?_append_right split more), if_neg positive, framed]
      exact found
    -- The chunks together are over the ceiling of messages.
    | case4 joined buffer field after split length positive cause framed fits =>
      rw [cutChunks_of_field (Bytes.splitExact?_append_right split more), if_neg positive, framed,
        fits]
      exact found
    -- This chunk was passed, and the refusal lies further on.
    | case6 joined buffer field after split length positive framed fits chunk between further ih =>
      rw [cutChunks_of_field (Bytes.splitExact?_append_right split more), if_neg positive, framed,
        fits]
      have extended := Bytes.splitExact?_append_right further more
      simp only [length] at extended
      simp only [extended]
      exact ih found

/-- A frame depends on its own bytes alone. -/
theorem stable_cutFrame (limits : Limits) : Stable (cutFrame limits) := by
  rw [funext (cutFrame_eq limits)]
  -- The fixed part comes first, and tells how long the path is.
  refine (stable_cut fixedHeaderLength).bind fun fixed => ?_
  refine Stable.check (Header.ofBytes fixed) fun header => ?_
  -- The path comes next, and has to be a string.
  refine (stable_cut header.pathLength).bind fun octets => ?_
  refine Stable.check (pathOfBytes octets) fun path => ?_
  -- The flags tell which form the body has.
  cases chunked : header.chunked with
  | true =>
    simp only [if_true]
    exact (stable_cutChunks limits .empty).bind fun body =>
      stable_pure (Packet.mk path header.compression body)
  | false =>
    simp only [Bool.false_eq_true, if_false]
    -- The length is checked before the body is waited for.
    refine (stable_cut 4).bind fun field => ?_
    refine Stable.check (limits.checkMessage (Bytes.toNatBE field)) fun _ => ?_
    exact (stable_cut (Bytes.toNatBE field)).bind fun body =>
      stable_pure (Packet.mk path header.compression body)

variable {limits : Limits} {buffer : Bytes}

/-- A packet is parsed exactly when its frame is cut off, and consumes what the cut takes off. -/
theorem parse_eq_some_iff {packet : Packet} {consumed : Nat} :
    parse buffer limits = .ok (some (packet, consumed)) ↔
      ∃ rest, (cutFrame limits buffer).run = .ok (some (packet, rest)) ∧
        buffer.length - rest.length = consumed := by
  -- Only a complete cut gives a packet.
  unfold parse
  rcases (cutFrame limits buffer).run with failure | _ | ⟨found, rest⟩
  · simp [bind, Except.bind]
  · simp [bind, Except.bind, pure, Except.pure]
  · simp [bind, Except.bind, pure, Except.pure]

/-- Nothing is parsed exactly when the frame is not complete. -/
theorem parse_eq_none_iff :
    parse buffer limits = .ok none ↔ (cutFrame limits buffer).run = .ok none := by
  unfold parse
  rcases (cutFrame limits buffer).run with failure | _ | ⟨found, rest⟩
  · simp [bind, Except.bind]
  · simp [bind, Except.bind, pure, Except.pure]
  · simp [bind, Except.bind, pure, Except.pure]

/-- A buffer is refused by parsing exactly when it is refused by cutting. -/
theorem parse_eq_error_iff {failure : Failure} :
    parse buffer limits = .error failure ↔ (cutFrame limits buffer).run = .error failure := by
  unfold parse
  rcases (cutFrame limits buffer).run with cause | _ | ⟨found, rest⟩
  · simp [bind, Except.bind]
  · simp [bind, Except.bind, pure, Except.pure]
  · simp [bind, Except.bind, pure, Except.pure]

end RemoteCall.Packet
