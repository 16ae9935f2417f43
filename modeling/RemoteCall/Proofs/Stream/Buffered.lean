import RemoteCall.Proofs.Stream.Lossless

/-! A buffer keeps the order of what it is given, and gives all of it up in the end. -/

namespace RemoteCall.Buffered

variable {σ : Type} {holds : Holding σ}

/-- The bytes passed on and the bytes still held make up what the buffer was given. -/
def Holds (holds : Holding σ) : Holding (Buffered σ) := fun buffered given =>
  -- Without any capacity, a buffer could never take anything in.
  0 < buffered.capacity ∧
    ∃ passed, holds buffered.inner passed ∧ passed ++ buffered.held.toBytes = given

/-- Bytes that are held come after all that was given before. -/
theorem hold_holds {buffered : Buffered σ} {given : Bytes} (held : Holds holds buffered given)
    (data : Bytes) :
    ∃ after, hold data buffered = .ok () after ∧ Holds holds after (given ++ data) := by
  obtain ⟨positive, passed, inner, rfl⟩ := held
  -- The sink behind the buffer is not touched.
  exact ⟨{ buffered with held := buffered.held.push data }, rfl, positive, passed, inner,
    by simp⟩

/-- A write that bypasses an empty buffer comes after all that was given before. -/
theorem onInner_holds {α : Type} {step : StreamM σ α} {buffered : Buffered σ}
    {given data : Bytes} {answer : α} {inner : σ} (positive : 0 < buffered.capacity)
    (ran : step buffered.inner = .ok answer inner) (empty : buffered.held.toBytes = [])
    (held : holds inner (given ++ data)) :
    ∃ after, onInner step buffered = .ok answer after ∧ Holds holds after (given ++ data) :=
  ⟨{ buffered with inner }, by simp only [onInner, ran], positive, given ++ data, held,
    by simp [empty]⟩

/-- With nothing held, the sink behind the buffer was given everything. -/
theorem inner_of_empty {buffered : Buffered σ} {given : Bytes} (held : Holds holds buffered given)
    (empty : buffered.held.toBytes = []) : holds buffered.inner given := by
  obtain ⟨_, passed, inner, rfl⟩ := held
  -- Nothing is held, so what was passed on is everything.
  simpa [empty] using inner

variable [Sink σ]

/-- Draining passes all of the pending bytes on, in however many writes. -/
theorem drain_holds (lossless : Lossless σ holds) (pending : Bytes) (buffered : Buffered σ)
    (passed : Bytes) (held : holds buffered.inner passed) :
    ∃ inner, drain pending buffered = .ok () { buffered with inner, held := .empty } ∧
      holds inner (passed ++ pending) := by
  -- The induction follows the writes, each of which takes the front off what is pending.
  fun_induction drain (σ := σ) pending generalizing buffered passed with
  -- With nothing pending, only the buffer itself is cleared.
  | case1 => exact ⟨buffered.inner, rfl, by simpa using held⟩
  | case2 byte rest ih =>
    -- The sink takes some of the front, and what it left is drained after that.
    obtain ⟨accepted, between, wrote, positive, bounded, held⟩ :=
      lossless.write buffered.inner passed (byte :: rest) held (by simp)
    obtain ⟨accepted, rfl⟩ := Nat.exists_eq_add_one.mpr positive
    obtain ⟨inner, drained, held⟩ := ih accepted { buffered with inner := between } _ held
    refine ⟨inner, ?_, by simpa using held⟩
    simp only [wrote, drained]

/-- Passing on empties the buffer. -/
theorem passOn_holds (lossless : Lossless σ holds) {buffered : Buffered σ} {given : Bytes}
    (held : Holds holds buffered given) :
    ∃ after, passOn buffered = .ok () after ∧ after.capacity = buffered.capacity ∧
      after.held = .empty ∧ holds after.inner given := by
  obtain ⟨_, passed, held, rfl⟩ := held
  -- What is held is drained behind what was passed on before.
  obtain ⟨inner, drained, held⟩ := drain_holds lossless buffered.held.toBytes buffered passed held
  exact ⟨{ buffered with inner, held := .empty }, drained, rfl, rfl, held⟩

/-- Room is made for a write by passing on what is held, always so if the write is too long. -/
theorem makeRoom_holds (lossless : Lossless σ holds) {buffered : Buffered σ} {given : Bytes}
    (held : Holds holds buffered given) (length : Nat) :
    ∃ after, makeRoom length buffered = .ok (decide (length < buffered.capacity)) after ∧
      Holds holds after given ∧
        (buffered.capacity ≤ length → after.held.toBytes = []) := by
  have positive := held.1
  by_cases full : buffered.capacity - buffered.held.size < length
  · -- What is held would be in the way, so it is passed on first.
    obtain ⟨after, passed, sameCapacity, empty, inner⟩ := passOn_holds lossless held
    refine ⟨after, ?_, ⟨sameCapacity ▸ positive, given, inner, by simp [empty]⟩, by simp [empty]⟩
    simp [makeRoom, full, passed]
  · -- There is room as it is, and nothing moves.
    refine ⟨buffered, ?_, held, fun long => ?_⟩
    · simp [makeRoom, full]
    · -- A write as long as the buffer leaves room only in an empty buffer.
      have nothing : buffered.held.size = 0 := by omega
      rwa [← Gathered.length_toBytes, List.length_eq_zero_iff] at nothing

/-- A buffer takes some of every write. -/
theorem write_holds (lossless : Lossless σ holds) (buffered : Buffered σ) (given data : Bytes)
    (held : Holds holds buffered given) (present : data ≠ []) :
    ∃ accepted after, Buffered.write data buffered = .ok accepted after ∧
      0 < accepted ∧ accepted ≤ data.length ∧ Holds holds after (given ++ data.take accepted) := by
  -- Room is made first, and then the length decides who takes the bytes.
  obtain ⟨between, made, held, empty⟩ := makeRoom_holds lossless held data.length
  by_cases fits : data.length < buffered.capacity
  · -- A short write is held in full.
    obtain ⟨after, kept, held⟩ := hold_holds held data
    refine ⟨data.length, after, ?_, List.length_pos_iff.mpr present, Nat.le_refl _, by simpa⟩
    simp [Buffered.write, made, fits, kept]
  · -- A long one goes past the buffer, and the sink may take a part of it.
    obtain ⟨accepted, inner, wrote, positive, bounded, passed⟩ :=
      lossless.write between.inner given data
        (inner_of_empty held (empty (Nat.not_lt.mp fits))) present
    obtain ⟨after, ran, held⟩ :=
      onInner_holds held.1 wrote (empty (Nat.not_lt.mp fits)) passed
    refine ⟨accepted, after, ?_, positive, bounded, held⟩
    simp [Buffered.write, made, fits, ran]

/-- A buffer takes all of a complete write. -/
theorem writeAll_delivers (lossless : Lossless σ holds) (data : Bytes) :
    Delivers (Holds holds) (Buffered.writeAll (σ := σ) data) data := by
  intro buffered given held
  -- The cases are those of a write, but a long one is now given in full.
  obtain ⟨between, made, held, empty⟩ := makeRoom_holds lossless held data.length
  by_cases fits : data.length < buffered.capacity
  · obtain ⟨after, kept, held⟩ := hold_holds held data
    refine ⟨(), after, ?_, held⟩
    simp [Buffered.writeAll, made, fits, kept]
  · obtain ⟨answer, inner, wrote, passed⟩ :=
      lossless.writeAll data between.inner given
        (inner_of_empty held (empty (Nat.not_lt.mp fits)))
    obtain ⟨after, ran, held⟩ :=
      onInner_holds held.1 wrote (empty (Nat.not_lt.mp fits)) passed
    refine ⟨answer, after, ?_, held⟩
    simp [Buffered.writeAll, made, fits, ran]

/-- Flushing leaves nothing in the buffer, and everything with the sink behind it. -/
theorem flush_holds (lossless : Lossless σ holds) {buffered : Buffered σ} {given : Bytes}
    (held : Holds holds buffered given) :
    ∃ after, Buffered.flush buffered = .ok () after ∧ Holds holds after given ∧
      after.held.toBytes = [] := by
  have positive := held.1
  -- What is held goes first, and only then is the sink behind it flushed.
  obtain ⟨between, passed, sameCapacity, empty, inner⟩ := passOn_holds lossless held
  obtain ⟨_, inner, flushed, held⟩ := lossless.flush between.inner given inner
  have nothing : between.held.toBytes = [] := by simp [empty]
  refine ⟨{ between with inner }, ?_,
    ⟨sameCapacity ▸ positive, given, by simpa using held, by simp [nothing]⟩, nothing⟩
  simp only [Buffered.flush, run_bind, passed, onInner, flushed]

/-- A buffer loses nothing. -/
theorem lossless (lossless : Lossless σ holds) : Lossless (Buffered σ) (Holds holds) where
  write := write_holds lossless
  writeAll := writeAll_delivers lossless
  -- That the buffer is empty afterwards does not matter here.
  flush buffered given held := by
    obtain ⟨after, flushed, held, _⟩ := flush_holds lossless held
    exact ⟨(), after, flushed, by simpa using held⟩

/-- A buffer with nothing in it leaves everything with the sink behind it when it is given up. -/
theorem release_holds {buffered : Buffered σ} {given : Bytes} (held : Holds holds buffered given)
    (empty : buffered.held.toBytes = []) : holds buffered.release given := by
  have inner := inner_of_empty held empty
  -- There is nothing to pass on, so giving the buffer up cannot fail.
  simpa [release, passOn, empty, drain] using inner

end RemoteCall.Buffered
