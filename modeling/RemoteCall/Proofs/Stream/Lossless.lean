import Mathlib.Algebra.Ring.Nat
import RemoteCall.Proofs.Steps
import RemoteCall.Stream.Buffered
import RemoteCall.Stream.Throttled

/-! Sinks that take everything they are given, alone or behind a buffer or a budget. -/

namespace RemoteCall

/-- A relation between a sink and the bytes that it was given so far. -/
abbrev Holding (σ : Type) :=
  -- What was given cannot be read off a sink that has passed it on.
  σ → Bytes → Prop

/-- A step succeeds on every sink, and gives it exactly these bytes. -/
def Delivers {ε σ α : Type} (holds : Holding σ) (step : EStateM ε σ α) (data : Bytes) : Prop :=
  -- Whatever came before stays in front of what this step adds.
  ∀ sink given, holds sink given →
    ∃ answer after, step sink = .ok answer after ∧ holds after (given ++ data)

/-- A step that touches nothing gives nothing. -/
theorem Delivers.pure {ε σ α : Type} {holds : Holding σ} (answer : α) :
    Delivers holds (Pure.pure answer : EStateM ε σ α) [] := by
  -- The sink stays as it is.
  intro sink given held
  exact ⟨answer, sink, rfl, by simpa using held⟩

/-- Steps in sequence give the bytes of the first and then those of the second. -/
theorem Delivers.bind {ε σ α β : Type} {holds : Holding σ} {first : EStateM ε σ α}
    {next : α → EStateM ε σ β} {front back : Bytes} (gives : Delivers holds first front)
    (givesNext : ∀ answer, Delivers holds (next answer) back) :
    Delivers holds (first >>= next) (front ++ back) := by
  intro sink given held
  -- The second step finds the sink as the first one left it.
  obtain ⟨answer, between, ran, held⟩ := gives sink given held
  obtain ⟨result, after, ranNext, held⟩ := givesNext answer between _ held
  refine ⟨result, after, ?_, by simpa using held⟩
  simp only [run_bind, ran, ranNext]

/-- A sink never fails, takes some of every write, and all of a complete one. -/
structure Lossless (σ : Type) [Sink σ] (holds : Holding σ) : Prop where
  -- A write may be short, but it gives some of what it was handed.
  write : ∀ sink given data, holds sink given → data ≠ [] →
    ∃ accepted after, Sink.write data sink = .ok accepted after ∧
      0 < accepted ∧ accepted ≤ data.length ∧ holds after (given ++ data.take accepted)
  -- A complete write may be longer than one write, and leaves nothing out.
  writeAll : ∀ data, Delivers holds (Sink.writeAll (σ := σ) data) data
  -- Flushing adds nothing.
  flush : Delivers holds (Sink.flush (σ := σ)) []

/-- Writing until everything is accepted gives everything, if every write is accepted in part. -/
theorem writeAllWith_delivers {σ : Type} {holds : Holding σ} {write : Bytes → StreamM σ Nat}
    (accepts : ∀ sink given data, holds sink given → data ≠ [] →
      ∃ accepted after, write data sink = .ok accepted after ∧
        0 < accepted ∧ accepted ≤ data.length ∧ holds after (given ++ data.take accepted))
    (data : Bytes) : Delivers holds (writeAllWith write data) data := by
  -- The induction follows the writes, each of which shortens what is left.
  fun_induction writeAllWith write data with
  -- Nothing is left to write.
  | case1 => exact Delivers.pure ()
  | case2 byte rest ih =>
    intro sink given held
    -- One write accepts at least one byte.
    obtain ⟨accepted, between, wrote, positive, bounded, held⟩ :=
      accepts sink given (byte :: rest) held (by simp)
    obtain ⟨accepted, rfl⟩ := Nat.exists_eq_add_one.mpr positive
    -- What was not accepted is written next, and with it the sequence is complete.
    obtain ⟨_, after, wroteRest, held⟩ := ih accepted between _ held
    refine ⟨(), after, ?_, ?_⟩
    · simp only [run_bind, wrote, wroteRest]
    · simpa using held

/-- Bytes given before do not matter to what a sink takes. -/
theorem Lossless.behind {σ : Type} [Sink σ] {holds : Holding σ} (lossless : Lossless σ holds)
    (start : Bytes) : Lossless σ fun sink given => holds sink (start ++ given) where
  write sink given data held present := by
    simpa using lossless.write sink (start ++ given) data held present
  writeAll data sink given held := by
    simpa using lossless.writeAll data sink (start ++ given) held
  flush sink given held := by
    simpa using lossless.flush sink (start ++ given) held

/-! A store without a capacity. -/

/-- The store has no capacity and holds exactly these bytes. -/
def Store.Holds : Holding Store := fun store given =>
  -- Only a capacity could make the store refuse anything.
  store.capacity = none ∧ store.toBytes = given

/-- An unbounded store takes every write in full. -/
theorem Store.write_holds (store : Store) (given data : Bytes) (held : Store.Holds store given)
    (present : data ≠ []) :
    ∃ accepted after, Store.write data store = .ok accepted after ∧
      0 < accepted ∧ accepted ≤ data.length ∧ Store.Holds after (given ++ data.take accepted) := by
  obtain ⟨unbounded, rfl⟩ := held
  have positive := List.length_pos_iff.mpr present
  -- Without a capacity the store accepts as much as it is given.
  refine ⟨data.length, { store with held := store.held.push data }, ?_, positive, Nat.le_refl _,
    unbounded, ?_⟩
  · simp [Store.write, Store.accepts, unbounded, present]
  · simp [Store.toBytes]

/-- An unbounded store takes everything. -/
theorem Store.lossless : Lossless Store Store.Holds where
  write := Store.write_holds
  writeAll := writeAllWith_delivers Store.write_holds
  flush := Delivers.pure ()

/-! A sink behind a budget. -/

namespace Throttled

variable {σ : Type} [Sink σ] {holds : Holding σ}

/-- The sink behind the budget was given these bytes, and they were charged since a certain sum. -/
def Holds (holds : Holding σ) (before : Nat) : Holding (Throttled σ) := fun throttled given =>
  -- The budget was charged for exactly what went through.
  holds throttled.inner given ∧ throttled.charges.sum = before + given.length

/-- A write passes on as much as it charges for. -/
theorem write_holds (lossless : Lossless σ holds) (before : Nat) (throttled : Throttled σ)
    (given data : Bytes) (held : Holds holds before throttled given) (present : data ≠ []) :
    ∃ accepted after, Throttled.write data throttled = .ok accepted after ∧
      0 < accepted ∧ accepted ≤ data.length ∧
        Holds holds before after (given ++ data.take accepted) := by
  obtain ⟨held, charged⟩ := held
  have positive := List.length_pos_iff.mpr present
  -- At least one byte is allowed at a time, however small the budget.
  have slice : 0 < throttled.slice := Nat.le_max_left ..
  have length : (data.take throttled.slice).length = min throttled.slice data.length :=
    List.length_take
  -- The slice is charged for, and then the sink behind the budget takes all of it.
  obtain ⟨answer, inner, wrote, held⟩ :=
    lossless.writeAll (data.take throttled.slice) throttled.inner given held
  refine ⟨(data.take throttled.slice).length,
    { throttled with
      inner, charges := (data.take throttled.slice).length :: throttled.charges },
    ?_, ?_, ?_, ?_, ?_⟩
  -- There is something to write, so the budget is asked.
  · have some : data.isEmpty = false := by simpa using present
    simp [Throttled.write, some, onInner, wrote]
  · omega
  · omega
  · rw [length]
    rwa [List.take_eq_take_min] at held
  · simp only [List.sum_cons, List.length_append, List.length_take]
    omega

/-- A budget withholds nothing. -/
theorem lossless (lossless : Lossless σ holds) (before : Nat) :
    Lossless (Throttled σ) (Holds holds before) where
  write := write_holds lossless before
  writeAll := writeAllWith_delivers (write_holds lossless before)
  -- A flush is passed on without a charge.
  flush throttled given held := by
    obtain ⟨answer, inner, flushed, after⟩ := lossless.flush throttled.inner given held.1
    refine ⟨answer, { throttled with inner }, ?_, after, by simpa using held.2⟩
    simp only [Sink.flush, onInner, flushed]

end Throttled

end RemoteCall
