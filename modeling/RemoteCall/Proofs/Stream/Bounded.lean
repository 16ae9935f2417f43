import RemoteCall.Proofs.Stream.Lossless

/-! Sinks that may fill up: they hold a front of what they were offered, and know no gaps. -/

namespace RemoteCall

variable {ε σ α β : Type} {holds : Holding σ} {full : σ → Prop}

/-- A sink that has a front of these bytes, but not all of them. -/
def Short (holds : Holding σ) : Holding σ := fun sink offered =>
  -- What is missing is at the end.
  ∃ sent missing, missing ≠ [] ∧ sent ++ missing = offered ∧ holds sink sent

/-- A sink that was offered these bytes, and of which only a full one is short of them. -/
def Offered (holds : Holding σ) (full : σ → Prop) : Holding σ := fun sink offered =>
  -- Nothing may come after a gap, so a sink with a gap takes nothing any more.
  holds sink offered ∨ full sink ∧ Short holds sink offered

/-- What is offered behind missing bytes is missing as well. -/
theorem Short.append {sink : σ} {offered : Bytes} (short : Short holds sink offered)
    (more : Bytes) : Short holds sink (offered ++ more) := by
  obtain ⟨sent, missing, some, rfl, held⟩ := short
  -- The gap only grows.
  exact ⟨sent, missing ++ more, by simp [some], by simp, held⟩

/-- A sink that takes nothing of an offer is short of it. -/
theorem Short.of_offered {sink : σ} {offered more : Bytes} (had : Offered holds full sink offered)
    (some : more ≠ []) : Short holds sink (offered ++ more) := by
  rcases had with held | ⟨_, short⟩
  · exact ⟨offered, more, some, rfl, held⟩
  · exact short.append more

/-- The bytes are offered in order, and a step that fails leaves a full sink short of them. -/
structure Offers (holds : Holding σ) (full : σ → Prop) (step : EStateM ε σ α) (data : Bytes) :
    Prop where
  ok : ∀ sink {given answer after}, Offered holds full sink given →
    step sink = .ok answer after → Offered holds full after (given ++ data)
  error : ∀ sink {given failure after}, Offered holds full sink given →
    step sink = .error failure after → full after ∧ Short holds after (given ++ data)

namespace Offers

/-- A step that changes nothing offers nothing. -/
theorem pure (answer : α) : Offers holds full (Pure.pure answer : EStateM ε σ α) [] where
  ok _ _ _ _ had ran := by
    cases ran
    simpa using had
  error _ _ _ _ _ ran := nomatch ran

/-- Steps in sequence offer the bytes of the first and then those of the second. -/
theorem bind {first : EStateM ε σ α} {next : α → EStateM ε σ β} {front back : Bytes}
    (offers : Offers holds full first front)
    (offersNext : ∀ answer, Offers holds full (next answer) back) :
    Offers holds full (first >>= next) (front ++ back) where
  ok _ _ _ _ had ran := by
    obtain ⟨answer, between, ranFirst, ranNext⟩ := run_bind_eq_ok_iff.mp ran
    rw [← List.append_assoc]
    exact (offersNext answer).ok _ (offers.ok _ had ranFirst) ranNext
  error _ _ _ _ had ran := by
    rw [← List.append_assoc]
    -- Where the first step fails, all of the second one's bytes are missing as well.
    rcases run_bind_eq_error_iff.mp ran with failed | ⟨answer, between, ranFirst, failed⟩
    · obtain ⟨filled, short⟩ := offers.error _ had failed
      exact ⟨filled, short.append back⟩
    · exact (offersNext answer).error _ (offers.ok _ had ranFirst) failed

end Offers

/-- A sink that fails only once it is full, and that can always be flushed. -/
structure Bounded (σ : Type) [Sink σ] (holds : Holding σ) (full : σ → Prop) : Prop where
  writeAll : ∀ data, Offers holds full (Sink.writeAll (σ := σ) data) data
  flush : ∀ sink, ∃ answer after, Sink.flush (σ := σ) sink = .ok answer after ∧
    ∀ {given}, Offered holds full sink given → Offered holds full after given

/-- A flush offers nothing. -/
theorem Bounded.flush_offers [Sink σ] (bounded : Bounded σ holds full) :
    Offers holds full (Sink.flush (σ := σ)) [] where
  ok sink _ _ _ had ran := by
    obtain ⟨_, _, flushed, keeps⟩ := bounded.flush sink
    cases flushed.symm.trans ran
    simpa using keeps had
  -- It does not fail.
  error sink _ _ _ _ ran := by
    obtain ⟨_, _, flushed, _⟩ := bounded.flush sink
    cases flushed.symm.trans ran

/-- Writing until everything is accepted offers everything, if every write offers some of it. -/
theorem writeAllWith_offers {write : Bytes → StreamM σ Nat}
    (accepts : ∀ {sink given data accepted after}, Offered holds full sink given → data ≠ [] →
      write data sink = .ok accepted after →
        0 < accepted ∧ Offered holds full after (given ++ data.take accepted))
    (refuses : ∀ {sink given data cause after}, Offered holds full sink given → data ≠ [] →
      write data sink = .error cause after → full after ∧ Short holds after (given ++ data))
    (data : Bytes) : Offers holds full (writeAllWith write data) data := by
  -- The induction follows the writes, each of which shortens what is left.
  fun_induction writeAllWith write data with
  | case1 => exact .pure ()
  | case2 byte rest ih =>
    constructor
    · intro sink given answer after had ran
      obtain ⟨accepted, between, wrote, ranRest⟩ := run_bind_eq_ok_iff.mp ran
      obtain ⟨positive, had⟩ := accepts had (by simp) wrote
      obtain ⟨accepted, rfl⟩ := Nat.exists_eq_add_one.mpr positive
      simpa using (ih accepted).ok _ had ranRest
    · intro sink given failure after had ran
      rcases run_bind_eq_error_iff.mp ran with failed | ⟨accepted, between, wrote, failed⟩
      · exact refuses had (by simp) failed
      · obtain ⟨positive, had⟩ := accepts had (by simp) wrote
        obtain ⟨accepted, rfl⟩ := Nat.exists_eq_add_one.mpr positive
        simpa using (ih accepted).error _ had failed

/-! A store with or without a capacity. -/

namespace Store

/-- The store has exactly these bytes. -/
def Has : Holding Store := fun store given => store.toBytes = given

/-- There is no room for another byte. -/
def Full (store : Store) : Prop :=
  -- A store without a capacity is never full.
  ∃ capacity, store.capacity = some capacity ∧ capacity ≤ store.held.size

/-- Nothing of an offer is accepted only by a full store. -/
theorem full_of_accepts_eq_zero {store : Store} {offered : Nat} (positive : 0 < offered)
    (nothing : store.accepts offered = 0) : store.Full := by
  unfold accepts at nothing
  split at nothing
  · omega
  · next capacity bounded => exact ⟨capacity, bounded, by omega⟩

/-- A full store accepts nothing. -/
theorem Full.accepts_eq_zero {store : Store} (full : store.Full) (offered : Nat) :
    store.accepts offered = 0 := by
  obtain ⟨capacity, bounded, filled⟩ := full
  simp only [accepts, bounded]
  omega

/-- A write that fails finds the store full, and leaves it so. -/
theorem write_refuses {store after : Store} {given data : Bytes} {cause : StreamError}
    (had : Offered Has Full store given) (present : data ≠ [])
    (wrote : Store.write data store = .error cause after) :
    after.Full ∧ Short Has after (given ++ data) := by
  have positive := List.length_pos_iff.mpr present
  simp only [Store.write] at wrote
  split at wrote
  · next refused =>
    cases wrote
    exact ⟨full_of_accepts_eq_zero positive refused.1, .of_offered had present⟩
  · cases wrote

/-- A write that succeeds found room, and so there was no gap. -/
theorem write_accepts {store after : Store} {given data : Bytes} {accepted : Nat}
    (had : Offered Has Full store given) (present : data ≠ [])
    (wrote : Store.write data store = .ok accepted after) :
    0 < accepted ∧ Offered Has Full after (given ++ data.take accepted) := by
  have positive := List.length_pos_iff.mpr present
  simp only [Store.write] at wrote
  split at wrote
  · cases wrote
  · next room =>
    cases wrote
    have some : 0 < store.accepts data.length := by omega
    refine ⟨some, .inl ?_⟩
    -- A store with a gap is full, and would have refused.
    rcases had with held | ⟨filled, _⟩
    · rw [← held]
      simp [Has, Store.toBytes]
    · rw [filled.accepts_eq_zero] at some
      omega

/-- A store takes what it is offered until it is full. -/
theorem bounded : Bounded Store Has Full where
  writeAll := writeAllWith_offers write_accepts write_refuses
  flush store := ⟨(), store, rfl, id⟩

end Store

/-! A sink behind a budget. -/

namespace Throttled

variable [Sink σ]

/-- A write of something is charged for, and then made. -/
theorem write_of_some {throttled : Throttled σ} {data : Bytes} (present : data ≠ []) :
    Throttled.write data throttled =
      let piece := data.take throttled.slice
      let charges := piece.length :: throttled.charges
      match Sink.writeAll piece throttled.inner with
      | .ok _ inner => .ok piece.length { throttled with inner, charges }
      | .error cause inner => .error cause { throttled with inner, charges } := by
  have some : data.isEmpty = false := by simpa using present
  simp only [Throttled.write, some, Bool.false_eq_true, if_false, run_bind, run_pure, run_get,
    run_modify, onInner]
  cases Sink.writeAll (data.take throttled.slice) throttled.inner with
  | ok answer inner => rfl
  | error cause inner => rfl

/-- A budget offers the sink behind it all that it is offered. -/
theorem bounded (bounded : Bounded σ holds full) :
    Bounded (Throttled σ) (fun throttled => holds throttled.inner)
      fun throttled => full throttled.inner where
  writeAll := by
    refine writeAllWith_offers ?accepts ?refuses
    case accepts =>
      intro throttled given data accepted after had present wrote
      simp only [write_of_some present] at wrote
      split at wrote
      · next ran =>
        cases wrote
        have had := (bounded.writeAll _).ok throttled.inner had ran
        -- At least one byte is allowed at a time, however small the budget.
        have slice : 0 < throttled.slice := Nat.le_max_left ..
        have positive := List.length_pos_iff.mpr present
        refine ⟨by simp only [List.length_take]; omega, ?_⟩
        rwa [List.length_take, ← List.take_eq_take_min]
      · cases wrote
    case refuses =>
      intro throttled given data cause after had present wrote
      simp only [write_of_some present] at wrote
      split at wrote
      · cases wrote
      · next failed =>
        cases wrote
        obtain ⟨filled, short⟩ := (bounded.writeAll _).error throttled.inner had failed
        -- What the slice leaves out is missing as well.
        have short := short.append (data.drop throttled.slice)
        rw [List.append_assoc, List.take_append_drop] at short
        exact ⟨filled, short⟩
  flush throttled := by
    obtain ⟨answer, inner, flushed, keeps⟩ := bounded.flush throttled.inner
    exact ⟨answer, { throttled with inner }, by simp only [Sink.flush, onInner, flushed], keeps⟩

end Throttled

end RemoteCall
