import RemoteCall.Proofs.Stream.Guarded
import RemoteCall.Proofs.Stream.Lossless

/-! A store with a capacity has exactly the first bytes of what it is offered. -/

namespace RemoteCall.Store

variable {α β : Type} {store : Store} {capacity : Nat}

/-- The store has room for so many more bytes. -/
def HasRoom (store : Store) (count : Nat) : Prop :=
  -- Without a capacity there is room for anything.
  ∀ capacity, store.capacity = some capacity → store.toBytes.length + count ≤ capacity

/-- Room that a capacity leaves is room. -/
theorem hasRoom_of_le {count : Nat} (limited : store.capacity = some capacity)
    (fits : store.toBytes.length + count ≤ capacity) : store.HasRoom count := by
  intro other limitedToo
  cases limited.symm.trans limitedToo
  exact fits

/-- A store without a capacity has room for anything. -/
theorem hasRoom_of_none (unlimited : store.capacity = none) (count : Nat) :
    store.HasRoom count := by
  intro other limitedToo
  cases unlimited.symm.trans limitedToo

/-- Room for some bytes is room for fewer. -/
theorem HasRoom.mono {more less : Nat} (room : store.HasRoom more) (le : less ≤ more) :
    store.HasRoom less := by
  intro capacity limited
  exact Nat.le_trans (Nat.add_le_add_left le _) (room capacity limited)

/-- Room for two stretches of bytes is room for the second one once the first one is there. -/
theorem HasRoom.behind {after : Store} {data : Bytes} {count : Nat}
    (room : store.HasRoom (data.length + count)) (kept : after.capacity = store.capacity)
    (has : after.toBytes = store.toBytes ++ data) : after.HasRoom count := by
  intro capacity limited
  have enough := room capacity (kept ▸ limited)
  rw [has, List.length_append]
  omega

/-- The store may have so many bytes, and does not have more than that. -/
structure Clipped (capacity : Nat) (store : Store) (offered : Bytes) : Prop where
  limited : store.capacity = some capacity
  clipped : store.toBytes = offered.take capacity

/-- Whatever a store may have in all, it is that much of what it has. -/
theorem clipped_self (limited : store.capacity = some capacity)
    (fits : store.toBytes.length ≤ capacity) : Clipped capacity store store.toBytes :=
  ⟨limited, (List.take_of_length_le fits).symm⟩

/-- What is offered to a store beyond its capacity does not change what it has. -/
theorem Clipped.append {offered : Bytes} (clipped : Clipped capacity store offered)
    (exceeded : capacity ≤ offered.length) (more : Bytes) :
    Clipped capacity store (offered ++ more) :=
  ⟨clipped.limited, by rw [clipped.clipped, List.take_append_of_le_length exceeded]⟩

/-- A write into enough room accepts everything. -/
theorem write_of_room {data : Bytes} (room : store.HasRoom data.length) :
    Store.write data store = .ok data.length { store with held := store.held.push data } := by
  have accepts : store.accepts data.length = data.length := by
    unfold accepts
    split
    · rfl
    · next capacity limited =>
      have enough := room capacity limited
      rw [toBytes, Gathered.length_toBytes] at enough
      omega
  have taken : ¬ (data.length = 0 ∧ data.length ≠ 0) := fun facts => facts.2 facts.1
  simp only [Store.write, accepts, taken, if_false, List.take_length]

/-- A write into too little room accepts what still fits. -/
theorem write_of_short (limited : store.capacity = some capacity)
    (fits : store.toBytes.length ≤ capacity) {data : Bytes}
    (short : capacity < store.toBytes.length + data.length) :
    Store.write data store =
      if store.toBytes.length = capacity then .error .sinkFull store
      else
        .ok (capacity - store.toBytes.length)
          { store with held := store.held.push (data.take (capacity - store.toBytes.length)) } := by
  have accepts : store.accepts data.length = capacity - store.toBytes.length := by
    rw [toBytes, Gathered.length_toBytes] at short ⊢
    simp only [Store.accepts, limited]
    omega
  by_cases filled : store.toBytes.length = capacity
  · have nothing : capacity - store.toBytes.length = 0 ∧ data.length ≠ 0 := by omega
    rw [if_pos filled]
    simp only [Store.write, accepts, if_pos nothing]
  · have some : ¬ (capacity - store.toBytes.length = 0 ∧ data.length ≠ 0) := by omega
    rw [if_neg filled]
    simp only [Store.write, accepts, if_neg some]

/--
A step offers exactly these bytes to a store.

It succeeds where there is room for all of them, and fails where there is not.
-/
structure Fills (step : StreamM Store α) (data : Bytes) : Prop where
  ok : ∀ store, store.HasRoom data.length → ∃ answer after, step store = .ok answer after ∧
    after.capacity = store.capacity ∧ after.toBytes = store.toBytes ++ data
  error : ∀ store {capacity}, store.capacity = some capacity → store.toBytes.length ≤ capacity →
    capacity < store.toBytes.length + data.length →
      ∃ cause after, step store = .error cause after ∧
        Clipped capacity after (store.toBytes ++ data)

namespace Fills

/-- A step that touches nothing offers nothing. -/
theorem pure (answer : α) : Fills (Pure.pure answer) [] where
  ok store _ := ⟨answer, store, rfl, rfl, by simp⟩
  error store capacity _ fits short := by
    simp only [List.length_nil] at short
    omega

end Fills

/-- A store that is full refuses whatever it is to have completely. -/
theorem writeAll_of_full (limited : store.capacity = some capacity)
    (full : store.toBytes.length = capacity) {data : Bytes} (present : data ≠ []) :
    writeAllWith Store.write data store = .error .sinkFull store := by
  obtain ⟨byte, rest, rfl⟩ := List.exists_cons_of_ne_nil present
  have short : capacity < store.toBytes.length + (byte :: rest).length := by
    rw [List.length_cons]
    omega
  rw [writeAllWith, run_bind, write_of_short limited (Nat.le_of_eq full) short, if_pos full]

/-- A complete write for which there is too little room leaves the store full. -/
theorem writeAll_of_short (limited : store.capacity = some capacity)
    (fits : store.toBytes.length ≤ capacity) {data : Bytes}
    (short : capacity < store.toBytes.length + data.length) :
    ∃ after, writeAllWith Store.write data store = .error .sinkFull after ∧
      Clipped capacity after (store.toBytes ++ data) := by
  have present : data ≠ [] := by
    rintro rfl
    rw [List.length_nil] at short
    omega
  by_cases filled : store.toBytes.length = capacity
  · exact ⟨store, writeAll_of_full limited filled present,
      (clipped_self limited fits).append (Nat.le_of_eq filled.symm) data⟩
  -- The first write fills the store, and what is left is offered to a full one.
  · obtain ⟨more, count⟩ : ∃ more, capacity - store.toBytes.length = more + 1 :=
      Nat.exists_eq_add_one.mpr (by omega)
    let after : Store := { store with held := store.held.push (data.take (more + 1)) }
    have bound : after.capacity = some capacity := limited
    have has : after.toBytes = store.toBytes ++ data.take (more + 1) := by simp [after, toBytes]
    have length : after.toBytes.length = capacity := by
      rw [has, List.length_append, List.length_take]
      omega
    have left : data.drop (more + 1) ≠ [] := by
      rw [ne_eq, List.drop_eq_nil_iff]
      omega
    obtain ⟨byte, rest, rfl⟩ := List.exists_cons_of_ne_nil present
    refine ⟨after, ?_, bound, ?_⟩
    · rw [writeAllWith, run_bind, write_of_short limited fits short, if_neg filled, count]
      exact writeAll_of_full bound length left
    · rw [has, List.take_append, List.take_of_length_le fits, count]

/-- A complete write offers all of it. -/
theorem fills_writeAll (data : Bytes) : Fills (Sink.writeAll data) data where
  ok store room := by
    show ∃ answer after, writeAllWith Store.write data store = .ok answer after ∧ _
    cases data with
    | nil => exact ⟨(), store, by simp [writeAllWith], rfl, by simp⟩
    | cons byte rest =>
      refine ⟨(), { store with held := store.held.push (byte :: rest) }, ?_, rfl, ?_⟩
      · -- A single write accepts everything, and nothing is left.
        rw [writeAllWith, run_bind, write_of_room room]
        simp [writeAllWith]
      · simp [toBytes]
  error store capacity limited fits short := by
    obtain ⟨after, failed, clipped⟩ := writeAll_of_short limited fits short
    exact ⟨.sinkFull, after, failed, clipped⟩

/-- A flush offers nothing. -/
theorem fills_flush : Fills (Sink.flush (σ := Store)) [] := Fills.pure ()

/-- Whatever is asked of a store that is full, it keeps what it has. -/
theorem guarded_of_full (capacity : Nat) (bytes : Bytes) (full : bytes.length = capacity) :
    Guarded Store fun store => store.capacity = some capacity ∧ store.toBytes = bytes := by
  have write (data : Bytes) : Keeps (fun store => store.capacity = some capacity ∧
      store.toBytes = bytes) (Store.write data) := by
    rintro store ⟨limited, rfl⟩
    cases data with
    -- Nothing is accepted of nothing, and nothing is added.
    | nil =>
      have room : store.HasRoom ([] : Bytes).length :=
        hasRoom_of_le limited (Nat.le_of_eq full)
      rw [write_of_room room]
      exact ⟨limited, by simp [stateAfter, toBytes]⟩
    | cons byte rest =>
      have short : capacity < store.toBytes.length + (byte :: rest).length := by
        simp only [List.length_cons]
        omega
      rw [write_of_short limited (Nat.le_of_eq full) short, if_pos full]
      exact ⟨limited, rfl⟩
  exact ⟨write, writeAllWith_keeps write, Keeps.pure ()⟩

/-- Whatever is asked of a store, it keeps what it has and only adds to it. -/
theorem guarded_front (front : Bytes) : Guarded Store fun store => front <+: store.toBytes := by
  have write (data : Bytes) : Keeps (fun store => front <+: store.toBytes) (Store.write data) := by
    intro store stands
    simp only [Store.write]
    split
    -- A write that is refused adds nothing.
    · exact stands
    · simpa [stateAfter, toBytes] using stands.trans (List.prefix_append store.toBytes _)
  exact ⟨write, writeAllWith_keeps write, Keeps.pure ()⟩

/-! A store with a capacity beside one without, which were asked for the same. -/

/-- Both stores have the same, and it fits the one that has a capacity. -/
structure Level (capacity : Nat) (limited free : Store) : Prop where
  bound : limited.capacity = some capacity
  unbound : free.capacity = none
  same : limited.toBytes = free.toBytes
  fits : free.toBytes.length ≤ capacity

/-- The store that has a capacity is full, and the other one has more than that. -/
structure Outrun (capacity : Nat) (limited free : Store) : Prop where
  clipped : Clipped capacity limited free.toBytes
  exceeded : capacity < free.toBytes.length

/-- As long as everything fits, the store with a capacity has all of it. -/
theorem Level.clipped {limited free : Store} (level : Level capacity limited free) :
    Clipped capacity limited free.toBytes := by
  have fits := level.fits
  rw [← level.same] at fits ⊢
  exact clipped_self level.bound fits

/-- The store that has a capacity stays full, and the other one only has more and more. -/
theorem Outrun.mono {limited limitedAfter free freeAfter : Store}
    (outrun : Outrun capacity limited free)
    (stays : limitedAfter.capacity = some capacity ∧ limitedAfter.toBytes = limited.toBytes)
    (grows : free.toBytes <+: freeAfter.toBytes) : Outrun capacity limitedAfter freeAfter := by
  obtain ⟨more, whole⟩ := grows
  have exceeded := outrun.exceeded
  refine ⟨⟨stays.1, ?_⟩, ?_⟩
  · rw [stays.2, ← whole]
    exact (outrun.clipped.append (Nat.le_of_lt exceeded) more).clipped
  · rw [← whole, List.length_append]
    omega

/-- A store that is outrun has as much as it may have. -/
theorem Outrun.full {limited free : Store} (outrun : Outrun capacity limited free) :
    limited.toBytes.length = capacity := by
  have exceeded := outrun.exceeded
  rw [outrun.clipped.clipped, List.length_take]
  omega

/-- What is offered to both stores leaves them level, or outruns the one with a capacity. -/
theorem Fills.level {step : StreamM Store Unit} {data : Bytes} (fills : Fills step data)
    {limited free after : Store} (level : Level capacity limited free)
    (ran : step free = .ok () after) :
    (∃ limitedAfter, step limited = .ok () limitedAfter ∧ Level capacity limitedAfter after) ∨
      ∃ cause limitedAfter, step limited = .error cause limitedAfter ∧
        Outrun capacity limitedAfter after := by
  -- There is always room in the store without a capacity.
  obtain ⟨_, between, ranFree, kept, has⟩ := fills.ok free (hasRoom_of_none level.unbound _)
  cases ranFree.symm.trans ran
  have sum := congrArg List.length has
  rw [List.length_append] at sum
  by_cases enough : limited.toBytes.length + data.length ≤ capacity
  · obtain ⟨_, limitedAfter, ranLimited, keptLimited, hasLimited⟩ :=
      fills.ok limited (hasRoom_of_le level.bound enough)
    refine .inl ⟨limitedAfter, ranLimited, keptLimited.trans level.bound, kept.trans level.unbound,
      by rw [hasLimited, has, level.same], ?_⟩
    rw [level.same] at enough
    omega
  · have fits := level.fits
    rw [← level.same] at fits
    obtain ⟨cause, limitedAfter, failed, clipped⟩ :=
      fills.error limited level.bound fits (Nat.not_le.mp enough)
    rw [level.same, ← has] at clipped
    rw [level.same] at enough
    exact .inr ⟨cause, limitedAfter, failed, clipped, by omega⟩

end RemoteCall.Store
