import RemoteCall.Proofs.Stream.Capacity
import RemoteCall.Proofs.Stream.TokenBucket
import RemoteCall.Proofs.Stream.Watched

/-! A budget is charged before its sink receives anything, and never for more than it grants. -/

namespace RemoteCall

variable {σ : Type} {holds : Holding σ} {capacity : Nat} {limiter : RateLimiter}

/-- A sink accepts so many bytes and no more; it refuses a byte only when it has all of them. -/
structure Capped (σ : Type) [Sink σ] (holds : Holding σ) (capacity : Nat) : Prop where
  within : ∀ {sink given}, holds sink given → given.length ≤ capacity
  -- A write may be short, and may accept nothing instead of failing.
  ok : ∀ {sink given data accepted after}, holds sink given → data ≠ [] →
    Sink.write data sink = .ok accepted after →
      accepted ≤ data.length ∧ (accepted = 0 → given.length = capacity) ∧
        holds after (given ++ data.take accepted)
  error : ∀ {sink given data cause after}, holds sink given → data ≠ [] →
    Sink.write data sink = .error cause after → given.length = capacity ∧ holds after given
  writeAll : ∀ data, Sink.writeAll (σ := σ) data = writeAllWith Sink.write data
  flush : ∀ {sink given}, holds sink given → holds (stateAfter (Sink.flush sink)) given

namespace RateLimiter

/-- Every charge is for something, and for no more than was granted at once after those before. -/
def Granted (limiter : RateLimiter) (charges : List Nat) : Prop :=
  -- A budget that grants nothing is charged for a single byte all the same.
  ∀ charge earlier, charge :: earlier <:+ charges →
    1 ≤ charge ∧ charge ≤ max 1 (limiter.maxGrant earlier)

/-- Nothing was charged yet. -/
theorem granted_nil (limiter : RateLimiter) : limiter.Granted [] := by
  intro charge earlier suffix
  simp at suffix

/-- A charge that is granted may follow others that were. -/
theorem Granted.cons {charge : Nat} {charges : List Nat} (granted : limiter.Granted charges)
    (positive : 1 ≤ charge) (bounded : charge ≤ max 1 (limiter.maxGrant charges)) :
    limiter.Granted (charge :: charges) := by
  intro other earlier suffix
  rcases List.suffix_cons_iff.mp suffix with same | suffix
  · cases same
    exact ⟨positive, bounded⟩
  · exact granted other earlier suffix

end RateLimiter

namespace Throttled

/-- The sink has a front of what it was offered, and at least that much was charged before. -/
structure Covered (holds : Holding σ) (limiter : RateLimiter) (offered : Bytes)
    (throttled : Throttled σ) : Prop where
  budget : throttled.limiter = limiter
  granted : limiter.Granted throttled.charges
  received : ∃ received, holds throttled.inner received ∧
    received.length ≤ throttled.charges.sum ∧ received <+: offered

/-- The sink has everything that it was offered, and exactly that was charged. -/
structure Settled (holds : Holding σ) (limiter : RateLimiter) (offered : Bytes)
    (throttled : Throttled σ) : Prop where
  budget : throttled.limiter = limiter
  granted : limiter.Granted throttled.charges
  held : holds throttled.inner offered
  charged : throttled.charges.sum = offered.length

/-- The sink has as much of what it was offered as it accepts, all of which was charged. -/
structure Exhausted (holds : Holding σ) (capacity : Nat) (limiter : RateLimiter) (offered : Bytes)
    (throttled : Throttled σ) : Prop where
  budget : throttled.limiter = limiter
  granted : limiter.Granted throttled.charges
  received : ∃ received, holds throttled.inner received ∧ received.length = capacity ∧
    received.length ≤ throttled.charges.sum ∧ received <+: offered

/-- Between two calls, the sink has everything or is full. -/
def Stands (holds : Holding σ) (capacity : Nat) (limiter : RateLimiter) (offered : Bytes)
    (throttled : Throttled σ) : Prop :=
  Settled holds limiter offered throttled ∨ Exhausted holds capacity limiter offered throttled

variable {offered more : Bytes} {throttled : Throttled σ}

/-- What is a front of an offer is one of everything that the offer is a front of. -/
theorem Covered.mono (covered : Covered holds limiter offered throttled)
    (front : offered <+: more) : Covered holds limiter more throttled := by
  obtain ⟨received, held, paid, begins⟩ := covered.received
  exact ⟨covered.budget, covered.granted, received, held, paid, begins.trans front⟩

/-- A full sink takes nothing of what it is offered besides. -/
theorem Exhausted.mono (exhausted : Exhausted holds capacity limiter offered throttled)
    (front : offered <+: more) : Exhausted holds capacity limiter more throttled := by
  obtain ⟨received, held, full, paid, begins⟩ := exhausted.received
  exact ⟨exhausted.budget, exhausted.granted, received, held, full, paid, begins.trans front⟩

/-- Between two calls everything is as at any other moment. -/
theorem Stands.covered (stands : Stands holds capacity limiter offered throttled) :
    Covered holds limiter offered throttled := by
  rcases stands with settled | exhausted
  · exact ⟨settled.budget, settled.granted, offered, settled.held,
      Nat.le_of_eq settled.charged.symm, List.prefix_rfl⟩
  · obtain ⟨received, held, _, paid, begins⟩ := exhausted.received
    exact ⟨exhausted.budget, exhausted.granted, received, held, paid, begins⟩

/-- What a sink has between two calls, and what is known of it. -/
theorem Stands.exists_held (stands : Stands holds capacity limiter offered throttled) :
    ∃ given, holds throttled.inner given ∧ given.length ≤ throttled.charges.sum ∧
      given <+: offered ∧
      (given = offered ∧ throttled.charges.sum = offered.length ∨ given.length = capacity) := by
  rcases stands with settled | exhausted
  · exact ⟨offered, settled.held, Nat.le_of_eq settled.charged.symm, List.prefix_rfl,
      .inl ⟨rfl, settled.charged⟩⟩
  · obtain ⟨given, held, full, paid, begins⟩ := exhausted.received
    exact ⟨given, held, paid, begins, .inr full⟩

/-- A write is charged for one byte at least, and for no more than is granted at once. -/
theorem granted_charge (budget : throttled.limiter = limiter)
    (granted : limiter.Granted throttled.charges) {data : Bytes} (present : data ≠ []) :
    let piece := data.take throttled.slice
    1 ≤ piece.length ∧ limiter.Granted (throttled.charge piece.length).charges := by
  intro piece
  have length : piece.length = min throttled.slice data.length := List.length_take
  have slice : throttled.slice = max 1 (limiter.maxGrant throttled.charges) := budget ▸ rfl
  have some := List.length_pos_iff.mpr present
  have positive : 1 ≤ piece.length := by omega
  exact ⟨positive, granted.cons positive (by omega)⟩

variable [Sink σ]

/--
What is passed on reaches the sink piece by piece, with charges and all else as they were.

The sink has all of it in the end, or it is full.
-/
theorem passOn_spec (capped : Capped σ holds capacity) (data : Bytes)
    (watched : Watched (Throttled σ)) {given : Bytes} {kept : Throttled σ → Prop}
    (held : holds watched.now.inner given)
    (keeps : ∀ {inner received}, holds inner received → received <+: given ++ data →
      kept { watched.now with inner })
    (sofar : ∀ moment ∈ watched.moments, kept moment) :
    ∃ inner received moments, holds inner received ∧ received <+: given ++ data ∧
      (∀ moment ∈ moments, kept moment) ∧
      (passOn data watched = .ok () ⟨{ watched.now with inner }, moments⟩ ∧
          received = given ++ data ∨
        ∃ cause, passOn data watched = .error cause ⟨{ watched.now with inner }, moments⟩ ∧
          received.length = capacity) := by
  unfold passOn
  -- The induction follows the writes, each of which shortens what is left.
  fun_induction writeAllWith
    (fun data => Watched.atOnce (onInner (Sink.write (σ := σ) data))) data
    generalizing watched given with
  | case1 =>
    exact ⟨watched.now.inner, given, watched.moments, held, by simp, sofar, .inl ⟨rfl, by simp⟩⟩
  | case2 byte rest ih =>
    have present : byte :: rest ≠ [] := List.cons_ne_nil byte rest
    cases wrote : Sink.write (byte :: rest) watched.now.inner with
    | error cause inner =>
      obtain ⟨full, held⟩ := capped.error held present wrote
      have moment := keeps held (List.prefix_append ..)
      refine ⟨inner, given, { watched.now with inner } :: watched.moments, held,
        List.prefix_append .., List.forall_mem_cons.mpr ⟨moment, sofar⟩, .inr ⟨cause, ?_, full⟩⟩
      simp only [run_bind, Watched.atOnce, onInner, wrote]
    | ok accepted inner =>
      obtain ⟨_, nothing, held⟩ := capped.ok held present wrote
      have whole : given ++ (byte :: rest).take accepted ++ (byte :: rest).drop accepted =
          given ++ byte :: rest := by
        rw [List.append_assoc, List.take_append_drop]
      have moment := keeps held (whole ▸ List.prefix_append ..)
      cases accepted with
      | zero =>
        -- Nothing is accepted by a full sink alone.
        refine ⟨inner, _, { watched.now with inner } :: watched.moments, held,
          whole ▸ List.prefix_append .., List.forall_mem_cons.mpr ⟨moment, sofar⟩,
          .inr ⟨.nothingAccepted, ?_, by simpa using nothing rfl⟩⟩
        simp only [run_bind, Watched.atOnce, onInner, wrote]
        rfl
      | succ accepted =>
        rw [List.drop_succ_cons] at whole
        obtain ⟨last, received, moments, heldLast, front, all, came⟩ := ih accepted
          ⟨{ watched.now with inner }, { watched.now with inner } :: watched.moments⟩ held
          (fun has begins => keeps has (whole ▸ begins))
          (List.forall_mem_cons.mpr ⟨moment, sofar⟩)
        refine ⟨last, received, moments, heldLast, whole ▸ front, all, ?_⟩
        simp only [run_bind, Watched.atOnce, onInner, wrote]
        rwa [whole] at came

/-- What is charged for before it is passed on is covered, unless the sink is full anyway. -/
theorem Stands.front (capped : Capped σ holds capacity) {given piece : Bytes} {sum : Nat}
    (paid : given.length ≤ sum) (begins : given <+: offered)
    (either : given = offered ∨ given.length = capacity) {inner : σ} {received : Bytes}
    (has : holds inner received) (front : received <+: given ++ piece) :
    received <+: offered ++ piece ∧ received.length ≤ piece.length + sum := by
  constructor
  · rcases either with rfl | full
    · exact front
    · -- A full sink has not received anything of the piece.
      have short : received.length ≤ given.length := full ▸ capped.within has
      exact (List.prefix_of_prefix_length_le front (List.prefix_append ..) short).trans
        (begins.trans (List.prefix_append ..))
  · have bound := front.length_le
    rw [List.length_append] at bound
    omega

/--
A write is charged for as much of its bytes as is granted at once, and then passes that much on.

The sink has all of it then, or the write fails and the sink is full.
-/
theorem writeWatched_spec (capped : Capped σ holds capacity) {watched : Watched (Throttled σ)}
    (stands : Stands holds capacity limiter offered watched.now)
    (sofar : ∀ moment ∈ watched.moments, Covered holds limiter offered moment) {data : Bytes}
    (present : data ≠ []) :
    let piece := data.take watched.now.slice
    ∃ after, (∀ moment ∈ after.moments, Covered holds limiter (offered ++ piece) moment) ∧
      (writeWatched data watched = .ok piece.length after ∧
          Settled holds limiter (offered ++ piece) after.now ∨
        ∃ cause, writeWatched data watched = .error cause after ∧
          Exhausted holds capacity limiter (offered ++ piece) after.now) := by
  intro piece
  obtain ⟨given, held, paid, begins, either⟩ := stands.exists_held
  have budget := stands.covered.budget
  obtain ⟨positive, granted⟩ := granted_charge budget stands.covered.granted present
  -- From the charge on, everything is covered that may reach the sink.
  let charged := watched.now.charge piece.length
  have behind {inner : σ} {received : Bytes} (has : holds inner received)
      (front : received <+: given ++ piece) :=
    Stands.front capped paid begins (either.imp_left And.left) has front
  have covered {inner : σ} {received : Bytes} (has : holds inner received)
      (front : received <+: given ++ piece) :
      Covered holds limiter (offered ++ piece) { charged with inner } :=
    ⟨budget, granted, received, has, (behind has front).2, (behind has front).1⟩
  obtain ⟨inner, received, moments, has, front, all, came⟩ := passOn_spec capped piece
    ⟨charged, charged :: watched.moments⟩ held covered
    (List.forall_mem_cons.mpr ⟨covered held (List.prefix_append ..),
      fun moment member => (sofar moment member).mono (List.prefix_append ..)⟩)
  refine ⟨⟨{ charged with inner }, moments⟩, all, ?_⟩
  have some : data.isEmpty = false := by simpa using present
  have ran : writeWatched data watched =
      (do passOn piece; return piece.length : StreamM (Watched (Throttled σ)) Nat)
        ⟨charged, charged :: watched.moments⟩ := by
    simp only [writeWatched, some, Bool.false_eq_true, if_false, run_bind, run_get,
      Watched.atOnce, run_modify, charged, piece]
  rcases came with ⟨passed, whole⟩ | ⟨cause, failed, full⟩
  · have bound := capped.within has
    rw [whole, List.length_append] at bound
    -- A full sink would not have accepted anything.
    have room : given.length ≠ capacity := by
      change 1 ≤ piece.length at positive
      omega
    obtain ⟨rfl, exact⟩ := either.resolve_right room
    refine .inl ⟨?_, budget, granted, whole ▸ has, ?_⟩
    · rw [ran, run_bind, passed]
      rfl
    · show (piece.length :: watched.now.charges).sum = _
      rw [List.sum_cons, exact, List.length_append, Nat.add_comm]
  · refine .inr ⟨cause, ?_, budget, granted, received, has, full, (behind has front).2,
      (behind has front).1⟩
    rw [ran, run_bind, failed]

/-- A complete write passes everything on, or fails and leaves the sink full. -/
theorem writeAllWatched_spec (capped : Capped σ holds capacity) (data : Bytes)
    {watched : Watched (Throttled σ)} {offered : Bytes}
    (stands : Stands holds capacity limiter offered watched.now)
    (sofar : ∀ moment ∈ watched.moments, Covered holds limiter offered moment) :
    ∃ after, (∀ moment ∈ after.moments, Covered holds limiter (offered ++ data) moment) ∧
      (writeAllWith writeWatched data watched = .ok () after ∧
          (data = [] ∧ after = watched ∨ Settled holds limiter (offered ++ data) after.now) ∨
        ∃ cause, writeAllWith writeWatched data watched = .error cause after ∧
          Exhausted holds capacity limiter (offered ++ data) after.now) := by
  -- The induction follows the writes, each of which passes on what is granted at once.
  fun_induction writeAllWith (writeWatched (σ := σ)) data generalizing watched offered with
  | case1 => exact ⟨watched, by simpa using sofar, .inl ⟨rfl, .inl ⟨rfl, rfl⟩⟩⟩
  | case2 byte rest ih =>
    obtain ⟨between, covered, wrote | ⟨cause, failed, exhausted⟩⟩ :=
      writeWatched_spec capped stands sofar (List.cons_ne_nil byte rest)
    · obtain ⟨wrote, settled⟩ := wrote
      obtain ⟨positive, _⟩ := granted_charge stands.covered.budget stands.covered.granted
        (List.cons_ne_nil byte rest)
      obtain ⟨accepted, length⟩ := Nat.exists_eq_add_one.mpr positive
      -- The next write starts behind the piece that was passed on.
      have whole : offered ++ (byte :: rest).take watched.now.slice ++ rest.drop accepted =
          offered ++ byte :: rest := by
        have piece : (byte :: rest).take watched.now.slice =
            (byte :: rest).take (accepted + 1) := by
          rw [← length, List.length_take, ← List.take_eq_take_min]
        rw [piece, List.append_assoc, ← List.drop_succ_cons, List.take_append_drop]
      rw [length] at wrote
      obtain ⟨after, all, came⟩ := ih accepted (.inl settled) covered
      rw [whole] at all came
      simp only [run_bind, wrote]
      refine ⟨after, all, ?_⟩
      rcases came with ⟨passed, ⟨nothing, rfl⟩ | settled⟩ | failed
      · rw [nothing, List.append_nil] at whole
        exact .inl ⟨passed, .inr (whole ▸ settled)⟩
      · exact .inl ⟨passed, .inr settled⟩
      · exact .inr failed
    · -- What was not passed on is missing from a full sink.
      have front : offered ++ (byte :: rest).take watched.now.slice <+:
          offered ++ byte :: rest :=
        (List.prefix_append_right_inj offered).mpr (List.take_prefix ..)
      refine ⟨between, fun moment member => (covered moment member).mono front,
        .inr ⟨cause, ?_, exhausted.mono front⟩⟩
      simp only [run_bind, failed]

/-- What an operation offers to the sink behind the budget: of a write, what is granted at once. -/
def offers (throttled : Throttled σ) : SinkOperation → Bytes
  | .write data => data.take throttled.slice
  | .writeAll data => data
  | .flush => []

/-- What operations offer one after the other, each as the one before it has left the budget. -/
def offeredBy : List SinkOperation → Throttled σ → Bytes
  | [], _ => []
  | operation :: operations, throttled =>
    throttled.offers operation ++ offeredBy operations (stateAfter (operation.run throttled))

/-- What a sink keeps when it is flushed, it keeps behind a budget. -/
theorem Stands.flush (capped : Capped σ holds capacity)
    (stands : Stands holds capacity limiter offered throttled) :
    let flushed : Throttled σ := { throttled with inner := stateAfter (Sink.flush throttled.inner) }
    Stands holds capacity limiter offered flushed ∧
      (Settled holds limiter offered throttled → Settled holds limiter offered flushed) := by
  intro flushed
  have settles : Settled holds limiter offered throttled →
      Settled holds limiter offered flushed := fun settled =>
    ⟨settled.budget, settled.granted, capped.flush settled.held, settled.charged⟩
  refine ⟨stands.imp settles fun exhausted => ?_, settles⟩
  obtain ⟨received, held, known⟩ := exhausted.received
  exact ⟨exhausted.budget, exhausted.granted, received, capped.flush held, known⟩

/-- Whatever is asked, the sink has everything afterwards or is full, and was charged for it. -/
theorem run_spec (capped : Capped σ holds capacity) {watched : Watched (Throttled σ)}
    (stands : Stands holds capacity limiter offered watched.now)
    (sofar : ∀ moment ∈ watched.moments, Covered holds limiter offered moment)
    (operation : SinkOperation) :
    let after := stateAfter (operation.run watched)
    let sent := offered ++ watched.now.offers operation
    (∀ moment ∈ after.moments, Covered holds limiter sent moment) ∧
      Stands holds capacity limiter sent after.now ∧
      (Settled holds limiter offered watched.now →
        (∃ count, outcome (operation.run watched) = .ok count) →
          Settled holds limiter sent after.now) := by
  cases operation with
  | write data =>
    by_cases present : data = []
    · -- Nothing is charged for nothing.
      subst present
      simp only [offers, List.take_nil, List.append_nil]
      exact ⟨sofar, stands, fun settled _ => settled⟩
    · obtain ⟨after, all, ⟨wrote, settled⟩ | ⟨cause, failed, exhausted⟩⟩ :=
        writeWatched_spec capped stands sofar present
      · simp only [SinkOperation.run, Sink.write, wrote, stateAfter]
        exact ⟨all, .inl settled, fun _ _ => settled⟩
      · simp only [SinkOperation.run, Sink.write, failed, stateAfter, outcome]
        refine ⟨all, .inr exhausted, fun _ answered => ?_⟩
        obtain ⟨count, answered⟩ := answered
        cases answered
  | writeAll data =>
    obtain ⟨after, all, ⟨wrote, either⟩ | ⟨cause, failed, exhausted⟩⟩ :=
      writeAllWatched_spec capped data stands sofar
    · simp only [SinkOperation.run, Sink.writeAll, run_bind, wrote, run_pure, stateAfter,
        offers]
      rcases either with ⟨rfl, rfl⟩ | settled
      · rw [List.append_nil] at all ⊢
        exact ⟨all, stands, fun settled _ => settled⟩
      · exact ⟨all, .inl settled, fun _ _ => settled⟩
    · simp only [SinkOperation.run, Sink.writeAll, run_bind, failed, stateAfter,
        outcome, offers]
      refine ⟨all, .inr exhausted, fun _ answered => ?_⟩
      obtain ⟨count, answered⟩ := answered
      cases answered
  | flush =>
    simp only [SinkOperation.run, Sink.flush, run_bind, Watched.atOnce, onInner, offers,
      List.append_nil]
    obtain ⟨left, settles⟩ := stands.flush capped
    -- A flush that fails is passed over, and has not changed anything either.
    cases ran : Sink.flush watched.now.inner with
    | ok answer inner =>
      rw [ran] at left settles
      exact ⟨List.forall_mem_cons.mpr ⟨left.covered, sofar⟩, left, fun settled _ => settles settled⟩
    | error cause inner =>
      rw [ran] at left settles
      exact ⟨List.forall_mem_cons.mpr ⟨left.covered, sofar⟩, left, fun settled _ => settles settled⟩

/-- However the writer is used, at every moment the sink has a front of what it was offered. -/
theorem runEach_spec (capped : Capped σ holds capacity) (operations : List SinkOperation)
    (watched : Watched (Throttled σ))
    (stands : Stands holds capacity limiter offered watched.now)
    (sofar : ∀ moment ∈ watched.moments, Covered holds limiter offered moment) :
    let ran := runEach (operations.map SinkOperation.run) watched
    let sent := offered ++ offeredBy operations watched.now
    (∀ moment ∈ ran.2.moments, Covered holds limiter sent moment) ∧
      (Settled holds limiter offered watched.now →
        (∀ outcome ∈ ran.1, ∃ count, outcome = .ok count) →
          Settled holds limiter sent ran.2.now) := by
  -- Each operation meets what the one before it has left, failed or not.
  induction operations generalizing watched offered with
  | nil =>
    simp only [List.map_nil, runEach, offeredBy, List.append_nil]
    exact ⟨sofar, fun settled _ => settled⟩
  | cons operation operations ih =>
    obtain ⟨all, left, settles⟩ := run_spec capped stands sofar operation
    obtain ⟨allRest, settlesRest⟩ := ih _ left all
    have same : (stateAfter (operation.run watched)).now =
        stateAfter (operation.run watched.now) :=
      Watched.Follows.stateAfter_now (run_follows capped.writeAll operation) watched
    rw [same, List.append_assoc] at allRest settlesRest
    refine ⟨allRest, fun settled answered => ?_⟩
    obtain ⟨first, rest⟩ := List.forall_mem_cons.mp answered
    exact settlesRest (same ▸ settles settled first) rest

end Throttled

namespace Store

/-- The store has exactly these bytes, and a capacity that they do not exceed. -/
def Within (capacity : Nat) : Holding Store := fun store given =>
  store.capacity = some capacity ∧ store.toBytes = given ∧ given.length ≤ capacity

/-- A store with a capacity accepts so many bytes and no more. -/
theorem capped (capacity : Nat) : Capped Store (Within capacity) capacity where
  within has := has.2.2
  ok := by
    rintro store given data accepted after ⟨limited, rfl, fits⟩ present wrote
    change Store.write data store = _ at wrote
    by_cases room : store.toBytes.length + data.length ≤ capacity
    · rw [write_of_room (hasRoom_of_le limited room)] at wrote
      cases wrote
      refine ⟨Nat.le_refl _, fun nothing => absurd (List.eq_nil_of_length_eq_zero nothing) present,
        limited, by simp [toBytes], ?_⟩
      rw [List.take_length, List.length_append]
      exact room
    · have short := Nat.not_le.mp room
      rw [write_of_short limited fits short] at wrote
      split at wrote
      · cases wrote
      · next unfilled =>
        -- What is left of the capacity is filled up.
        cases wrote
        refine ⟨by omega, fun nothing => by omega, limited, by simp [toBytes], ?_⟩
        rw [List.length_append, List.length_take]
        omega
  error := by
    rintro store given data cause after ⟨limited, rfl, fits⟩ present failed
    change Store.write data store = _ at failed
    by_cases room : store.toBytes.length + data.length ≤ capacity
    · rw [write_of_room (hasRoom_of_le limited room)] at failed
      cases failed
    · rw [write_of_short limited fits (Nat.not_le.mp room)] at failed
      split at failed
      · next filled =>
        cases failed
        exact ⟨filled, limited, rfl, fits⟩
      · cases failed
  writeAll _ := rfl
  flush has := has

end Store

namespace TokenBucket

/-- Nothing that is granted by a bucket is more than it can hold. -/
theorem le_capacity_of_granted {rate size : Nat} {charges : List Nat}
    (granted : (TokenBucket.full rate size).limiter.Granted charges) {charge : Nat}
    (member : charge ∈ charges) : charge ≤ (TokenBucket.full rate size).capacity := by
  obtain ⟨later, earlier, rfl⟩ := List.append_of_mem member
  obtain ⟨_, bounded⟩ := granted charge earlier (List.suffix_append ..)
  have capacity : (TokenBucket.full rate size).limiter.maxGrant earlier = max size 1 := rfl
  show charge ≤ max size 1
  omega

end TokenBucket

namespace Throttled

variable [Sink σ]

/--
A budget is charged before every byte and for every byte, however its writer is used.

At every moment at least as much was charged as the sink has received, each time no less than one
and no more than was granted. A bucket never cuts such a charge down, and loses as many tokens as it
says, unless it holds more than a double can count one by one. The sink has a front of what it was
offered; as long as nothing failed it has all of that, and the sum is exactly its length.
-/
theorem charged_before (capped : Capped σ holds capacity) (limiter : RateLimiter) {sink : σ}
    (fresh : holds sink []) (operations : List SinkOperation) :
    let start : Throttled σ := { inner := sink, limiter }
    let sent := offeredBy operations start
    let ran := runEach (operations.map SinkOperation.run) start
    let watched := runEach (operations.map SinkOperation.run) (Watched.start start)
    watched.1 = ran.1 ∧ watched.2.now = ran.2 ∧
      (∀ moment ∈ watched.2.moments,
        (∃ received, holds moment.inner received ∧ received.length ≤ moment.charges.sum ∧
          received <+: sent) ∧
        (∀ charge earlier, charge :: earlier <:+ moment.charges →
          1 ≤ charge ∧ charge ≤ max 1 (limiter.maxGrant earlier)) ∧
        ∀ rate size, limiter = (TokenBucket.full rate size).limiter → ∀ charge ∈ moment.charges,
          charge ≤ (TokenBucket.full rate size).capacity ∧
            (size ≤ 2 ^ 53 → ∀ (bucket after : TokenBucket) turns,
              bucket.capacity = (TokenBucket.full rate size).capacity →
              bucket.acquire charge turns = some after →
              ∃ ready, bucket.Waits turns ready ∧ after = { ready with tokens := after.tokens } ∧
                after.tokens.units + charge * Double.unitsOfOne = ready.tokens.units)) ∧
      ((∀ outcome ∈ ran.1, ∃ count, outcome = .ok count) →
        holds ran.2.inner sent ∧ ran.2.charges.sum = sent.length) := by
  intro start sent ran watched
  -- Nothing has happened at first.
  have settled : Settled holds limiter [] start := ⟨rfl, limiter.granted_nil, fresh, rfl⟩
  have stands : Stands holds capacity limiter [] start := .inl settled
  have first : ∀ moment ∈ [start], Covered holds limiter [] moment := by
    simpa using stands.covered
  obtain ⟨same, final⟩ := Watched.Follows.runEach
    (List.forall₂_map_left_iff.mpr (List.forall₂_map_right_iff.mpr
      (List.forall₂_same.mpr fun operation _ => run_follows capped.writeAll operation)))
    (Watched.start start)
  obtain ⟨covered, settles⟩ :=
    runEach_spec capped operations (Watched.start start) stands first
  refine ⟨same, final, fun moment member => ?_, fun answered => ?_⟩
  · have at_moment := covered moment member
    refine ⟨at_moment.received, at_moment.granted, ?_⟩
    rintro rate size rfl charge member
    have fits := TokenBucket.le_capacity_of_granted at_moment.granted member
    refine ⟨fits, fun small bucket after turns same acquired => ?_⟩
    have fine : bucket.capacity ≤ 2 ^ 53 := by
      rw [same]
      exact Nat.max_le.mpr ⟨small, by decide⟩
    exact TokenBucket.acquire_exact fine (same ▸ fits) acquired
  · have left := settles settled (same ▸ answered)
    rw [final] at left
    exact ⟨left.held, left.charged⟩

/--
A store is full in the middle of a piece that was charged for, unless it has room enough.

An empty bucket is empty again after a charge for as many tokens as it holds when it is full.
-/
theorem charged_before_store :
    let operations : List SinkOperation :=
      [.write [1, 2, 3, 4], .writeAll [5, 6, 7, 8], .flush, .write [9]]
    let dwindling : RateLimiter := ⟨fun granted => 3 - granted.length⟩
    let start (limiter : RateLimiter) (capacity : Nat) : Throttled Store :=
      { inner := { capacity := some capacity }, limiter }
    let tight := start dwindling 6
    let roomy := start (TokenBucket.full 1 3).limiter 100
    let drained : TokenBucket := { TokenBucket.full 1 3 with tokens := .ofInt 0 }
    let turns : List Duration := [.ofSeconds 1, .ofSeconds 9]
    let moments := (runEach (operations.map SinkOperation.run) (Watched.start tight)).2.moments
    let after := (runEach (operations.map SinkOperation.run) roomy).2
    (Store.Within 6 tight.inner [] ∧ offeredBy operations tight = [1, 2, 3, 5, 6, 7, 8, 9] ∧
      moments.map (fun moment => (moment.charges.sum, moment.inner.toBytes.length)) =
        [(8, 6), (8, 6), (7, 6), (7, 6), (7, 6), (6, 6), (6, 5), (5, 5), (5, 3), (3, 3), (3, 0),
          (0, 0)] ∧
      ∀ moment ∈ moments, moment.inner.toBytes.length ≤ moment.charges.sum ∧
        moment.inner.toBytes <+: offeredBy operations tight) ∧
      (Store.Within 100 after.inner [1, 2, 3, 5, 6, 7, 8, 9] ∧ after.charges = [1, 1, 3, 3]) ∧
      drained.acquire 3 turns = some drained ∧
      ∃ ready, drained.Waits turns ready ∧
        drained.tokens.units + 3 * Double.unitsOfOne = ready.tokens.units := by
  intro operations dwindling start tight roomy drained turns moments after
  have fresh : Store.Within 6 tight.inner [] := ⟨rfl, rfl, by decide⟩
  have freshToo : Store.Within 100 roomy.inner [] := ⟨rfl, rfl, by decide⟩
  obtain ⟨_, _, covered, _⟩ := charged_before (Store.capped 6) dwindling fresh operations
  obtain ⟨_, _, counted, settled⟩ :=
    charged_before (Store.capped 100) (TokenBucket.full 1 3).limiter freshToo operations
  have charges : after.charges = [1, 1, 3, 3] := by decide +kernel
  refine ⟨⟨fresh, by decide +kernel, by decide +kernel, fun moment member => ?_⟩, ⟨?_, charges⟩,
    ?_⟩
  · obtain ⟨⟨received, ⟨_, rfl, _⟩, paid, begins⟩, _⟩ := covered moment member
    exact ⟨paid, begins⟩
  · have outcomes : (runEach (operations.map SinkOperation.run) roomy).1 =
        [.ok 3, .ok 4, .ok 0, .ok 1] := by
      decide +kernel
    have offered : offeredBy operations roomy = [1, 2, 3, 5, 6, 7, 8, 9] := by decide +kernel
    have answered : ∀ outcome ∈ (runEach (operations.map SinkOperation.run) roomy).1,
        ∃ count, outcome = .ok count := by
      simp [outcomes]
    obtain ⟨held, _⟩ := settled answered
    rw [← offered]
    exact held
  · have acquired : drained.acquire 3 turns = some drained := by decide +kernel
    let moments := (runEach (operations.map SinkOperation.run) (Watched.start roomy)).2.moments
    obtain ⟨moment, member, charged⟩ : ∃ moment ∈ moments, 3 ∈ moment.charges := by decide +kernel
    -- Time passes over the bucket until it is full, and all of that is taken.
    obtain ⟨_, exact⟩ := (counted moment member).2.2 1 3 rfl 3 charged
    obtain ⟨ready, waits, _, balance⟩ := exact (by decide) drained drained turns rfl acquired
    exact ⟨acquired, ready, waits, balance⟩

/-- A bucket that counts in greater steps than one is charged for a byte, and loses no token. -/
theorem charged_before_coarse :
    let bucket := TokenBucket.full 1 0x1000000000000000
    let start : Throttled Store := { inner := {}, limiter := bucket.limiter }
    let after := stateAfter (SinkOperation.run (.write [7]) start)
    after.charges = [1] ∧ after.inner.toBytes = [7] ∧ bucket.capacity = 0x1000000000000000 ∧
      bucket.acquire 1 [.ofSeconds 0] = some bucket := by
  decide +kernel

end Throttled

end RemoteCall
