import RemoteCall.Proofs.Frame.Underway
import RemoteCall.Proofs.Stream.Capacity
import RemoteCall.Proofs.Stream.Operation

/-! A body in chunks for a store with a capacity, beside the same body for a store without one. -/

namespace RemoteCall.Chunked

variable {σ α β : Type} {kept : σ → Prop} {capacity : Nat}

/-- A step on the sink that takes the chunks keeps what it keeps of that sink. -/
theorem onInner_keeps {step : StreamM σ α} (keeps : Keeps kept step) :
    Keeps (fun chunked => kept chunked.inner) (onInner step) := by
  intro chunked holds
  have left := keeps chunked.inner holds
  unfold onInner
  -- What is pending plays no part in it.
  split
  · next ran => rwa [ran] at left
  · next ran => rwa [ran] at left

section Guarded

variable [Sink σ]

/-- Sending the pending chunk does nothing with the sink but write to it. -/
theorem sendPending_keepsInner (guarded : Guarded σ kept) :
    Keeps (fun chunked => kept chunked.inner) (sendPending (σ := σ)) := by
  unfold sendPending
  refine Keeps.bind (fun chunked holds => holds) fun chunked => ?_
  dsimp only
  split
  · exact .pure ()
  · refine (onInner_keeps (guarded.writeAll _)).bind fun _ => ?_
    exact (onInner_keeps (guarded.writeAll _)).bind fun _ chunked holds => holds

/-- Chunks let nothing happen to the sink that takes them but what is done with that sink. -/
theorem guarded_inner (guarded : Guarded σ kept) :
    Guarded (Chunked σ) fun chunked => kept chunked.inner := by
  have write (data : Bytes) : Keeps (fun chunked => kept chunked.inner)
      (Chunked.write (σ := σ) data) := by
    intro chunked holds
    simp only [Chunked.write, run_bind, run_get, run_set]
    -- What is accepted waits in the pending chunk, and only a full one goes out.
    split
    · exact (sendPending_keepsInner guarded).bind (fun _ => .pure _) _ holds
    · exact holds
  exact ⟨write, writeAllWith_keeps write,
    (sendPending_keepsInner guarded).bind fun _ => onInner_keeps guarded.flush⟩

/-- Finishing a body does nothing with the sink but write to it and flush it. -/
theorem finish_keepsInner (guarded : Guarded σ kept) :
    Keeps (fun chunked => kept chunked.inner) (finish (σ := σ)) := by
  refine (sendPending_keepsInner guarded).bind fun _ => ?_
  exact (onInner_keeps (guarded.writeAll _)).bind fun _ => onInner_keeps guarded.flush

end Guarded

/-- Both bodies are as far, and what went out fits the store that has a capacity. -/
structure Level (capacity : Nat) (limited free : Chunked Store) : Prop where
  sameSize : limited.chunkSize = free.chunkSize
  samePending : limited.pending = free.pending
  inner : Store.Level capacity limited.inner free.inner

/--
A step that succeeds on a body for the store without a capacity is tracked on the other body.

There it succeeds in the same way, or it fails with the store outrun.
-/
structure Tracks (capacity : Nat) (step : StreamM (Chunked Store) α) : Prop where
  level : ∀ limited free {answer after}, Level capacity limited free →
    step free = .ok answer after →
      (∃ limitedAfter, step limited = .ok answer limitedAfter ∧
        Level capacity limitedAfter after) ∨
      ∃ cause limitedAfter, step limited = .error cause limitedAfter ∧
        Store.Outrun capacity limitedAfter.inner after.inner
  grows : ∀ front, Keeps (fun chunked => front <+: chunked.inner.toBytes) step

namespace Tracks

/-- An answer at hand is tracked. -/
theorem pure (answer : α) : Tracks capacity (Pure.pure answer) where
  level limited free _ _ level ran := by
    cases ran
    exact .inl ⟨limited, rfl, level⟩
  grows _ := .pure answer

/-- A failure at hand is never a success that there would be to track. -/
theorem throw (cause : StreamError) :
    Tracks capacity (MonadExcept.throw cause : StreamM (Chunked Store) α) where
  level _ _ _ _ _ ran := nomatch ran
  grows _ := .throw cause

/-- Steps in sequence are tracked if both of them are. -/
theorem bind {first : StreamM (Chunked Store) α} {next : α → StreamM (Chunked Store) β}
    (tracks : Tracks capacity first) (tracksNext : ∀ answer, Tracks capacity (next answer)) :
    Tracks capacity (first >>= next) where
  level limited free _ _ level ran := by
    obtain ⟨answer, between, ranFirst, ranNext⟩ := run_bind_eq_ok_iff.mp ran
    rcases tracks.level limited free level ranFirst with
      ⟨limitedBetween, ranLimited, level⟩ | ⟨cause, limitedAfter, failed, outrun⟩
    · rw [run_bind, ranLimited]
      exact (tracksNext answer).level limitedBetween between level ranNext
    -- Where the first step fails, the store without a capacity goes on alone.
    · refine .inr ⟨cause, limitedAfter, by rw [run_bind, failed], ?_⟩
      have grows := (tracksNext answer).grows between.inner.toBytes
      exact outrun.mono ⟨outrun.clipped.limited, rfl⟩
        (grows.of_ok List.prefix_rfl ranNext)
  grows front := (tracks.grows front).bind fun answer => (tracksNext answer).grows front

/-- What is offered to the stores is tracked. -/
theorem onInner {step : StreamM Store Unit} {data : Bytes} (fills : Store.Fills step data)
    (grows : ∀ front, Keeps (fun store => front <+: store.toBytes) step) :
    Tracks capacity (onInner step) where
  level limited free _ _ level ran := by
    cases ranInner : step free.inner with
    | error cause inner => simp [Chunked.onInner, ranInner] at ran
    | ok answer inner =>
      simp only [Chunked.onInner, ranInner, EStateM.Result.ok.injEq] at ran
      obtain ⟨_, rfl⟩ := ran
      rcases fills.level level.inner ranInner with
        ⟨limitedAfter, ranLimited, inner⟩ | ⟨cause, limitedAfter, failed, outrun⟩
      · exact .inl ⟨{ limited with inner := limitedAfter },
          by simp only [Chunked.onInner, ranLimited], level.sameSize, level.samePending, inner⟩
      · exact .inr ⟨cause, { limited with inner := limitedAfter },
          by simp only [Chunked.onInner, failed], outrun⟩
  grows front := onInner_keeps (grows front)

/-- What a step reads of a body, apart from the stores, is the same for both bodies. -/
theorem asking (next : Nat → Gathered → StreamM (Chunked Store) α)
    (tracks : ∀ size pending, Tracks capacity (next size pending)) :
    Tracks capacity (get >>= fun chunked => next chunked.chunkSize chunked.pending) where
  level limited free _ _ level ran := by
    rw [run_bind, run_get] at ran ⊢
    dsimp only at ran ⊢
    rw [level.sameSize, level.samePending]
    exact (tracks _ _).level limited free level ran
  grows front := Keeps.bind (fun _ holds => holds) fun chunked => (tracks _ _).grows front

/-- What is pending may change in the same way for both bodies. -/
theorem modify (change : Gathered → Gathered) :
    Tracks capacity (modify fun chunked => { chunked with pending := change chunked.pending }) where
  level limited free _ _ level ran := by
    cases ran
    exact .inl ⟨_, rfl, level.sameSize, congrArg change level.samePending, level.inner⟩
  grows _ _ holds := holds

end Tracks

/-- A complete write to the stores is tracked. -/
theorem tracks_writeAll (data : Bytes) :
    Tracks capacity (onInner (Sink.writeAll (σ := Store) data)) :=
  .onInner (Store.fills_writeAll data) fun front => (Store.guarded_front front).writeAll data

/-- A flush of the stores is tracked. -/
theorem tracks_flush : Tracks capacity (onInner (Sink.flush (σ := Store))) :=
  .onInner Store.fills_flush fun front => (Store.guarded_front front).flush

/-- Sending the pending chunk is tracked. -/
theorem tracks_sendPending : Tracks capacity (sendPending (σ := Store)) := by
  refine .asking (fun _ chunk => if chunk.isEmpty then Pure.pure () else do
    onInner (Sink.writeAll (Bytes.ofNatBE 4 chunk.size))
    onInner (Sink.writeAll chunk.toBytes)
    modify fun chunked => { chunked with pending := .empty }) fun _ chunk => ?_
  split
  · exact .pure ()
  · refine (tracks_writeAll _).bind fun _ => (tracks_writeAll _).bind fun _ => ?_
    exact .modify fun _ => .empty

/-- A write is tracked. -/
theorem tracks_write (data : Bytes) : Tracks capacity (Chunked.write (σ := Store) data) where
  level limited free _ _ level ran := by
    simp only [Chunked.write, run_bind, run_get, run_set] at ran ⊢
    rw [level.sameSize, level.samePending]
    -- Both bodies accept as much, and wait with it or send it.
    have waiting : Level capacity
        { limited with
          chunkSize := free.chunkSize
          pending := free.pending.push (data.take (free.chunkSize - free.pending.size)) }
        { free with
          pending := free.pending.push (data.take (free.chunkSize - free.pending.size)) } :=
      ⟨rfl, rfl, level.inner⟩
    split at ran
    · next full =>
      rw [if_pos full]
      exact (tracks_sendPending.bind fun _ => .pure _).level _ _ waiting ran
    · next room =>
      rw [if_neg room]
      exact (Tracks.pure _).level _ _ waiting ran
  grows front := (guarded_inner (Store.guarded_front front)).write data

/-- Whatever is asked of a body is tracked. -/
theorem tracks_run (operation : SinkOperation) :
    Tracks capacity (operation.run (σ := Chunked Store)) := by
  cases operation with
  | write data => exact tracks_write data
  | writeAll data =>
    have every : Tracks capacity (writeAllWith (Chunked.write (σ := Store)) data) := by
      -- The induction follows the writes; one that accepts nothing ends them.
      fun_induction writeAllWith (Chunked.write (σ := Store)) data with
      | case1 => exact .pure ()
      | case2 byte rest ih =>
        refine (tracks_write (byte :: rest)).bind fun accepted => ?_
        cases accepted with
        | zero => exact .throw _
        | succ accepted => exact ih accepted
    exact every.bind fun _ => .pure _
  | flush =>
    have flushed : Tracks capacity (Chunked.flush (σ := Store)) :=
      tracks_sendPending.bind fun _ => tracks_flush
    exact flushed.bind fun _ => .pure _

/-- Finishing a body is tracked. -/
theorem tracks_finish : Tracks capacity (finish (σ := Store)) :=
  tracks_sendPending.bind fun _ => (tracks_writeAll _).bind fun _ => tracks_flush

/-- Both bodies are as far, or the store that has a capacity is outrun. -/
def Follows (capacity : Nat) (limited free : Chunked Store) : Prop :=
  Level capacity limited free ∨ Store.Outrun capacity limited.inner free.inner

/-- Either way the store has as much of the other one's bytes as it may have. -/
theorem Follows.clipped {limited free : Chunked Store} (follows : Follows capacity limited free) :
    Store.Clipped capacity limited.inner free.inner.toBytes := by
  rcases follows with level | outrun
  · exact level.inner.clipped
  · exact outrun.clipped

/-- A store that is outrun stays so, whatever becomes of the two bodies. -/
theorem outrun_of_keeps {step : StreamM (Chunked Store) α}
    (keeps : ∀ kept, Guarded Store kept → Keeps (fun chunked => kept chunked.inner) step)
    {limited free : Chunked Store} (outrun : Store.Outrun capacity limited.inner free.inner) :
    Store.Outrun capacity (stateAfter (step limited)).inner (stateAfter (step free)).inner := by
  have stays := keeps _ (Store.guarded_of_full capacity _ outrun.full) limited
    ⟨outrun.clipped.limited, rfl⟩
  exact outrun.mono stays (keeps _ (Store.guarded_front _) free List.prefix_rfl)

/-- Whatever is asked of both bodies, the one follows the other. -/
theorem Follows.run {limited free after : Chunked Store} {count : Nat}
    (follows : Follows capacity limited free) (operation : SinkOperation)
    (ran : operation.run free = .ok count after) :
    Follows capacity (stateAfter (operation.run limited)) after := by
  rcases follows with level | outrun
  · rcases (tracks_run operation).level limited free level ran with
      ⟨limitedAfter, ranLimited, level⟩ | ⟨cause, limitedAfter, failed, outrun⟩
    · rw [ranLimited]
      exact .inl level
    · rw [failed]
      exact .inr outrun
  · have outrun := outrun_of_keeps
      (fun _ guarded => SinkOperation.run_keeps (guarded_inner guarded) operation) outrun
    rw [ran] at outrun
    exact .inr outrun

/-- However both bodies are used, the one follows the other. -/
theorem Follows.runEach {holds : Holding (Chunked Store)}
    (lossless : Lossless (Chunked Store) holds)
    (nothing : ∀ sink {given}, holds sink given →
      ∃ after, Sink.write [] sink = .ok 0 after ∧ holds after given)
    (operations : List SinkOperation) {limited free : Chunked Store} {given : Bytes}
    (held : holds free given) (follows : Follows capacity limited free) :
    Follows capacity (runEach (operations.map SinkOperation.run) limited).2
      (runEach (operations.map SinkOperation.run) free).2 := by
  -- What is asked of the body for the store without a capacity never fails.
  induction operations generalizing limited free given with
  | nil => exact follows
  | cons operation operations ih =>
    obtain ⟨count, after, ran, _, held⟩ :=
      SinkOperation.run_of_lossless lossless nothing operation held
    have follows := follows.run operation ran
    simp only [List.map_cons, RemoteCall.runEach]
    rw [ran]
    exact ih held follows

/-- A body is not finished in a store that is full. -/
theorem finish_of_full {limited : Chunked Store} (bound : limited.inner.capacity = some capacity)
    (full : limited.inner.toBytes.length = capacity) :
    ∃ cause after, finish limited = .error cause after := by
  cases finished : finish limited with
  | error cause after => exact ⟨cause, after, rfl⟩
  | ok answer after =>
    -- The end of the body is four bytes, which there is no room for.
    obtain ⟨_, between, sent, ended⟩ := run_bind_eq_ok_iff.mp finished
    obtain ⟨_, _, wrote, _⟩ := run_bind_eq_ok_iff.mp ended
    have stays := (sendPending_keepsInner (Store.guarded_of_full capacity _ full)).of_ok
      ⟨bound, rfl⟩ sent
    have length := congrArg List.length stays.2
    obtain ⟨cause, inner, failed, _⟩ := (Store.fills_writeAll (Bytes.ofNatBE 4 0)).error
      between.inner stays.1 (by omega) (by rw [Bytes.length_ofNatBE]; omega)
    simp [onInner, failed] at wrote

/-- A body that is not finished, since its store is outrun, has as much of it as fits. -/
theorem finish_of_outrun {limited limitedAfter after : Chunked Store} {cause : StreamError}
    (failed : finish limited = .error cause limitedAfter)
    (outrun : Store.Outrun capacity limitedAfter.inner after.inner) :
    (stateAfter (finish limited)).inner.toBytes = after.inner.toBytes.take capacity ∧
      ((∃ done, finish limited = .ok () done) ↔ after.inner.toBytes.length ≤ capacity) := by
  rw [failed]
  refine ⟨outrun.clipped.clipped, ?_, fun fits => absurd outrun.exceeded (Nat.not_lt.mpr fits)⟩
  rintro ⟨_, success⟩
  cases success

/-- A body is finished exactly if all of it fits, and has as much of it as fits in any case. -/
theorem Follows.finish {limited free after : Chunked Store}
    (follows : Follows capacity limited free) (finished : finish free = .ok () after) :
    (stateAfter (Chunked.finish limited)).inner.toBytes = after.inner.toBytes.take capacity ∧
      ((∃ done, Chunked.finish limited = .ok () done) ↔
        after.inner.toBytes.length ≤ capacity) := by
  rcases follows with level | outrun
  · rcases tracks_finish.level limited free level finished with
      ⟨limitedAfter, finishedLimited, level⟩ | ⟨cause, limitedAfter, failed, outrun⟩
    · rw [finishedLimited]
      exact ⟨level.inner.clipped.clipped, fun _ => level.inner.fits, fun _ => ⟨limitedAfter, rfl⟩⟩
    · exact finish_of_outrun failed outrun
  -- A store that is outrun before has no room for the end of the body either.
  · obtain ⟨cause, limitedAfter, failed⟩ := finish_of_full outrun.clipped.limited outrun.full
    have outrun := outrun_of_keeps (fun _ guarded => finish_keepsInner guarded) outrun
    rw [failed, finished] at outrun
    exact finish_of_outrun failed outrun

end RemoteCall.Chunked
