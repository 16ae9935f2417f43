import RemoteCall.Proofs.Stream.Operation

/-! Steps with all their moments kept: what they come to is the same as without them. -/

namespace RemoteCall

variable {ε σ α β : Type}

/-- Something that is worked on, and the states in which it was on the way. -/
structure Watched (σ : Type) where
  now : σ
  /-- The states up to now, the latest first. -/
  moments : List σ

namespace Watched

/-- Nothing has happened yet. -/
def start (now : σ) : Watched σ := ⟨now, [now]⟩

/-- A step that happens all at once. -/
def atOnce (step : EStateM ε σ α) : EStateM ε (Watched σ) α := fun watched =>
  match step watched.now with
  | .ok answer now => .ok answer ⟨now, now :: watched.moments⟩
  | .error failure now => .error failure ⟨now, now :: watched.moments⟩

/-- What a step comes to when the moments on the way are forgotten. -/
def forget : EStateM.Result ε (Watched σ) α → EStateM.Result ε σ α
  | .ok answer watched => .ok answer watched.now
  | .error failure watched => .error failure watched.now

/-- A step that is watched does what another does that is not. -/
def Follows (watched : EStateM ε (Watched σ) α) (step : EStateM ε σ α) : Prop :=
  -- The moments before do not matter.
  ∀ before, forget (watched before) = step before.now

namespace Follows

/-- An answer at hand is the same for both. -/
theorem pure (answer : α) :
    Follows (Pure.pure answer : EStateM ε (Watched σ) α) (Pure.pure answer) := fun _ => rfl

/-- So is a failure. -/
theorem throw (failure : ε) :
    Follows (MonadExcept.throw failure : EStateM ε (Watched σ) α) (MonadExcept.throw failure) :=
  fun _ => rfl

/-- What happens at once is what would happen anyway. -/
theorem atOnce (step : EStateM ε σ α) : Follows (Watched.atOnce step) step := by
  intro before
  unfold Watched.atOnce
  cases step before.now with
  | ok answer now => rfl
  | error failure now => rfl

/-- Steps in sequence are followed one by one. -/
theorem bind {watched : EStateM ε (Watched σ) α} {step : EStateM ε σ α}
    {watchedNext : α → EStateM ε (Watched σ) β} {next : α → EStateM ε σ β}
    (follows : Follows watched step) (followsNext : ∀ answer,
      Follows (watchedNext answer) (next answer)) :
    Follows (watched >>= watchedNext) (step >>= next) := by
  intro before
  rw [run_bind, run_bind, ← follows before]
  -- The second step meets what the first has left, in both.
  cases watched before with
  | ok answer between => exact followsNext answer between
  | error failure between => rfl

/-- What both find out about the state is the same. -/
theorem get_bind {watchedNext : Watched σ → EStateM ε (Watched σ) β} {next : σ → EStateM ε σ β}
    (followsNext : ∀ watched, Follows (watchedNext watched) (next watched.now)) :
    Follows (get >>= watchedNext) (get >>= next) :=
  fun before => followsNext before before

/-- Writing until everything is accepted is followed from write to write. -/
theorem writeAllWith {watchedWrite : Bytes → StreamM (Watched σ) Nat}
    {write : Bytes → StreamM σ Nat} (follows : ∀ data, Follows (watchedWrite data) (write data))
    (data : Bytes) :
    Follows (RemoteCall.writeAllWith watchedWrite data) (RemoteCall.writeAllWith write data) := by
  fun_induction RemoteCall.writeAllWith write data with
  | case1 =>
    rw [RemoteCall.writeAllWith]
    exact .pure ()
  | case2 byte rest ih =>
    rw [RemoteCall.writeAllWith]
    refine (follows (byte :: rest)).bind fun accepted => ?_
    cases accepted with
    | zero => exact .throw _
    | succ accepted => exact ih accepted

/-- What a step leaves behind is the same. -/
theorem stateAfter_now {watched : EStateM ε (Watched σ) α} {step : EStateM ε σ α}
    (follows : Follows watched step) (before : Watched σ) :
    (stateAfter (watched before)).now = stateAfter (step before.now) := by
  rw [← follows before]
  cases watched before with
  | ok answer after => rfl
  | error failure after => rfl

/-- What a step comes to is the same. -/
theorem outcome_eq {watched : EStateM ε (Watched σ) α} {step : EStateM ε σ α}
    (follows : Follows watched step) (before : Watched σ) :
    outcome (watched before) = outcome (step before.now) := by
  rw [← follows before]
  cases watched before with
  | ok answer after => rfl
  | error failure after => rfl

/-- Steps one after the other are followed whatever each comes to. -/
theorem runEach {watched : List (EStateM ε (Watched σ) α)} {steps : List (EStateM ε σ α)}
    (follows : List.Forall₂ Follows watched steps) (before : Watched σ) :
    (RemoteCall.runEach watched before).1 = (RemoteCall.runEach steps before.now).1 ∧
      (RemoteCall.runEach watched before).2.now = (RemoteCall.runEach steps before.now).2 := by
  induction follows generalizing before with
  | nil => exact ⟨rfl, rfl⟩
  | @cons first step others steps follows _ ih =>
    obtain ⟨outcomes, final⟩ := ih (stateAfter (first before))
    simp only [RemoteCall.runEach, follows.outcome_eq, follows.stateAfter_now, outcomes, final,
      and_self]

end Follows

end Watched

namespace Throttled

/-- Writing behind a budget until everything is accepted is writing so to the sink itself. -/
theorem onInner_writeAllWith (write : Bytes → StreamM σ Nat) (data : Bytes) :
    (onInner (writeAllWith write data) : StreamM (Throttled σ) Unit) =
      writeAllWith (fun data => onInner (write data)) data := by
  fun_induction writeAllWith write data with
  | case1 =>
    rw [writeAllWith]
    rfl
  | case2 byte rest ih =>
    funext throttled
    rw [writeAllWith, run_bind]
    simp only [onInner, run_bind]
    cases wrote : write (byte :: rest) throttled.inner with
    | error cause inner => rfl
    | ok accepted inner =>
      cases accepted with
      | zero => rfl
      | succ accepted => exact congrFun (ih accepted) { throttled with inner }

/-- The budget after one more charge. -/
def charge (amount : Nat) (throttled : Throttled σ) : Throttled σ :=
  { throttled with charges := amount :: throttled.charges }

variable [Sink σ]

/-- Passes bytes on in writes that happen at once each, until the sink has accepted everything. -/
def passOn (bytes : Bytes) : StreamM (Watched (Throttled σ)) Unit :=
  writeAllWith (fun data => Watched.atOnce (onInner (Sink.write data))) bytes

/-- Charges, which happens at once, and then passes on what was charged for. -/
def writeWatched (bytes : Bytes) : StreamM (Watched (Throttled σ)) Nat := do
  if bytes.isEmpty then return 0
  let piece := bytes.take (← get).now.slice
  Watched.atOnce (modify (charge piece.length))
  passOn piece
  return piece.length

instance : Sink (Watched (Throttled σ)) where
  write := writeWatched
  flush := Watched.atOnce (onInner Sink.flush)

/-- A write that is watched is the same write, if the sink is written to until all is accepted. -/
theorem writeWatched_follows
    (repeated : ∀ data, Sink.writeAll (σ := σ) data = writeAllWith Sink.write data)
    (data : Bytes) :
    Watched.Follows (writeWatched data) (Throttled.write (σ := σ) data) := by
  unfold writeWatched Throttled.write
  split
  · exact .pure 0
  · refine .get_bind fun watched => .bind (.atOnce _) fun _ => .bind ?_ fun _ => .pure _
    rw [repeated, onInner_writeAllWith]
    exact .writeAllWith (fun data => .atOnce _) _

/-- Whatever is asked, being watched makes no difference to what becomes of it. -/
theorem run_follows
    (repeated : ∀ data, Sink.writeAll (σ := σ) data = writeAllWith Sink.write data)
    (operation : SinkOperation) :
    Watched.Follows (operation.run (σ := Watched (Throttled σ)))
      (operation.run (σ := Throttled σ)) := by
  cases operation with
  | write data => exact writeWatched_follows repeated data
  | writeAll data =>
    exact .bind (.writeAllWith (writeWatched_follows repeated) data) fun _ => .pure _
  | flush => exact .bind (.atOnce _) fun _ => .pure _

end Throttled

end RemoteCall
