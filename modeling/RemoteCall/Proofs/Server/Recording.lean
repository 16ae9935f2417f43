import RemoteCall.Proofs.Steps
import RemoteCall.Server.Trace

/-! What steps come to and record, one after the other, whatever was recorded before them. -/

namespace RemoteCall

variable {α β : Type}

@[simp] theorem run_ofExcept (result : Except Failure α) (trace : Trace) :
    Traced.ofExcept result trace =
      match result with
      | .ok answer => .ok answer trace
      | .error failure => .error failure trace := by
  -- A result at hand is not traced.
  cases result <;> rfl

@[simp] theorem run_tally (counted : Tally) (trace : Trace) :
    tally counted trace = .ok () (trace ++ [.counted counted]) := rfl

namespace Traced

/-- A step comes to an outcome, and records these events on the way. -/
def Gives (step : Traced α) (outcome : Except Failure α) (events : List Event) : Prop :=
  -- Neither depends on the events before.
  ∀ trace, step trace = ofExcept outcome (trace ++ events)

namespace Gives

/-- A result at hand records nothing. -/
theorem ofExcept (result : Except Failure α) : Gives (Traced.ofExcept result) result [] := by
  intro trace
  rw [List.append_nil]

/-- An answer at hand records nothing. -/
theorem pure (answer : α) : Gives (Pure.pure answer) (.ok answer) [] := ofExcept (.ok answer)

/-- A failure alone records nothing. -/
theorem throw (failure : Failure) :
    Gives (MonadExcept.throw failure : Traced α) (.error failure) [] :=
  ofExcept (.error failure)

/-- An event is recorded by itself. -/
theorem record (event : Event) : Gives (RemoteCall.record event) (.ok ()) [event] := fun _ => rfl

variable {first : Traced α} {next : α → Traced β} {events more : List Event}

/-- A step that answers is followed by the next one, and by its events. -/
theorem bind {answer : α} {outcome : Except Failure β} (gives : Gives first (.ok answer) events)
    (givesNext : Gives (next answer) outcome more) :
    Gives (first >>= next) outcome (events ++ more) := by
  intro trace
  rw [run_bind, gives trace, run_ofExcept, ← List.append_assoc]
  exact givesNext _

/-- A step that fails is the last one. -/
theorem bind_error {failure : Failure} (gives : Gives first (.error failure) events) :
    Gives (first >>= next) (.error failure) events := by
  intro trace
  rw [run_bind, gives trace]
  rfl

/-- An answer that is changed in the end has the same events. -/
theorem bind_pure {outcome : Except Failure α} (gives : Gives first outcome events)
    (change : α → β) :
    Gives (first >>= fun answer => Pure.pure (change answer)) (outcome.map change) events := by
  intro trace
  rw [run_bind, gives trace]
  cases outcome with
  | ok answer => rfl
  | error failure => rfl

/-- An attempt does not fail. -/
theorem attempt {outcome : Except Failure α} (gives : Gives first outcome events) :
    Gives (Traced.attempt first) (.ok outcome) events := by
  intro trace
  rw [Traced.attempt, gives trace]
  cases outcome with
  | ok answer => rfl
  | error failure => rfl

end Gives

end Traced

end RemoteCall
