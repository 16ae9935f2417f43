import RemoteCall.Stream.Sink

/-! Writing against a budget that every byte is charged to. -/

namespace RemoteCall

/-- A budget of bytes, which grants what it is asked for, but only so many at a time. -/
structure RateLimiter where
  /-- The most that is granted at once, after the given grants, of which the latest comes first. -/
  maxGrant : (granted : List Nat) → Nat

/-- A sink whose writes are charged to a budget before they are made. -/
structure Throttled (σ : Type) where
  inner : σ
  limiter : RateLimiter
  /-- What was charged so far, the latest charge first. -/
  charges : List Nat := []

namespace Throttled

variable {σ : Type}

/-- The most that the next write may pass on. -/
def slice (throttled : Throttled σ) : Nat :=
  max 1 (throttled.limiter.maxGrant throttled.charges)

/-- A step on the sink behind the budget. -/
def onInner {α : Type} (step : StreamM σ α) : StreamM (Throttled σ) α := fun throttled =>
  match step throttled.inner with
  | .ok answer inner => .ok answer { throttled with inner }
  | .error cause inner => .error cause { throttled with inner }

variable [Sink σ]

/-- Charges for as much of the bytes as is granted at once, and then passes that much on. -/
def write (bytes : Bytes) : StreamM (Throttled σ) Nat := do
  if bytes.isEmpty then return 0
  let piece := bytes.take (← get).slice
  modify fun throttled => { throttled with charges := piece.length :: throttled.charges }
  onInner (Sink.writeAll piece)
  return piece.length

instance : Sink (Throttled σ) where
  write := write
  flush := onInner Sink.flush

end Throttled

end RemoteCall
