import RemoteCall.Message.Session
import RemoteCall.Metrics
import RemoteCall.Typed.Conversion

/-! What happens during calls, as a trace of events. -/

namespace RemoteCall

/-- What a handler is told beside the request itself. -/
structure Context where
  /-- The session of a request that came in an envelope. -/
  session : Option SessionId := none
  requestId : Option String := none
  /-- On whose behalf a privileged request is executed. -/
  subject : Option String := none
  deriving DecidableEq, Repr, Inhabited

/-- What a check of authorization comes to. -/
inductive Verdict where
  | authorized
  | notAuthorized (message : String)
  | notAuthenticated (message : String)
  deriving DecidableEq, Repr, Inhabited

/-- Typed data of any shape. -/
structure Typed where
  shape : Shape
  data : shape.Data

/-- A typed request in its context. -/
structure Call where
  request : Typed
  context : Context

/-- Something that happens during a call. -/
inductive Event where
  | counted (tally : Tally)
  /-- It was checked whether a privileged request may be executed. -/
  | probed (call : Call) (verdict : Verdict)
  /-- The body of a handler ran. -/
  | ran (call : Call)
  /-- A method of a service ran on these arguments. -/
  | called (interface method : String) (arguments : Typed)
  /-- A caller was asked what to make of a refusal. -/
  | consulted (verdict : Verdict)

/-- What happened so far, in order. -/
abbrev Trace := List Event

namespace Trace

/-- What the events of a trace add up to. -/
def metrics (trace : Trace) : Metrics :=
  trace.foldl (fun metrics event =>
    match event with
    | .counted tally => metrics.count tally
    | _ => metrics) {}

end Trace

/-- A step whose events are recorded, also when it fails. -/
abbrev Traced := EStateM Failure Trace

/-- Records an event. -/
def record (event : Event) : Traced Unit := modify (· ++ [event])

/-- Counts something. -/
def tally (counted : Tally) : Traced Unit := record (.counted counted)

namespace Traced

variable {α : Type}

/-- A result that comes without events. -/
def ofExcept : Except Failure α → Traced α
  | .ok result => pure result
  | .error failure => throw failure

/-- The outcome of a step, whether it fails or not. -/
def attempt (step : Traced α) : Traced (Except Failure α) := fun trace =>
  match step trace with
  | .ok result trace => .ok (.ok result) trace
  | .error failure trace => .ok (.error failure) trace

end Traced

end RemoteCall
