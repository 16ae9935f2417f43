import RemoteCall.Stream.Sink

/-! A sink that gathers small writes before it passes them on. -/

namespace RemoteCall

/-- A sink with a buffer in front of another one. -/
structure Buffered (σ : Type) where
  inner : σ
  capacity : Nat := 8192
  held : Gathered := .empty

namespace Buffered

variable {σ : Type} [Sink σ]

/-- Offers pending bytes until the inner sink has accepted all, and keeps those it has not. -/
def drain : (pending : Bytes) → StreamM (Buffered σ) Unit
  | [] => fun buffered => .ok () { buffered with held := .empty }
  | byte :: rest => fun buffered =>
    match Sink.write (byte :: rest) buffered.inner with
    | .error cause inner =>
      .error cause { buffered with inner, held := .ofBytes (byte :: rest) }
    | .ok 0 inner =>
      .error .bufferRefused { buffered with inner, held := .ofBytes (byte :: rest) }
    | .ok (accepted + 1) inner => drain (rest.drop accepted) { buffered with inner }
termination_by pending => pending.length
decreasing_by simp only [List.length_drop, List.length_cons]; omega

/-- Passes on all that is held. -/
def passOn : StreamM (Buffered σ) Unit := do
  drain (← get).held.toBytes

/-- A step on the sink behind the buffer. -/
def onInner {α : Type} (step : StreamM σ α) : StreamM (Buffered σ) α := fun buffered =>
  match step buffered.inner with
  | .ok answer inner => .ok answer { buffered with inner }
  | .error cause inner => .error cause { buffered with inner }

/-- Adds bytes to those held. -/
def hold (bytes : Bytes) : StreamM (Buffered σ) Unit :=
  modify fun buffered => { buffered with held := buffered.held.push bytes }

/-- Makes room for so many bytes, and answers whether the buffer can hold that many at all. -/
def makeRoom (length : Nat) : StreamM (Buffered σ) Bool := do
  let buffered ← get
  if buffered.capacity - buffered.held.size < length then
    passOn
  return length < buffered.capacity

/-- Holds a write that the buffer can hold, and passes any other one on. -/
def write (bytes : Bytes) : StreamM (Buffered σ) Nat := do
  if ← makeRoom bytes.length then
    hold bytes
    return bytes.length
  else
    onInner (Sink.write bytes)

/-- Holds bytes that the buffer can hold, and passes any others on in full. -/
def writeAll (bytes : Bytes) : StreamM (Buffered σ) Unit := do
  if ← makeRoom bytes.length then
    hold bytes
  else
    onInner (Sink.writeAll bytes)

/-- Passes on all that is held, and has the inner sink do the same. -/
def flush : StreamM (Buffered σ) Unit := do
  passOn
  onInner Sink.flush

instance : Sink (Buffered σ) where
  write := write
  flush := flush
  writeAll := writeAll

/-- Gives the buffer up: what it holds is offered to the inner sink, whose refusal goes unheard. -/
def release (buffered : Buffered σ) : σ :=
  match passOn buffered with
  | .ok () buffered => buffered.inner
  | .error _ buffered => buffered.inner

end Buffered

end RemoteCall
