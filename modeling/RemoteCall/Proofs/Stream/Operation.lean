import Mathlib.Data.List.Forall2
import RemoteCall.Proofs.Stream.Guarded
import RemoteCall.Proofs.Stream.Lossless

/-! Whatever can be asked of a sink, in any order, and how many bytes each time are accepted. -/

namespace RemoteCall

/-- Something that is asked of a sink. -/
inductive SinkOperation where
  /-- One write, which may be accepted in part. -/
  | write (data : Bytes)
  /-- As many writes as it takes. -/
  | writeAll (data : Bytes)
  | flush
  deriving DecidableEq, Repr

namespace SinkOperation

/-- The bytes that are offered to the sink. -/
def data : SinkOperation → Bytes
  | .write data | .writeAll data => data
  | .flush => []

/-- Asks it of a sink, which answers how many of the bytes it accepted. -/
def run {σ : Type} [Sink σ] : SinkOperation → StreamM σ Nat
  | .write data => Sink.write data
  | .writeAll data => do
    Sink.writeAll data
    return data.length
  | .flush => do
    Sink.flush
    return 0

/-- So many bytes are a fair answer: some of a write that offers any, and all of a complete one. -/
def Fair (count : Nat) : SinkOperation → Prop
  | .write data => count ≤ data.length ∧ (data ≠ [] → 0 < count)
  | .writeAll data => count = data.length
  | .flush => count = 0

/-- The bytes that were accepted; nothing is known to be where the sink failed. -/
def taken (operation : SinkOperation) : Except StreamError Nat → Bytes
  | .ok count => operation.data.take count
  | .error _ => []

/-- The bytes that were accepted by one operation after the other. -/
def accepted (operations : List SinkOperation) (outcomes : List (Except StreamError Nat)) : Bytes :=
  (List.zipWith taken operations outcomes).flatten

variable {σ : Type} [Sink σ] {holds : Holding σ}

/-- Whatever is asked of a sink, it keeps what its writes and its flushes keep. -/
theorem run_keeps {kept : σ → Prop} (guarded : Guarded σ kept) (operation : SinkOperation) :
    Keeps kept operation.run := by
  cases operation with
  | write data => exact guarded.write data
  | writeAll data => exact (guarded.writeAll data).bind fun _ => .pure _
  | flush => exact guarded.flush.bind fun _ => .pure _

/-- A sink that loses nothing answers every operation, and has what it says that it accepted. -/
theorem run_of_lossless (lossless : Lossless σ holds)
    (nothing : ∀ sink {given}, holds sink given →
      ∃ after, Sink.write [] sink = .ok 0 after ∧ holds after given)
    (operation : SinkOperation) {sink : σ} {given : Bytes} (held : holds sink given) :
    ∃ count after, operation.run sink = .ok count after ∧ operation.Fair count ∧
      holds after (given ++ operation.data.take count) := by
  cases operation with
  | write data =>
    -- Only a write of nothing may accept nothing.
    by_cases present : data = []
    · subst present
      obtain ⟨after, wrote, held⟩ := nothing sink held
      exact ⟨0, after, wrote, ⟨Nat.le_refl 0, absurd rfl⟩, by simpa using held⟩
    · obtain ⟨count, after, wrote, positive, bounded, held⟩ :=
        lossless.write sink given data held present
      exact ⟨count, after, wrote, ⟨bounded, fun _ => positive⟩, held⟩
  | writeAll data =>
    obtain ⟨_, after, wrote, held⟩ := lossless.writeAll data sink given held
    refine ⟨data.length, after, ?_, rfl, by simpa [SinkOperation.data] using held⟩
    simp only [run, run_bind, wrote, run_pure]
  | flush =>
    obtain ⟨_, after, flushed, held⟩ := lossless.flush sink given held
    refine ⟨0, after, ?_, rfl, held⟩
    simp only [run, run_bind, flushed, run_pure]

/-- However a sink that loses nothing is used, it has exactly what it accepted. -/
theorem runEach_of_lossless (lossless : Lossless σ holds)
    (nothing : ∀ sink {given}, holds sink given →
      ∃ after, Sink.write [] sink = .ok 0 after ∧ holds after given)
    (operations : List SinkOperation) {sink : σ} {given : Bytes} (held : holds sink given) :
    let ran := runEach (operations.map run) sink
    List.Forall₂ (fun operation outcome => ∃ count, outcome = .ok count ∧ operation.Fair count)
        operations ran.1 ∧
      holds ran.2 (given ++ accepted operations ran.1) := by
  -- Each operation meets the sink as the one before has left it.
  induction operations generalizing sink given with
  | nil => exact ⟨.nil, by simpa [accepted, runEach] using held⟩
  | cons operation operations ih =>
    obtain ⟨count, after, ran, fair, held⟩ := run_of_lossless lossless nothing operation held
    obtain ⟨answered, heldAll⟩ := ih held
    simp only [List.map_cons, runEach, ran, stateAfter, outcome]
    exact ⟨.cons ⟨count, rfl, fair⟩ answered, by simpa [accepted, taken] using heldAll⟩

end SinkOperation

end RemoteCall
