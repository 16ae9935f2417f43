import RemoteCall.Codec.Encoder
import RemoteCall.Proofs.Steps
import RemoteCall.Stream.Buffered
import RemoteCall.Stream.Throttled

/-! What is kept of a sink whatever is written to it, and whether or not that succeeds. -/

namespace RemoteCall

variable {σ α : Type} {kept : σ → Prop}

/-- Whatever is done with a sink keeps something of it. -/
structure Guarded (σ : Type) [Sink σ] (kept : σ → Prop) : Prop where
  write : ∀ data, Keeps kept (Sink.write (σ := σ) data)
  writeAll : ∀ data, Keeps kept (Sink.writeAll (σ := σ) data)
  flush : Keeps kept (Sink.flush (σ := σ))

/-- Writing until everything is accepted keeps what every single write keeps. -/
theorem writeAllWith_keeps {write : Bytes → StreamM σ Nat} (keeps : ∀ data, Keeps kept (write data))
    (data : Bytes) : Keeps kept (writeAllWith write data) := by
  -- The induction follows the writes; one that accepts nothing ends them.
  fun_induction writeAllWith write data with
  | case1 => exact .pure ()
  | case2 byte rest ih =>
    refine (keeps (byte :: rest)).bind fun accepted => ?_
    cases accepted with
    | zero => exact .throw _
    | succ accepted => exact ih accepted

namespace Throttled

/-- A step on the sink behind a budget keeps what it keeps of that sink. -/
theorem onInner_keeps {step : StreamM σ α} (keeps : Keeps kept step) :
    Keeps (fun throttled => kept throttled.inner) (onInner step) := by
  intro throttled holds
  have left := keeps throttled.inner holds
  unfold onInner
  -- The budget itself plays no part in it.
  split
  · next ran => rwa [ran] at left
  · next ran => rwa [ran] at left

variable [Sink σ]

/-- A budget lets nothing happen to the sink behind it but what is done with that sink. -/
theorem guarded (guarded : Guarded σ kept) :
    Guarded (Throttled σ) fun throttled => kept throttled.inner := by
  have write (data : Bytes) : Keeps (fun throttled => kept throttled.inner)
      (Throttled.write (σ := σ) data) := by
    -- Charging changes the budget alone.
    unfold Throttled.write
    split
    · exact .pure 0
    · refine Keeps.bind (fun throttled holds => holds) fun throttled => ?_
      refine Keeps.bind (fun throttled holds => holds) fun _ => ?_
      exact (onInner_keeps (guarded.writeAll _)).bind fun _ => .pure _
  exact ⟨write, writeAllWith_keeps write, onInner_keeps guarded.flush⟩

end Throttled

namespace Buffered

/-- A step on the sink behind a buffer keeps what it keeps of that sink. -/
theorem onInner_keeps {step : StreamM σ α} (keeps : Keeps kept step) :
    Keeps (fun buffered => kept buffered.inner) (onInner step) := by
  intro buffered holds
  have left := keeps buffered.inner holds
  unfold onInner
  -- What is held plays no part in it.
  split
  · next ran => rwa [ran] at left
  · next ran => rwa [ran] at left

variable [Sink σ]

/-- Draining does nothing with the sink but write to it. -/
theorem drain_keeps (guarded : Guarded σ kept) (pending : Bytes) :
    Keeps (fun buffered => kept buffered.inner) (drain (σ := σ) pending) := by
  -- The induction follows the writes, and ends with the first that is refused.
  fun_induction drain (σ := σ) pending with
  | case1 => exact fun buffered holds => holds
  | case2 byte rest ih =>
    intro buffered holds
    have left := guarded.write (byte :: rest) buffered.inner holds
    cases wrote : Sink.write (byte :: rest) buffered.inner with
    | error cause inner =>
      rw [wrote] at left
      simp only [wrote]
      exact left
    | ok accepted inner =>
      rw [wrote] at left
      cases accepted with
      | zero =>
        simp only [wrote]
        exact left
      | succ accepted =>
        simp only [wrote]
        exact ih accepted { buffered with inner } left

/-- Passing on does nothing with the sink but write to it. -/
theorem passOn_keeps (guarded : Guarded σ kept) :
    Keeps (fun buffered => kept buffered.inner) (passOn (σ := σ)) := by
  intro buffered holds
  exact drain_keeps guarded _ buffered holds

/-- Room is made by writing to the sink, if it is not there already. -/
theorem makeRoom_keeps (guarded : Guarded σ kept) (length : Nat) :
    Keeps (fun buffered => kept buffered.inner) (makeRoom (σ := σ) length) := by
  unfold makeRoom
  refine Keeps.bind (fun buffered holds => holds) fun buffered => ?_
  split
  · exact (passOn_keeps guarded).bind fun _ => .pure _
  · exact .bind (.pure _) fun _ => .pure _

/-- A buffer lets nothing happen to the sink behind it but what is done with that sink. -/
theorem guarded (guarded : Guarded σ kept) :
    Guarded (Buffered σ) fun buffered => kept buffered.inner where
  write data := by
    refine (makeRoom_keeps guarded data.length).bind fun room => ?_
    cases room with
    | true => exact .bind (fun buffered holds => holds) fun _ => .pure _
    | false => exact onInner_keeps (guarded.write data)
  writeAll data := by
    refine (makeRoom_keeps guarded data.length).bind fun room => ?_
    cases room with
    | true => exact fun buffered holds => holds
    | false => exact onInner_keeps (guarded.writeAll data)
  flush := (passOn_keeps guarded).bind fun _ => onInner_keeps guarded.flush

/-- Giving a buffer up may write what it holds to the sink, and does nothing else with it. -/
theorem release_keeps (guarded : Guarded σ kept) {buffered : Buffered σ}
    (holds : kept buffered.inner) : kept buffered.release := by
  have left := passOn_keeps guarded buffered holds
  unfold release
  split
  · next ran => rwa [ran] at left
  · next ran => rwa [ran] at left

end Buffered

namespace Encoder

variable [Sink σ]

/-- What is put reaches the sink in one complete write, or not at all. -/
theorem put_keeps (guarded : Guarded σ kept) (data : Bytes) :
    Keeps (fun encoder => kept encoder.sink) (put (σ := σ) data) := by
  intro encoder holds
  have left := guarded.writeAll data encoder.sink holds
  by_cases long : encoder.limits.messageSize < addCount encoder.messageSize data.length
  · -- Bytes over the ceiling never reach the sink.
    simp only [put, long, if_true]
    exact holds
  · cases wrote : Sink.writeAll data encoder.sink with
    | ok answer sink =>
      rw [wrote] at left
      simp only [put, long, if_false, wrote]
      exact left
    | error cause sink =>
      rw [wrote] at left
      simp only [put, long, if_false, wrote]
      exact left

/-- A part does nothing with the sink but write to it. -/
theorem perform_keeps (guarded : Guarded σ kept) (part : Part) :
    Keeps (fun encoder => kept encoder.sink) (perform (σ := σ) part) := by
  intro encoder holds
  cases part with
  | enter depth =>
    by_cases deep : encoder.limits.depth ≤ depth
    · simpa [perform, deep, stateAfter] using holds
    · simpa [perform, deep, stateAfter] using holds
  | raw data => exact put_keeps guarded data encoder holds
  | length count =>
    -- Two checks come before the octets of a length.
    by_cases long : encoder.limits.frameSize < count
    · simpa [perform, long, stateAfter] using holds
    · by_cases wide : lengthMax < count
      · simpa [perform, long, wide, stateAfter] using holds
      · have left := put_keeps guarded (Bytes.ofNatBE 4 count) encoder holds
        simpa [perform, long, wide] using left

/-- Parts do nothing with the sink but write to it, up to the first that fails. -/
theorem performAll_keeps (guarded : Guarded σ kept) (parts : List Part) :
    Keeps (fun encoder => kept encoder.sink) (performAll (σ := σ) parts) := by
  induction parts with
  | nil => exact .pure ()
  | cons part parts ih => exact (perform_keeps guarded part).bind fun _ => ih

/-- A message does nothing with the sink but write to it and flush it. -/
theorem writeMessage_keeps (guarded : Guarded σ kept) (value : Value) :
    Keeps (fun encoder => kept encoder.sink) (writeMessage (σ := σ) value) := by
  refine Keeps.bind (fun encoder holds => holds) fun _ => ?_
  refine (performAll_keeps guarded _).bind fun _ encoder holds => ?_
  -- The flush behind the last part is handed on to the sink.
  have left := guarded.flush encoder.sink holds
  unfold flush
  split
  · next ran => rwa [ran] at left
  · next ran => rwa [ran] at left

end Encoder

end RemoteCall
