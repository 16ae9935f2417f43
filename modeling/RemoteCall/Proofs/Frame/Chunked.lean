import RemoteCall.Frame.Chunked
import RemoteCall.Proofs.Frame.Grammar
import RemoteCall.Proofs.Stream.Lossless

/-! Whatever is written in chunks stands in them in order, and no chunk is empty or too long. -/

namespace RemoteCall.Chunked

variable {σ : Type} {holds : Holding σ} {size : Nat}

/-- The chunks that were sent and the pending one make up what was given. -/
structure Framed (holds : Holding σ) (size : Nat) (chunked : Chunked σ) (given : Bytes) :
    Prop where
  -- The size of a chunk is fixed when the body is begun.
  sameSize : chunked.chunkSize = size
  bounded : chunked.pending.size ≤ size
  -- The sink has complete chunks only, none of them empty.
  sent : ∃ pieces : List Bytes, (∀ piece ∈ pieces, piece ≠ [] ∧ piece.length ≤ size) ∧
    holds chunked.inner (pieces.map FrameBody.chunkBytes).flatten ∧
      pieces.flatten ++ chunked.pending.toBytes = given

/-- Between two writes the pending chunk is never full. -/
def Holds (holds : Holding σ) (size : Nat) : Holding (Chunked σ) := fun chunked given =>
  -- A chunk is sent as soon as it is full.
  Framed holds size chunked given ∧ chunked.pending.size < size

variable [Sink σ]

/-- Sending the pending chunk leaves nothing pending. -/
theorem sendPending_framed (lossless : Lossless σ holds) {chunked : Chunked σ} {given : Bytes}
    (framed : Framed holds size chunked given) :
    ∃ after, sendPending chunked = .ok () after ∧ Framed holds size after given ∧
      after.pending.size = 0 := by
  -- An empty chunk would end the body, so nothing is sent when nothing is pending.
  by_cases none : chunked.pending.size = 0
  · have skips : chunked.pending.isEmpty = true := by simp [Gathered.isEmpty, none]
    refine ⟨chunked, ?_, framed, none⟩
    simp [sendPending, skips]
  · obtain ⟨sameSize, bounded, pieces, fits, held, joined⟩ := framed
    have sends : chunked.pending.isEmpty = false := by simp [Gathered.isEmpty, none]
    have length := chunked.pending.length_toBytes
    obtain ⟨_, between, counted, held⟩ :=
      lossless.writeAll (Bytes.ofNatBE 4 chunked.pending.size) _ _ held
    obtain ⟨_, inner, wrote, held⟩ := lossless.writeAll chunked.pending.toBytes _ _ held
    -- What was pending becomes the last of the chunks that were sent.
    refine ⟨{ chunked with inner, pending := .empty }, ?_, ⟨sameSize, Nat.zero_le _,
      pieces ++ [chunked.pending.toBytes], ?_, ?_, ?_⟩, rfl⟩
    · simp [sendPending, sends, onInner, counted, wrote]
    · -- The chunk that goes out is the pending one, which is not empty.
      intro piece member
      rcases List.mem_append.mp member with member | member
      · exact fits piece member
      · rw [List.mem_singleton.mp member, length]
        exact ⟨List.length_pos_iff.mp (by omega), bounded⟩
    · simpa [FrameBody.chunkBytes, length] using held
    · simpa using joined

/-- A write of something accepts some of it, as much as the pending chunk has room for. -/
theorem write_holds (lossless : Lossless σ holds) (chunked : Chunked σ) (given data : Bytes)
    (held : Holds holds size chunked given) (present : data ≠ []) :
    ∃ accepted after, Chunked.write data chunked = .ok accepted after ∧
      0 < accepted ∧ accepted ≤ data.length ∧
        Holds holds size after (given ++ data.take accepted) := by
  obtain ⟨⟨sameSize, bounded, pieces, fits, inner, joined⟩, room⟩ := held
  have positive := List.length_pos_iff.mpr present
  -- The pending chunk takes in as much as it has room for, and it has room for something.
  generalize taken : data.take (chunked.chunkSize - chunked.pending.size) = accepted
  have length : accepted.length = min (size - chunked.pending.size) data.length := by
    rw [← taken, List.length_take, sameSize]
  have whole : data.take accepted.length = accepted := by
    rw [length, ← List.take_eq_take_min, ← sameSize, taken]
  -- What was accepted is pending first, and sent only if it fills the chunk.
  have framed : Framed holds size { chunked with pending := chunked.pending.push accepted }
      (given ++ accepted) := by
    refine ⟨sameSize, ?_, pieces, fits, inner, ?_⟩
    · simp only [Gathered.push]
      omega
    · rw [← joined]
      simp
  -- Only a chunk that is full now has to go out.
  by_cases full : (chunked.pending.push accepted).size = chunked.chunkSize
  · obtain ⟨after, sent, framed, empty⟩ := sendPending_framed lossless framed
    refine ⟨accepted.length, after, ?_, by omega, by omega, ⟨?_, by omega⟩⟩
    · simp only [Chunked.write, run_bind, run_get, run_set, taken, full, if_true, sent, run_pure]
    · rw [whole]
      exact framed
  · refine ⟨accepted.length, { chunked with pending := chunked.pending.push accepted }, ?_,
      by omega, by omega, ⟨?_, ?_⟩⟩
    · simp only [Chunked.write, run_bind, run_get, run_set, taken, full, if_false, run_pure]
    · rw [whole]
      exact framed
    · rw [sameSize] at full
      exact Nat.lt_of_le_of_ne framed.bounded full

/-- Chunks take everything that is written. -/
theorem lossless (lossless : Lossless σ holds) : Lossless (Chunked σ) (Holds holds size) where
  write := write_holds lossless
  writeAll := writeAllWith_delivers (write_holds lossless)
  flush := by
    intro chunked given held
    -- The pending chunk goes out even though it may not be full.
    obtain ⟨between, sent, ⟨sameSize, bounded, pieces, fits, inner, joined⟩, empty⟩ :=
      sendPending_framed lossless held.1
    obtain ⟨answer, inner, flushed, passed⟩ := lossless.flush _ _ inner
    have positive : 0 < size := Nat.lt_of_le_of_lt (Nat.zero_le _) held.2
    refine ⟨answer, { between with inner }, ?_, ⟨sameSize, bounded, pieces, fits, ?_, ?_⟩, ?_⟩
    · simp only [Sink.flush, Chunked.flush, run_bind, sent, onInner, flushed]
    · simpa using passed
    · simpa using joined
    · simpa [empty] using positive

/-- Finishing sends what is pending and the empty chunk that ends the body. -/
theorem finish_holds (lossless : Lossless σ holds) {chunked : Chunked σ} {given : Bytes}
    (held : Holds holds size chunked given) :
    ∃ after pieces, finish chunked = .ok () after ∧
      (∀ piece ∈ pieces, piece ≠ [] ∧ piece.length ≤ size) ∧
        holds after.inner (FrameBody.chunks pieces).toBytes ∧ pieces.flatten = given := by
  -- With nothing pending any more, the chunks that were sent are all that was given.
  obtain ⟨between, sent, ⟨sameSize, bounded, pieces, fits, inner, joined⟩, empty⟩ :=
    sendPending_framed lossless held.1
  -- The length of the empty chunk is all there is of it.
  obtain ⟨_, ended, wrote, inner⟩ := lossless.writeAll (Bytes.ofNatBE 4 0) _ _ inner
  obtain ⟨_, inner, flushed, passed⟩ := lossless.flush _ _ inner
  have nothing : between.pending.toBytes = [] := by
    apply List.length_eq_zero_iff.mp
    rw [Gathered.length_toBytes, empty]
  refine ⟨{ between with inner }, pieces, ?_, fits, ?_, by simpa [nothing] using joined⟩
  · simp only [finish, run_bind, sent, onInner, wrote, flushed]
  · simpa [FrameBody.toBytes, FrameBody.chunkBytes] using passed

end RemoteCall.Chunked
