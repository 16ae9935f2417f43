import RemoteCall.Frame.Chunked
import RemoteCall.Proofs.Frame.Grammar
import RemoteCall.Proofs.Stream.Bounded
import RemoteCall.Proofs.Stream.Guarded

/-! A body in chunks, as long as the chunk that ends it is not out. -/

namespace RemoteCall.Chunked

variable {σ : Type} {holds : Holding σ} {full : σ → Prop} {size : Nat} {start : Bytes}

/-- Behind some bytes the sink was offered chunks, of which the last may not all be there. -/
structure Underway (holds : Holding σ) (full : σ → Prop) (size : Nat) (start : Bytes)
    (chunked : Chunked σ) : Prop where
  -- The size of a chunk is fixed when the body is begun.
  sameSize : chunked.chunkSize = size
  bounded : chunked.pending.size ≤ size
  -- An empty chunk would end the body, so none of them is empty.
  sent : ∃ pieces : List Bytes, (∀ piece ∈ pieces, piece ≠ [] ∧ piece.length ≤ size) ∧
    Offered holds full chunked.inner (start ++ (pieces.map FrameBody.chunkBytes).flatten)

/-- One chunk more, which is complete or leaves the sink full, keeps a body on its way. -/
theorem Underway.offer {chunked : Chunked σ} (underway : Underway holds full size start chunked)
    (present : chunked.pending.size ≠ 0) {inner : σ}
    (offered : ∀ given, Offered holds full chunked.inner given →
      Offered holds full inner (given ++ FrameBody.chunkBytes chunked.pending.toBytes)) :
    Underway holds full size start { chunked with inner } := by
  obtain ⟨sameSize, bounded, pieces, fits, had⟩ := underway
  have length := chunked.pending.length_toBytes
  -- What is pending becomes the last of the chunks, also where it does not go out in full.
  refine ⟨sameSize, bounded, pieces ++ [chunked.pending.toBytes], ?_, ?_⟩
  · intro piece member
    rcases List.mem_append.mp member with member | member
    · exact fits piece member
    · rw [List.mem_singleton.mp member, length]
      exact ⟨List.length_pos_iff.mp (by omega), bounded⟩
  · simpa using offered _ had

/-- Forgetting what is pending does no harm to a body on its way. -/
theorem Underway.clear {chunked : Chunked σ} (underway : Underway holds full size start chunked) :
    Underway holds full size start { chunked with pending := .empty } :=
  ⟨underway.sameSize, Nat.zero_le _, underway.sent⟩

/-- A body that is still on its way is short of its end at least. -/
theorem Underway.short {chunked : Chunked σ} (underway : Underway holds full size start chunked) :
    ∃ pieces : List Bytes, (∀ piece ∈ pieces, piece ≠ [] ∧ piece.length ≤ size) ∧
      Short holds chunked.inner (start ++ (FrameBody.chunks pieces).toBytes) := by
  obtain ⟨_, _, pieces, fits, had⟩ := underway
  refine ⟨pieces, fits, ?_⟩
  rw [FrameBody.toBytes, ← List.append_assoc]
  exact .of_offered had (by decide)

variable [Sink σ]

/-- A pending chunk goes out behind its length. -/
theorem sendPending_of_some {chunked : Chunked σ} (present : chunked.pending.size ≠ 0) :
    sendPending chunked =
      match (do
        Sink.writeAll (Bytes.ofNatBE 4 chunked.pending.size)
        Sink.writeAll chunked.pending.toBytes : StreamM σ Unit) chunked.inner with
      | .ok _ inner => .ok () { chunked with inner, pending := .empty }
      | .error cause inner => .error cause { chunked with inner } := by
  have sends : chunked.pending.isEmpty = false := by simp [Gathered.isEmpty, present]
  simp only [sendPending, run_bind, run_get, sends, Bool.false_eq_true, if_false, onInner]
  -- The chunk follows only a length that went out.
  cases Sink.writeAll (Bytes.ofNatBE 4 chunked.pending.size) chunked.inner with
  | error cause inner => rfl
  | ok answer between =>
    dsimp only
    cases Sink.writeAll chunked.pending.toBytes between with
    | error cause inner => rfl
    | ok answer inner => rfl

/-- The length of a chunk and the chunk are offered together. -/
theorem offers_chunk (bounded : Bounded σ holds full) (piece : Gathered) :
    Offers holds full (do
        Sink.writeAll (Bytes.ofNatBE 4 piece.size)
        Sink.writeAll piece.toBytes : StreamM σ Unit) (FrameBody.chunkBytes piece.toBytes) := by
  rw [FrameBody.chunkBytes, piece.length_toBytes]
  exact (bounded.writeAll _).bind fun _ => bounded.writeAll _

/-- Sending the pending chunk keeps a body on its way, also where it fails. -/
theorem sendPending_keeps (bounded : Bounded σ holds full) :
    Keeps (Underway holds full size start) (sendPending (σ := σ)) := by
  intro chunked underway
  by_cases none : chunked.pending.size = 0
  · have skips : chunked.pending.isEmpty = true := by simp [Gathered.isEmpty, none]
    simpa [sendPending, skips, stateAfter] using underway
  · rw [sendPending_of_some none]
    have offers := offers_chunk bounded chunked.pending
    split
    · next ran => exact (underway.offer none fun _ had => offers.ok _ had ran).clear
    · next failed => exact underway.offer none fun _ had => .inr (offers.error _ had failed)

/-- Flushing the sink behind the chunks keeps a body on its way. -/
theorem flushInner_keeps (bounded : Bounded σ holds full) :
    Keeps (Underway holds full size start) (onInner (Sink.flush (σ := σ))) := by
  rintro chunked ⟨sameSize, fits, pieces, nonempty, had⟩
  obtain ⟨answer, inner, flushed, keeps⟩ := bounded.flush chunked.inner
  simp only [onInner, flushed]
  exact ⟨sameSize, fits, pieces, nonempty, keeps had⟩

/-- Whatever is written in chunks, the body is still on its way. -/
theorem guarded (bounded : Bounded σ holds full) :
    Guarded (Chunked σ) (Underway holds full size start) := by
  have write (data : Bytes) : Keeps (Underway holds full size start)
      (Chunked.write (σ := σ) data) := by
    intro chunked underway
    obtain ⟨sameSize, fits, sent⟩ := underway
    simp only [Chunked.write, run_bind, run_get, run_set]
    generalize taken : data.take (chunked.chunkSize - chunked.pending.size) = accepted
    -- What is accepted waits in the pending chunk, which has room for it.
    have waiting : Underway holds full size start
        { chunked with pending := chunked.pending.push accepted } := by
      refine ⟨sameSize, ?_, sent⟩
      rw [← taken]
      simp only [Gathered.push, List.length_take]
      omega
    split
    · exact (sendPending_keeps bounded).bind (fun _ => .pure _) _ waiting
    · exact waiting
  exact ⟨write, writeAllWith_keeps write,
    (sendPending_keeps bounded).bind fun _ => flushInner_keeps bounded⟩

/-- A body that could not be ended is short of its end at least. -/
theorem finish_short (bounded : Bounded σ holds full) {chunked after : Chunked σ}
    {cause : StreamError} (underway : Underway holds full size start chunked)
    (failed : finish chunked = .error cause after) :
    ∃ pieces : List Bytes, (∀ piece ∈ pieces, piece ≠ [] ∧ piece.length ≤ size) ∧
      Short holds after.inner (start ++ (FrameBody.chunks pieces).toBytes) := by
  rcases run_bind_eq_error_iff.mp failed with unsent | ⟨_, between, sent, failed⟩
  -- With a chunk that does not go out, the end is not even tried.
  · exact ((sendPending_keeps bounded).of_error underway unsent).short
  · obtain ⟨_, _, pieces, fits, had⟩ := (sendPending_keeps bounded).of_ok underway sent
    refine ⟨pieces, fits, ?_⟩
    rw [FrameBody.toBytes, ← List.append_assoc]
    -- The end is the length of the empty chunk, and flushing after it does not fail.
    have offers := bounded.writeAll (Bytes.ofNatBE 4 0)
    simp only [run_bind, onInner] at failed
    cases ended : Sink.writeAll (Bytes.ofNatBE 4 0) between.inner with
    | error cause inner =>
      simp only [ended] at failed
      cases failed
      exact (offers.error _ had ended).2
    | ok answer inner =>
      obtain ⟨_, flushedInner, flushed, _⟩ := bounded.flush inner
      simp only [ended, flushed] at failed
      cases failed

end RemoteCall.Chunked
