import RemoteCall.Proofs.Frame.Chunked
import RemoteCall.Proofs.Frame.Clipping
import RemoteCall.Proofs.Frame.Sending

/-! However a body is written in chunks, the frame that comes of it carries what was accepted. -/

namespace RemoteCall

/-- A ceiling that lets chunks pass bounds their size, and so does the greatest chunk ever sent. -/
theorem Limits.chunkSize_eq {limits : Limits} (positive : 1 ≤ limits.frameSize) :
    limits.chunkSize = min 65536 limits.frameSize := by
  simp only [Limits.chunkSize, chunkSizeMax]
  omega

namespace Chunked

/-- A write of nothing accepts nothing, and what was given stays as it is. -/
theorem write_nil {σ : Type} [Sink σ] {holds : Holding σ} {size : Nat} (chunked : Chunked σ)
    {given : Bytes} (held : Holds holds size chunked given) :
    ∃ after, Sink.write [] chunked = .ok 0 after ∧ Holds holds size after given := by
  obtain ⟨⟨sameSize, bounded, pieces, fits, inner, joined⟩, room⟩ := held
  -- The pending chunk has room left, so it does not go out.
  have same : (chunked.pending.push []).size = chunked.pending.size := Nat.zero_add _
  have notFull : ¬ (chunked.pending.push []).size = chunked.chunkSize := by omega
  refine ⟨{ chunked with pending := chunked.pending.push [] }, ?_,
    ⟨sameSize, same ▸ bounded, pieces, fits, inner, by simpa using joined⟩, same ▸ room⟩
  simp only [Sink.write, Chunked.write, run_bind, run_get, run_set, List.take_nil, notFull,
    if_false, run_pure, List.length_nil]

/-- What becomes of a body in chunks for a store when one operation follows the other. -/
def afterEach (operations : List SinkOperation) (store : Store) (limits : Limits) :
    List (Except StreamError Nat) × Chunked Store :=
  runEach (operations.map SinkOperation.run) (onto store limits)

/-- The header of a frame in chunks and its body make up a frame that is parsed. -/
theorem parse_sent {path : String} (short : (Bytes.ofString path).length ≤ 0xFFFF)
    (compression : Option Compression) {pieces : List Bytes} {ceilings : Limits}
    (within : (FrameBody.chunks pieces).Within ceilings) :
    ∃ header, sendHeader path compression true ({} : Store) = .ok () header ∧ ∀ rest,
      Packet.parse (header.toBytes ++ (FrameBody.chunks pieces).toBytes ++ rest) ceilings =
        .ok (some ({ path, compression, body := pieces.flatten },
          (header.toBytes ++ (FrameBody.chunks pieces).toBytes).length)) := by
  let frame : Frame := { path, compression, body := .chunks pieces }
  obtain ⟨_, header, sent, _, has⟩ := sendHeader_delivers Store.lossless frame
    (Nat.lt_succ_of_le short) {} [] ⟨rfl, rfl⟩
  have spelled : header.toBytes ++ (FrameBody.chunks pieces).toBytes = frame.toBytes := by
    rw [has]
    simp [frame, Frame.toBytes]
  refine ⟨header, sent, fun rest => ?_⟩
  rw [spelled]
  exact Packet.parse_toBytes ⟨Nat.lt_succ_of_le short, within⟩ rest

/--
However a body is written in chunks, what comes of it is a frame that carries what was accepted.

Writes, complete writes and flushes may come in any order, also of nothing; a store that has room
for so many bytes only has that many of those that one without a capacity has.
-/
theorem writes_framed {limits : Limits} (positive : 1 ≤ limits.frameSize)
    (operations : List SinkOperation) :
    let ran := afterEach operations {} limits
    let body := SinkOperation.accepted operations ran.1
    List.Forall₂ (fun operation outcome => ∃ count, outcome = .ok count ∧ operation.Fair count)
        operations ran.1 ∧
      ∃ (after : Chunked Store) (pieces : List Bytes), finish ran.2 = .ok () after ∧
        (∀ piece ∈ pieces, 1 ≤ piece.length ∧ piece.length ≤ min 65536 limits.frameSize) ∧
        pieces.flatten = body ∧
        after.inner.toBytes = (pieces.map FrameBody.chunkBytes).flatten ++ Bytes.ofNatBE 4 0 ∧
        (∀ path compression (ceilings : Limits), (Bytes.ofString path).length ≤ 0xFFFF →
          (∀ piece ∈ pieces, piece.length ≤ ceilings.frameSize) →
          body.length ≤ ceilings.messageSize →
            ∃ header, sendHeader path compression true ({} : Store) = .ok () header ∧ ∀ rest,
              Packet.parse (header.toBytes ++ after.inner.toBytes ++ rest) ceilings =
                .ok (some ({ path, compression, body },
                  (header.toBytes ++ after.inner.toBytes).length))) ∧
        ∀ capacity,
          let limited := afterEach operations { capacity := some capacity } limits
          limited.2.inner.toBytes = ran.2.inner.toBytes.take capacity ∧
            (stateAfter (finish limited.2)).inner.toBytes = after.inner.toBytes.take capacity ∧
            ((∃ done, finish limited.2 = .ok () done) ↔
              after.inner.toBytes.length ≤ capacity) := by
  intro ran body
  have size := Limits.chunkSize_eq positive
  -- A body that is just begun was given nothing, and the store has nothing of it.
  have begun : Holds Store.Holds limits.chunkSize (onto ({} : Store) limits) [] := by
    refine ⟨⟨rfl, Nat.zero_le _, [], by simp, ⟨rfl, rfl⟩, rfl⟩, ?_⟩
    show 0 < limits.chunkSize
    omega
  obtain ⟨answered, held⟩ :=
    SinkOperation.runEach_of_lossless (lossless Store.lossless) write_nil operations begun
  obtain ⟨after, pieces, finished, fits, ⟨_, spelled⟩, joined⟩ :=
    finish_holds Store.lossless held
  have joined : pieces.flatten = body := joined
  refine ⟨answered, after, pieces, finished, fun piece member => ?_, joined, spelled, ?_, ?_⟩
  · obtain ⟨present, bounded⟩ := fits piece member
    rw [size] at bounded
    exact ⟨List.length_pos_iff.mpr present, bounded⟩
  · intro path compression ceilings short framed total
    have within : (FrameBody.chunks pieces).Within ceilings := by
      refine ⟨fun piece member => ?_, joined ▸ total⟩
      obtain ⟨present, bounded⟩ := fits piece member
      exact ⟨present, framed piece member, by omega⟩
    rw [spelled, ← joined]
    exact parse_sent short compression within
  · intro capacity limited
    -- At the beginning both stores are empty.
    have level : Level capacity (onto { capacity := some capacity } limits)
        (onto ({} : Store) limits) :=
      ⟨rfl, rfl, rfl, rfl, rfl, Nat.zero_le _⟩
    have follows := Follows.runEach (lossless Store.lossless) write_nil operations begun
      (.inl level)
    exact ⟨follows.clipped.clipped, follows.finish finished⟩

/-- Flushes and empty writes leave no mark, and a store may be full within the second chunk. -/
theorem writes_framed_three :
    let limits : Limits := { frameSize := 3 }
    let operations : List SinkOperation :=
      [.flush, .write [], .writeAll [1, 2, 3, 4], .flush, .flush, .write [5, 6, 7, 8]]
    1 ≤ limits.frameSize ∧ ∃ after, finish (afterEach operations {} limits).2 = .ok () after ∧
      after.inner.toBytes =
        [0, 0, 0, 3, 1, 2, 3, 0, 0, 0, 1, 4, 0, 0, 0, 3, 5, 6, 7, 0, 0, 0, 0] ∧
      (∃ header, sendHeader "/a" none true ({} : Store) = .ok () header ∧
        Packet.parse (header.toBytes ++ after.inner.toBytes ++ [9]) {} =
          .ok (some ({ path := "/a", body := [1, 2, 3, 4, 5, 6, 7] },
            (header.toBytes ++ after.inner.toBytes).length))) ∧
      (stateAfter (finish (afterEach operations { capacity := some 9 } limits).2)).inner.toBytes =
        [0, 0, 0, 3, 1, 2, 3, 0, 0] ∧
      ¬ ∃ done, finish (afterEach operations { capacity := some 9 } limits).2 = .ok () done := by
  intro limits operations
  have positive : 1 ≤ limits.frameSize := by decide
  obtain ⟨_, after, pieces, finished, fits, joined, spelled, parsed, clipped⟩ :=
    writes_framed positive operations
  have body : SinkOperation.accepted operations (afterEach operations {} limits).1 =
      [1, 2, 3, 4, 5, 6, 7] := by
    decide +kernel
  have output : (match finish (afterEach operations {} limits).2 with
      | .ok _ after => after.inner.toBytes
      | .error _ _ => []) =
      [0, 0, 0, 3, 1, 2, 3, 0, 0, 0, 1, 4, 0, 0, 0, 3, 5, 6, 7, 0, 0, 0, 0] := by
    decide +kernel
  rw [finished] at output
  dsimp only at output
  obtain ⟨header, sent, whole⟩ := parsed "/a" none {} (by decide)
    (fun piece member => Nat.le_trans (fits piece member).2 (by decide)) (by rw [body]; decide)
  have opened := whole [9]
  rw [body] at opened
  obtain ⟨_, front, fitting⟩ := clipped 9
  rw [fitting, front, output]
  exact ⟨positive, after, finished, output, ⟨header, sent, opened⟩, rfl, by decide⟩

end Chunked

end RemoteCall
