import RemoteCall.Outbound.Request
import RemoteCall.Proofs.Frame.Chunked
import RemoteCall.Proofs.Outbound.Entity

/-! A request goes out as one frame, which carries the whole body of its entity. -/

namespace RemoteCall

variable {σ : Type} [Sink σ] {holds : Holding σ}

namespace Entity

variable {entity : Entity} {body : Bytes} {limits : Limits} {sink : σ} {given : Bytes}

/-- The size of a chunk is not nothing, and respects a ceiling that lets anything pass. -/
theorem chunkSize_le (framed : 0 < limits.frameSize) :
    0 < limits.chunkSize ∧ limits.chunkSize ≤ limits.frameSize ∧ limits.chunkSize < 256 ^ 4 := by
  -- The size is the lesser of a constant and the ceiling, but never nothing.
  simp only [Limits.chunkSize, chunkSizeMax]
  omega

/-- A body in chunks is ended by the empty one, and its budget is charged for the body alone. -/
theorem writeChunkedCharged_of_body (lossless : Lossless σ holds) (held : holds sink given)
    (framed : 0 < limits.frameSize) (whole : entity.body = .ok body) :
    ∃ after spent pieces, entity.writeChunkedCharged limits (sink, []) = .ok () (after, spent) ∧
      holds after (given ++ (FrameBody.chunks pieces).toBytes) ∧
      (∀ piece ∈ pieces, piece ≠ [] ∧ piece.length ≤ limits.chunkSize) ∧
        pieces.flatten = body ∧ spent.sum = if entity.limiter.isSome then body.length else 0 := by
  -- What the sink was given before is not part of the chunks.
  have chunks : Lossless (Chunked σ)
      (Chunked.Holds (fun sink data => holds sink (given ++ data)) limits.chunkSize) :=
    Chunked.lossless (lossless.behind given)
  -- No chunk was sent yet, and none is pending.
  have opened : Chunked.Holds (fun sink data => holds sink (given ++ data)) limits.chunkSize
      (.onto sink limits) [] :=
    ⟨⟨rfl, Nat.zero_le _, [], by simp, by simpa [Chunked.onto] using held, rfl⟩,
      (chunkSize_le framed).1⟩
  -- The chunks take the body like any sink that loses nothing.
  obtain ⟨between, spent, sent, held, charged⟩ := writeToCharged_of_body chunks whole opened
  obtain ⟨after, pieces, ended, fits, held, joined⟩ :=
    Chunked.finish_holds (lossless.behind given) held
  refine ⟨after.inner, spent, pieces, ?_, held, fits, by simpa using joined, charged⟩
  simp only [writeChunkedCharged, run_bind, sent, SendM.free, SendM.ofStream, ended]

/-- A request is one frame; only a body in one piece has to be short enough for a length field. -/
theorem sendRequestCharged_of_counted (lossless : Lossless σ holds) (held : holds sink given)
    {path : String} (short : (Bytes.ofString path).length < 256 ^ 2)
    (framed : entity.isStreaming = true → 0 < limits.frameSize)
    (fits : body.length ≤ limits.messageSize)
    (counted : entity.isStreaming = false → body.length < 256 ^ 4)
    (whole : entity.body = .ok body) :
    ∃ (after : σ) (spent : List Nat) (frame : Frame),
      sendRequestCharged path entity limits (sink, []) = .ok () (after, spent) ∧
        holds after (given ++ frame.toBytes) ∧ frame.Within limits ∧
        frame.packet = { path, compression := entity.compression, body } ∧
          spent.sum = if entity.limiter.isSome then body.length else 0 := by
  -- A body that is streamed goes out in chunks, any other one behind its length.
  cases streams : entity.isStreaming with
  | true =>
    obtain ⟨_, between, opened, held⟩ := sendHeader_delivers lossless
      { path, compression := entity.compression, body := .chunks [] } short sink given held
    obtain ⟨between, spent, pieces, sent, held, bounded, joined, charged⟩ :=
      writeChunkedCharged_of_body lossless held (framed streams) whole
    obtain ⟨_, after, flushed, held⟩ := flush_delivers lossless _ _ held
    refine ⟨after, spent, { path, compression := entity.compression, body := .chunks pieces }, ?_,
      ?_, ⟨short, ?_, ?_⟩, ?_, charged⟩
    · simp only [FrameBody.isChunked] at opened
      simp only [sendRequestCharged, contentLength_of_body whole, streams, if_true, run_bind,
        run_ofExcept_ok, SendM.free, opened, sent, flushed]
    · simpa [Frame.toBytes, Frame.fixedBytes, FrameBody.isChunked] using held
    · -- The chunks are no longer than their size, which respects the ceiling of frames.
      intro piece member
      obtain ⟨present, size⟩ := bounded piece member
      obtain ⟨_, ceiling, small⟩ := chunkSize_le (framed streams)
      exact ⟨present, by omega, by omega⟩
    · rwa [joined]
    · simp [Frame.packet, FrameBody.data, joined]
  | false =>
    have counted := counted streams
    let frame : Frame := { path, compression := entity.compression, body := .whole body }
    -- The length is known beforehand, and four octets count it.
    have field : bodyLength body.length = .ok (Bytes.ofNatBE 4 body.length) :=
      if_neg (by omega)
    -- The frame is its header, its length field and its body, in this order.
    obtain ⟨_, between, opened, held⟩ := sendHeader_delivers lossless frame short sink given held
    obtain ⟨_, between, announced, held⟩ :=
      send_delivers lossless (Bytes.ofNatBE 4 body.length) _ _ held
    obtain ⟨between, spent, sent, held, charged⟩ := writeToCharged_of_body lossless whole held
    obtain ⟨_, after, flushed, held⟩ := flush_delivers lossless _ _ held
    refine ⟨after, spent, frame, ?_, ?_, ⟨short, fits, counted⟩, rfl, charged⟩
    · simp only [frame, FrameBody.isChunked] at opened
      simp only [sendRequestCharged, contentLength_of_body whole, streams, Bool.false_eq_true,
        if_false, run_bind, run_ofExcept_ok, field, SendM.free, opened, announced, sent, flushed]
    · simpa [Frame.toBytes, frame, FrameBody.toBytes, FrameBody.chunkBytes] using held

/-- A request is one frame, whose packet carries the body that its budget is charged for. -/
theorem sendRequestCharged_of_body (lossless : Lossless σ holds) (held : holds sink given)
    {path : String} (short : (Bytes.ofString path).length < 256 ^ 2)
    (framed : entity.isStreaming = true → 0 < limits.frameSize)
    (fits : body.length ≤ limits.messageSize) (counted : body.length < 256 ^ 4)
    (whole : entity.body = .ok body) :
    ∃ (after : σ) (spent : List Nat) (frame : Frame),
      sendRequestCharged path entity limits (sink, []) = .ok () (after, spent) ∧
        holds after (given ++ frame.toBytes) ∧ frame.Within limits ∧
        frame.packet = { path, compression := entity.compression, body } ∧
          spent.sum = if entity.limiter.isSome then body.length else 0 :=
  sendRequestCharged_of_counted lossless held short framed fits (fun _ => counted) whole

/-- A request is one frame, and the packet in it carries the body. -/
theorem sendRequest_of_body (lossless : Lossless σ holds) (held : holds sink given)
    {path : String} (short : (Bytes.ofString path).length < 256 ^ 2)
    (framed : entity.isStreaming = true → 0 < limits.frameSize)
    (fits : body.length ≤ limits.messageSize)
    (counted : entity.isStreaming = false → body.length < 256 ^ 4)
    (whole : entity.body = .ok body) :
    ∃ (after : σ) (frame : Frame), sendRequest path entity limits sink = .ok () after ∧
      holds after (given ++ frame.toBytes) ∧ frame.Within limits ∧
        frame.packet = { path, compression := entity.compression, body } := by
  obtain ⟨after, spent, frame, sent, held, within, carried, _⟩ :=
    sendRequestCharged_of_counted lossless held short framed fits counted whole
  -- Forgetting the charges leaves the sink as it is.
  refine ⟨after, frame, ?_, held, within, carried⟩
  rw [← sendRequestCharged_accountsFor, sent]
  rfl

end Entity

end RemoteCall
