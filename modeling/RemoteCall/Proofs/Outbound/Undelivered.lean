import RemoteCall.Outbound.Request
import RemoteCall.Proofs.Frame.Acceptance
import RemoteCall.Proofs.Frame.Underway
import RemoteCall.Proofs.Outbound.Entity

/-! A request that fails leaves the beginning of a frame behind, but never a whole one. -/

namespace RemoteCall

variable {σ α : Type} {holds : Holding σ} {full : σ → Prop} {kept : σ → Prop}

/-- A step on a stream keeps the same as a step of sending. -/
theorem SendM.ofStream_keeps {step : StreamM σ α} (keeps : Keeps kept step) :
    Keeps kept (SendM.ofStream step) := by
  intro sink held
  have left := keeps sink held
  unfold SendM.ofStream
  -- Only the failure is put differently.
  split
  · next ran => rwa [ran] at left
  · next ran => rwa [ran] at left

/-- A step on a stream offers the same as a step of sending. -/
theorem SendM.ofStream_offers {step : StreamM σ α} {data : Bytes}
    (offers : Offers holds full step data) : Offers holds full (SendM.ofStream step) data where
  ok sink _ _ _ had ran := by
    unfold SendM.ofStream at ran
    split at ran
    · next stepped =>
      cases ran
      exact offers.ok sink had stepped
    · cases ran
  error sink _ _ _ had ran := by
    unfold SendM.ofStream at ran
    split at ran
    · cases ran
    · next failed =>
      cases ran
      exact offers.error sink had failed

/-- A sink that is short of a frame has the beginning of one. -/
theorem Short.unfinished {sink : σ} {frame : Frame} {limits : Limits}
    (short : Short holds sink frame.toBytes) (within : frame.Within limits) :
    ∃ sent, holds sink sent ∧ Frame.Unfinished sent := by
  obtain ⟨sent, missing, some, whole, held⟩ := short
  exact ⟨sent, held, frame, limits, missing, within, some, whole⟩

variable [Sink σ]

/-- Bytes that are sent are offered in full. -/
theorem send_offers (bounded : Bounded σ holds full) (data : Bytes) :
    Offers holds full (send (σ := σ) data) data :=
  SendM.ofStream_offers (bounded.writeAll data)

/-- The header of a frame is offered in full when its path is not too long. -/
theorem sendHeader_offers (bounded : Bounded σ holds full) (frame : Frame)
    (short : (Bytes.ofString frame.path).length < 256 ^ 2) :
    Offers holds full (sendHeader (σ := σ) frame.path frame.compression frame.body.isChunked)
      (frame.fixedBytes ++ Bytes.ofString frame.path) := by
  have path : pathBytes frame.path = .ok (Bytes.ofString frame.path) := if_neg (by omega)
  have offers := (send_offers bounded frameMagic).bind fun _ =>
    (send_offers bounded [wireVersion, Header.flags frame.compression frame.body.isChunked]).bind
      fun _ => (send_offers bounded (Bytes.ofNatBE 2 (Bytes.ofString frame.path).length)).bind
        fun _ => send_offers bounded (Bytes.ofString frame.path)
  -- The check of the path, which comes in between, is passed.
  have sends : sendHeader (σ := σ) frame.path frame.compression frame.body.isChunked =
      (do
        send frameMagic
        send [wireVersion, Header.flags frame.compression frame.body.isChunked]
        send (Bytes.ofNatBE 2 (Bytes.ofString frame.path).length)
        send (Bytes.ofString frame.path)) := by
    simp only [sendHeader, path]
    rfl
  rw [sends]
  simpa [Frame.fixedBytes] using offers

/-- A path that is too long leaves the front of a header behind, whatever is framed. -/
theorem sendHeader_long (bounded : Bounded σ holds full) {path : String} {frame : Frame}
    {sink after : σ} {given : Bytes} {failure : Failure} (had : Offered holds full sink given)
    (long : ¬ (Bytes.ofString path).length < 256 ^ 2)
    (failed : sendHeader path frame.compression frame.body.isChunked sink =
      .error failure after) :
    Short holds after (given ++ frame.toBytes) := by
  have refused : pathBytes path = .error (.misconfigured (.pathTooLong path)) :=
    if_pos (by omega)
  let opening := frameMagic ++ [wireVersion, Header.flags frame.compression frame.body.isChunked]
  let others := Bytes.ofNatBE 2 (Bytes.ofString frame.path).length
    ++ (Bytes.ofString frame.path ++ frame.body.toBytes)
  have spelled : given ++ frame.toBytes = (given ++ opening) ++ others := by
    simp [opening, others, Frame.toBytes, Frame.fixedBytes]
  have some : others ≠ [] := by simp [others, Bytes.ofNatBE]
  have offers : Offers holds full (do
      send frameMagic
      send [wireVersion, Header.flags frame.compression frame.body.isChunked] : SendM σ Unit)
      opening :=
    (send_offers bounded _).bind fun _ => send_offers bounded _
  rw [spelled]
  -- The path is looked at behind the flags; either they go out, or the sink fills up before.
  rw [sendHeader, refused, ← bind_assoc] at failed
  rcases run_bind_eq_error_iff.mp failed with early | ⟨_, between, sent, thrown⟩
  · exact (offers.error sink had early).2.append others
  · cases thrown
    exact .of_offered (offers.ok sink had sent) some

/-- A header that goes out in full has a path that is not too long. -/
theorem path_short_of_sendHeader {path : String} {compression : Option Compression}
    {chunked : Bool} {sink after : σ}
    (sent : sendHeader path compression chunked sink = .ok () after) :
    (Bytes.ofString path).length < 256 ^ 2 := by
  by_contra long
  have refused : pathBytes path = .error (.misconfigured (.pathTooLong path)) :=
    if_pos (by omega)
  rw [sendHeader, refused] at sent
  obtain ⟨_, _, _, sent⟩ := run_bind_eq_ok_iff.mp sent
  obtain ⟨_, _, _, sent⟩ := run_bind_eq_ok_iff.mp sent
  cases sent

/-- A header that fails leaves the beginning of a frame behind. -/
theorem sendHeader_unfinished (bounded : Bounded σ holds full) {path : String}
    {compression : Option Compression} {chunked : Bool} {sink after : σ} {failure : Failure}
    (held : holds sink [])
    (failed : sendHeader path compression chunked sink = .error failure after) :
    ∃ sent, holds after sent ∧ Frame.Unfinished sent := by
  -- There is a frame of either form, with nothing in its body.
  obtain ⟨body, form, within⟩ :
      ∃ body : FrameBody, body.isChunked = chunked ∧ body.Within {} := by
    cases chunked with
    | true => exact ⟨.chunks [], rfl, by simp [FrameBody.Within]⟩
    | false => exact ⟨.whole [], rfl, by simp [FrameBody.Within]⟩
  subst form
  by_cases short : (Bytes.ofString path).length < 256 ^ 2
  · let frame : Frame := { path, compression, body }
    have opening := ((sendHeader_offers bounded frame short).error sink (.inl held) failed).2
    have cut : Short holds after frame.toBytes := by
      simpa [Frame.toBytes, frame] using opening.append body.toBytes
    exact cut.unfinished ⟨short, within⟩
  · -- The path does not get out, and so any other one may stand for it.
    let frame : Frame := { path := "", compression, body }
    have cut : Short holds after frame.toBytes := sendHeader_long bounded (.inl held) short failed
    have empty : (Bytes.ofString "").length < 256 ^ 2 := by decide
    exact cut.unfinished ⟨empty, within⟩

namespace Entity

variable {entity : Entity} {body : Bytes}

/-- A stream does nothing with the sink but write to it and flush it. -/
theorem stream_keeps (entity : Entity) (guarded : Guarded σ kept) :
    Keeps kept (entity.stream (σ := σ)) := by
  intro sink held
  have buffered := Buffered.guarded guarded
  have wrote := Encoder.writeMessage_keeps buffered entity.payload
    { sink := { inner := sink }, limits := entity.limits } held
  -- In the end the buffer is given up, whether or not everything went well.
  unfold stream
  dsimp only
  split
  · next encoder ran =>
    rw [ran] at wrote
    have flushed := buffered.flush encoder.sink wrote
    cases ranFlush : Sink.flush encoder.sink with
    | ok answer between =>
      rw [ranFlush] at flushed
      simp only [show Buffered.flush encoder.sink = _ from ranFlush]
      exact Buffered.release_keeps guarded flushed
    | error cause between =>
      rw [ranFlush] at flushed
      simp only [show Buffered.flush encoder.sink = _ from ranFlush]
      exact Buffered.release_keeps guarded flushed
  · next ran =>
    rw [ran] at wrote
    exact Buffered.release_keeps guarded wrote

/-- The body reaches the sink by writes and flushes alone. -/
theorem sendBody_keeps (entity : Entity) (guarded : Guarded σ kept) :
    Keeps kept (entity.sendBody (σ := σ)) := by
  unfold sendBody
  split
  · exact entity.stream_keeps guarded
  · refine (Keeps.ofExcept _).bind fun body => ?_
    exact (SendM.ofStream_keeps (guarded.writeAll body)).bind fun _ =>
      SendM.ofStream_keeps guarded.flush

/-- With a budget, the body is sent to the sink behind it, whatever is charged. -/
theorem writeTo_of_limiter {limiter : RateLimiter} (budget : entity.limiter = some limiter)
    (sink : σ) :
    entity.writeTo sink =
      match entity.sendBody ({ inner := sink, limiter, charges := [] } : Throttled σ) with
      | .ok answer throttled => .ok answer throttled.inner
      | .error failure throttled => .error failure throttled.inner := by
  simp only [writeTo, budget, sendCharged]
  cases entity.sendBody ({ inner := sink, limiter, charges := [] } : Throttled σ) with
  | ok answer throttled => rfl
  | error failure throttled => rfl

/-- The same holds with a budget. -/
theorem writeTo_keeps (entity : Entity) (guarded : Guarded σ kept) :
    Keeps kept (entity.writeTo (σ := σ)) := by
  intro sink held
  cases budget : entity.limiter with
  | none =>
    simp only [writeTo, budget]
    exact entity.sendBody_keeps guarded sink held
  | some limiter =>
    have left := entity.sendBody_keeps (Throttled.guarded guarded)
      { inner := sink, limiter, charges := [] } held
    rw [writeTo_of_limiter budget]
    split
    · next sent => rwa [sent] at left
    · next sent => rwa [sent] at left

/-- A body that is not streamed is offered as it is. -/
theorem sendBody_offers (bounded : Bounded σ holds full) (plain : entity.isStreaming = false)
    (whole : entity.body = .ok body) : Offers holds full (entity.sendBody (σ := σ)) body := by
  have sends : entity.sendBody (σ := σ) = (do send body; SendM.ofStream Sink.flush) := by
    simp only [sendBody, plain, whole]
    rfl
  have offers := (send_offers bounded body).bind fun _ =>
    SendM.ofStream_offers bounded.flush_offers
  rw [sends]
  simpa using offers

/-- The same holds with a budget. -/
theorem writeTo_offers (bounded : Bounded σ holds full) (plain : entity.isStreaming = false)
    (whole : entity.body = .ok body) : Offers holds full (entity.writeTo (σ := σ)) body := by
  cases budget : entity.limiter with
  | none =>
    have direct : entity.writeTo (σ := σ) = entity.sendBody := by
      funext sink
      simp only [writeTo, budget]
    rw [direct]
    exact sendBody_offers bounded plain whole
  | some limiter =>
    have offers := sendBody_offers (Throttled.bounded bounded) plain whole
    constructor
    · intro sink given answer after had ran
      rw [writeTo_of_limiter budget] at ran
      split at ran
      · next sent =>
        cases ran
        exact offers.ok { inner := sink, limiter, charges := [] } had sent
      · cases ran
    · intro sink given failure after had ran
      rw [writeTo_of_limiter budget] at ran
      split at ran
      · cases ran
      · next failed =>
        cases ran
        exact offers.error { inner := sink, limiter, charges := [] } had failed

/-- A body in chunks that fails is short of its end at least. -/
theorem writeChunked_short (bounded : Bounded σ holds full) {limits : Limits} {sink after : σ}
    {given : Bytes} {failure : Failure} (had : Offered holds full sink given)
    (failed : entity.writeChunked limits sink = .error failure after) :
    ∃ pieces : List Bytes, (∀ piece ∈ pieces, piece ≠ [] ∧ piece.length ≤ limits.chunkSize) ∧
      Short holds after (given ++ (FrameBody.chunks pieces).toBytes) := by
  have opened : Chunked.Underway holds full limits.chunkSize given (.onto sink limits) :=
    ⟨rfl, Nat.zero_le _, [], by simp, by simpa [Chunked.onto] using had⟩
  have keeps := entity.writeTo_keeps (Chunked.guarded bounded) _ opened
  simp only [writeChunked, run_bind] at failed
  cases wrote : entity.writeTo (Chunked.onto sink limits) with
  | error cause chunked =>
    rw [wrote] at keeps
    simp only [wrote] at failed
    cases failed
    exact Chunked.Underway.short keeps
  | ok answer chunked =>
    rw [wrote] at keeps
    simp only [wrote, SendM.ofStream] at failed
    cases ended : Chunked.finish chunked with
    | error cause left =>
      simp only [ended] at failed
      cases failed
      exact Chunked.finish_short bounded keeps ended
    | ok answer left =>
      simp only [ended] at failed
      cases failed

end Entity

/-- Chunks of the size that is sent are admitted by some ceilings. -/
theorem Limits.chunks_within {limits : Limits} {pieces : List Bytes}
    (fits : ∀ piece ∈ pieces, piece ≠ [] ∧ piece.length ≤ limits.chunkSize) :
    (FrameBody.chunks pieces).Within
      { messageSize := pieces.flatten.length, frameSize := chunkSizeMax } := by
  have ceiling : limits.chunkSize ≤ chunkSizeMax := by
    simp only [Limits.chunkSize, chunkSizeMax]
    omega
  refine ⟨fun piece member => ?_, Nat.le_refl _⟩
  obtain ⟨present, size⟩ := fits piece member
  have small : chunkSizeMax < 256 ^ 4 := by decide
  exact ⟨present, Nat.le_trans size ceiling, by omega⟩

/-- A request whose length is not known goes out in chunks. -/
theorem sendRequest_of_streaming {path : String} {entity : Entity} {limits : Limits}
    (streams : entity.isStreaming = true) :
    sendRequest (σ := σ) path entity limits =
      (do
        sendHeader path entity.compression true
        entity.writeChunked limits
        SendM.ofStream Sink.flush) := by
  have length : entity.contentLength = .ok none := by
    simp only [Entity.contentLength, streams]
    rfl
  simp only [sendRequest, length]
  rfl

/-- Any other request goes out in one piece, behind its length. -/
theorem sendRequest_of_plain {path : String} {entity : Entity} {limits : Limits}
    {body field : Bytes} (plain : entity.isStreaming = false)
    (whole : entity.body = .ok body) (counted : bodyLength body.length = .ok field) :
    sendRequest (σ := σ) path entity limits =
      (do
        sendHeader path entity.compression false
        send field
        entity.writeTo
        SendM.ofStream Sink.flush) := by
  have length : entity.contentLength = .ok (some body.length) := by
    simp only [Entity.contentLength, plain, whole]
    rfl
  funext sink
  simp only [sendRequest, length, run_bind, run_ofExcept_ok, counted]

/-- Nothing is sent of a body that has to be made beforehand and cannot be. -/
theorem sendRequest_of_unencoded {path : String} {entity : Entity} {limits : Limits}
    {failure : Failure} {sink : σ} (plain : entity.isStreaming = false)
    (unencoded : entity.body = .error failure) :
    sendRequest path entity limits sink = .error failure sink := by
  simp only [sendRequest, Entity.contentLength, plain, unencoded]
  rfl

/-- A request in chunks that fails leaves the beginning of a frame behind. -/
theorem sendRequest_unfinished_of_streaming (bounded : Bounded σ holds full) {path : String}
    {entity : Entity} {limits : Limits} {sink after : σ} {failure : Failure} (held : holds sink [])
    (streams : entity.isStreaming = true)
    (failed : sendRequest path entity limits sink = .error failure after) :
    ∃ sent, holds after sent ∧ Frame.Unfinished sent := by
  rw [sendRequest_of_streaming streams] at failed
  -- The header, the chunks and the flush may fail, each after the others before it went out.
  rcases run_bind_eq_error_iff.mp failed with early | ⟨_, opened, header, failed⟩
  · exact sendHeader_unfinished bounded held early
  have short := path_short_of_sendHeader header
  let opening : Frame := { path, compression := entity.compression, body := .chunks [] }
  have had := (sendHeader_offers bounded opening short).ok sink (.inl held) header
  rcases run_bind_eq_error_iff.mp failed with early | ⟨_, between, wrote, failed⟩
  · obtain ⟨pieces, fits, cut⟩ := Entity.writeChunked_short bounded had early
    let frame : Frame := { path, compression := entity.compression, body := .chunks pieces }
    have cut : Short holds after frame.toBytes := by
      simpa [Frame.toBytes, Frame.fixedBytes, FrameBody.isChunked, frame] using cut
    exact cut.unfinished ⟨short, Limits.chunks_within fits⟩
  · obtain ⟨_, _, flushed, _⟩ := bounded.flush between
    simp only [SendM.ofStream, flushed] at failed
    cases failed

/-- Four octets count a body exactly when it is short enough for them. -/
theorem bodyLength_eq_ok_iff {length : Nat} {field : Bytes} :
    bodyLength length = .ok field ↔ length < 256 ^ 4 ∧ field = Bytes.ofNatBE 4 length := by
  unfold bodyLength
  split
  · simp only [reduceCtorEq, false_iff, not_and]
    omega
  · next short =>
    have small : length < 256 ^ 4 := by omega
    simp only [Except.ok.injEq, small, true_and, eq_comm]

/-- A request in one piece that fails leaves the beginning of a frame behind. -/
theorem sendRequest_unfinished_of_plain (bounded : Bounded σ holds full) {path : String}
    {entity : Entity} {limits : Limits} {sink after : σ} {failure : Failure} {body field : Bytes}
    (held : holds sink []) (plain : entity.isStreaming = false) (whole : entity.body = .ok body)
    (counted : bodyLength body.length = .ok field)
    (failed : sendRequest path entity limits sink = .error failure after) :
    ∃ sent, holds after sent ∧ Frame.Unfinished sent := by
  rw [sendRequest_of_plain plain whole counted] at failed
  obtain ⟨small, rfl⟩ := bodyLength_eq_ok_iff.mp counted
  rcases run_bind_eq_error_iff.mp failed with early | ⟨_, opened, header, failed⟩
  · exact sendHeader_unfinished bounded held early
  let frame : Frame := { path, compression := entity.compression, body := .whole body }
  have short : (Bytes.ofString frame.path).length < 256 ^ 2 := path_short_of_sendHeader header
  have had := (sendHeader_offers bounded frame short).ok sink (.inl held) header
  -- Behind the header, the rest of the frame is offered piece by piece.
  have offers := (send_offers bounded (Bytes.ofNatBE 4 body.length)).bind fun _ =>
    (Entity.writeTo_offers bounded plain whole).bind fun _ =>
      SendM.ofStream_offers bounded.flush_offers
  have cut : Short holds after frame.toBytes := by
    simpa [Frame.toBytes, frame, FrameBody.toBytes, FrameBody.chunkBytes] using
      (offers.error opened had failed).2
  have admitted : frame.body.Within { messageSize := body.length } := ⟨Nat.le_refl _, small⟩
  exact cut.unfinished ⟨short, admitted⟩

/-- A request that fails leaves the beginning of a frame in a sink that may fill up. -/
theorem sendRequest_unfinished (bounded : Bounded σ holds full) {path : String} {entity : Entity}
    {limits : Limits} {sink after : σ} {failure : Failure} (held : holds sink [])
    (failed : sendRequest path entity limits sink = .error failure after) :
    ∃ sent, holds after sent ∧ Frame.Unfinished sent := by
  cases streams : entity.isStreaming with
  | true => exact sendRequest_unfinished_of_streaming bounded held streams failed
  | false =>
    -- Nothing is sent before the length of the body is known and counted.
    have untouched (same : after = sink) : ∃ sent, holds after sent ∧ Frame.Unfinished sent :=
      ⟨[], same ▸ held, .nil⟩
    cases whole : entity.body with
    | error cause =>
      rw [sendRequest_of_unencoded streams whole] at failed
      cases failed
      exact untouched rfl
    | ok body =>
      cases counted : bodyLength body.length with
      | error cause =>
        simp only [sendRequest, Entity.contentLength_of_body whole, streams, Bool.false_eq_true,
          if_false, run_bind, run_ofExcept_ok, counted, run_ofExcept_error] at failed
        cases failed
        exact untouched rfl
      | ok field => exact sendRequest_unfinished_of_plain bounded held streams whole counted failed

/--
A request that fails is never delivered as a complete one.

Whatever the store took of it, no packet is parsed from that under any ceilings; and a body that is
made beforehand leaves the store empty when it cannot be made.
-/
theorem sendRequest_undelivered {path : String} {entity : Entity} {limits : Limits}
    {capacity : Option Nat} {failure : Failure} {after : Store}
    (failed : sendRequest path entity limits ({ capacity } : Store) = .error failure after) :
    (∀ ceilings packet consumed,
        Packet.parse after.toBytes ceilings ≠ .ok (some (packet, consumed))) ∧
      (entity.isStreaming = false → ∀ cause, entity.body = .error cause →
        failure = cause ∧ after.toBytes = []) := by
  constructor
  · intro ceilings packet consumed
    have empty : Store.Has { capacity } [] := rfl
    obtain ⟨sent, held, unfinished⟩ := sendRequest_unfinished Store.bounded empty failed
    rw [show after.toBytes = sent from held]
    exact unfinished.parse_ne_some ceilings packet consumed
  · intro plain cause unencoded
    rw [sendRequest_of_unencoded plain unencoded] at failed
    cases failed
    exact ⟨rfl, rfl⟩

namespace Sample

/-- A short list, streamed on a budget. -/
def streamedList : Entity where
  payload := .list [.bool true, .string "abc"]
  limits := {}
  streaming := true
  limiter := some ⟨fun _ => 5⟩

/-- The same list, made beforehand, but under a ceiling that it does not respect. -/
def tightList : Entity where
  payload := streamedList.payload
  limits := { messageSize := 8 }
  compression := some .gzip

/--
A store that fills up in the middle of a chunk has no request, though twenty of its bytes.

A list that is too long to be made leaves a store as it is that would have had room for it.
-/
theorem sendRequest_undelivered_list :
    (∃ after, sendRequest "/a" streamedList { frameSize := 3 } ({ capacity := some 20 } : Store) =
        .error (.stream .sinkFull) after ∧ after.toBytes.length = 20 ∧
          ∀ ceilings packet consumed,
            Packet.parse after.toBytes ceilings ≠ .ok (some (packet, consumed))) ∧
      ∃ after, sendRequest "/a" tightList {} ({ capacity := some 1000 } : Store) =
        .error (.limitExceeded .messageSize 8 12) after ∧ after.toBytes = [] := by
  constructor
  · have stopped : (match sendRequest "/a" streamedList { frameSize := 3 }
          ({ capacity := some 20 } : Store) with
        | .ok _ _ => false
        | .error failure after =>
          decide (failure = .stream .sinkFull ∧ after.toBytes.length = 20)) = true := by
      decide +kernel
    split at stopped
    · cases stopped
    · next failed =>
      obtain ⟨rfl, held⟩ := of_decide_eq_true stopped
      exact ⟨_, failed, held, (sendRequest_undelivered failed).1⟩
  · have unencoded : tightList.body = .error (.limitExceeded .messageSize 8 12) := by
      decide +kernel
    have failed : sendRequest "/a" tightList {} ({ capacity := some 1000 } : Store) =
        .error (.limitExceeded .messageSize 8 12) { capacity := some 1000 } :=
      sendRequest_of_unencoded rfl unencoded
    exact ⟨_, failed, ((sendRequest_undelivered failed).2 rfl _ unencoded).2⟩

end Sample

end RemoteCall
