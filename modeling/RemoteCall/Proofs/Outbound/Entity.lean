import RemoteCall.Proofs.Codec.Encoding
import RemoteCall.Proofs.Compression.Limited
import RemoteCall.Proofs.Frame.Sending
import RemoteCall.Proofs.Outbound.Charges
import RemoteCall.Proofs.Stream.Buffered

/-! The body of an entity reaches a sink that loses nothing in full, whichever way it goes out. -/

namespace RemoteCall

variable {σ : Type} [Sink σ] {holds : Holding σ}

namespace Entity

variable {entity : Entity} {body : Bytes} {decoders : Decoders}

/-- A body is the encoding of the payload, in its content encoding if there is one. -/
theorem body_eq_ok_iff :
    entity.body = .ok body ↔
      ∃ encoded, encode entity.payload entity.limits = .ok encoded ∧
        match entity.compression with
        | none => body = encoded
        | some kind => entity.compressor kind encoded = some body := by
  -- There has to be an encoding first, and only then is there something to compress.
  rw [Entity.body, except_bind_eq_ok_iff]
  refine exists_congr fun encoded => and_congr_right fun _ => ?_
  cases entity.compression with
  | none =>
    simp only [pure, Except.pure, Except.ok.injEq]
    exact eq_comm
  | some kind =>
    cases compressed : entity.compressor kind encoded with
    | none => simp [compressed]
    | some found => simp [compressed, pure, Except.pure]

/-- What a body was made of comes out of it again, with or without a content encoding. -/
theorem payload_of_body {encoded : Bytes}
    (encodes : encode entity.payload entity.limits = .ok encoded)
    (fits : encoded.length ≤ entity.limits.messageSize)
    (inverted : decoders.Invert entity.compressor) (whole : entity.body = .ok body)
    (path : String) :
    ({ path, compression := entity.compression, body } : Packet).payload entity.limits decoders =
      .ok encoded := by
  obtain ⟨found, encodesToo, made⟩ := body_eq_ok_iff.mp whole
  cases encodes.symm.trans encodesToo
  -- Without a content encoding, the body is the encoding.
  cases coding : entity.compression with
  | none =>
    simp only [coding] at made
    exact congrArg Except.ok made
  | some kind =>
    simp only [coding] at made
    -- What the decoder restores is given under every ceiling that it fits.
    exact ((Decoders.exact_decompress (inverted kind encoded body made)).given _).mpr fits

/-- What a body is made of can be opened again, with or without a content encoding. -/
theorem exists_body {encoded : Bytes} (encodes : encode entity.payload entity.limits = .ok encoded)
    (fits : encoded.length ≤ entity.limits.messageSize)
    (inverted : decoders.Invert entity.compressor)
    (compressed : ∀ kind, entity.compression = some kind →
      ∃ bytes, entity.compressor kind encoded = some bytes ∧
        bytes.length ≤ entity.limits.messageSize) :
    ∃ body, entity.body = .ok body ∧ body.length ≤ entity.limits.messageSize ∧
      ∀ path, ({ path, compression := entity.compression, body } : Packet).payload entity.limits
        decoders = .ok encoded := by
  obtain ⟨body, whole, small⟩ :
      ∃ body, entity.body = .ok body ∧ body.length ≤ entity.limits.messageSize := by
    -- Without a content encoding, the body is the encoding as it is.
    cases coding : entity.compression with
    | none => exact ⟨encoded, body_eq_ok_iff.mpr ⟨encoded, encodes, by simp [coding]⟩, fits⟩
    -- With one, the compressed bytes are small enough.
    | some kind =>
      obtain ⟨bytes, made, small⟩ := compressed kind coding
      exact ⟨bytes, body_eq_ok_iff.mpr ⟨encoded, encodes, by simpa [coding] using made⟩, small⟩
  exact ⟨body, whole, small, payload_of_body encodes fits inverted whole⟩

/-- The length of a body is known beforehand unless the body is streamed. -/
theorem contentLength_of_body (whole : entity.body = .ok body) :
    entity.contentLength = .ok (if entity.isStreaming then none else some body.length) := by
  -- A body that is streamed is not made beforehand, so its length is not known.
  cases streams : entity.isStreaming with
  | true =>
    simp only [contentLength, streams, if_true]
    rfl
  | false =>
    simp only [contentLength, streams, whole]
    rfl

/-- A stream is the encoding, passed through a buffer that is empty in the end. -/
theorem stream_delivers (lossless : Lossless σ holds)
    (encoded : encode entity.payload entity.limits = .ok body) :
    Delivers holds (entity.stream (σ := σ)) body := by
  intro sink given held
  obtain ⟨admitted, rfl⟩ := encode_eq_ok_iff.mp encoded
  -- The buffer is new, so that the sink has been given everything so far.
  have opened : Buffered.Holds holds { inner := sink } given :=
    ⟨Nat.zero_lt_succ _, given, held, by simp⟩
  obtain ⟨encoder, wrote, held⟩ := Encoder.writeMessage_of_admits (Buffered.lossless lossless)
    { sink := ({ inner := sink } : Buffered σ), limits := entity.limits } opened admitted
  -- Flushing empties the buffer, so that giving it up passes nothing more on.
  obtain ⟨buffered, flushed, held, empty⟩ := Buffered.flush_holds lossless held
  refine ⟨(), buffered.release, ?_, Buffered.release_holds held empty⟩
  simp only [stream, wrote, flushed]

/-- The body reaches the sink, streamed or not. -/
theorem sendBody_delivers (lossless : Lossless σ holds) (whole : entity.body = .ok body) :
    Delivers holds (entity.sendBody (σ := σ)) body := by
  -- The body is passed on as it is made, or made first and passed on in one piece.
  by_cases streams : entity.isStreaming = true
  · have plain : entity.compression = none := by
      simp only [isStreaming, Bool.and_eq_true, Option.isNone_iff_eq_none] at streams
      exact streams.2
    -- A content encoding is never streamed, so the body is the encoding as it is.
    obtain ⟨encoded, found, same⟩ := body_eq_ok_iff.mp whole
    rw [plain] at same
    subst same
    simp only [sendBody, streams, if_true]
    exact stream_delivers lossless found
  · intro sink given held
    obtain ⟨answer, after, sent, held⟩ :=
      ((send_delivers lossless body).bind fun _ => flush_delivers lossless) sink given held
    refine ⟨answer, after, ?_, by simpa using held⟩
    rw [← sent]
    simp [sendBody, streams, whole]

/-- The body reaches the sink behind a budget, which is charged for each of its bytes. -/
theorem sendCharged_of_body (lossless : Lossless σ holds) (whole : entity.body = .ok body)
    (limiter : RateLimiter) {sink : σ} {given : Bytes} (held : holds sink given)
    (charges : List Nat) :
    ∃ after spent, entity.sendCharged limiter (sink, charges) = .ok () (after, spent) ∧
      holds after (given ++ body) ∧ spent.sum = charges.sum + body.length := by
  -- Charges are counted from here on, so what the sink was given before is set apart.
  have throttled := Throttled.lossless (lossless.behind given) charges.sum
  have opened : Throttled.Holds (fun sink data => holds sink (given ++ data)) charges.sum
      { inner := sink, limiter, charges } [] := ⟨by simpa using held, rfl⟩
  obtain ⟨answer, after, sent, held, charged⟩ := sendBody_delivers throttled whole _ _ opened
  refine ⟨after.inner, after.charges, ?_, by simpa using held, by simpa using charged⟩
  simp only [sendCharged, sent]

/-- The body reaches the sink, and a budget that it has is charged for each of its bytes. -/
theorem writeToCharged_of_body (lossless : Lossless σ holds) (whole : entity.body = .ok body)
    {sink : σ} {given : Bytes} (held : holds sink given) :
    ∃ after spent, entity.writeToCharged (sink, []) = .ok () (after, spent) ∧
      holds after (given ++ body) ∧
        spent.sum = if entity.limiter.isSome then body.length else 0 := by
  cases budget : entity.limiter with
  | none =>
    obtain ⟨answer, after, sent, held⟩ := sendBody_delivers lossless whole sink given held
    exact ⟨after, [], by simp only [writeToCharged, budget, SendM.free, sent], held, rfl⟩
  | some limiter =>
    obtain ⟨after, spent, sent, held, charged⟩ :=
      sendCharged_of_body lossless whole limiter held []
    exact ⟨after, spent, by simp only [writeToCharged, budget, sent], held, by simpa using charged⟩

end Entity

end RemoteCall
