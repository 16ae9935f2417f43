import RemoteCall.Proofs.Codec.RoundTrip
import RemoteCall.Proofs.Outbound.Request

/-! Whichever way a value goes out as a request, it is the value that the frame delivers. -/

namespace RemoteCall

/--
A ceiling of frames that lets nothing pass refuses a streamed body, though it is sent.

A chunk has at least one byte, which is more than such a ceiling admits.
-/
theorem sendRequest_refused_without_frames :
    let limits : Limits := { frameSize := 0 }
    let entity : Entity := { payload := .null, limits, streaming := true }
    encode entity.payload limits = .ok [1, 0] ∧ limits.messageSize ≤ 0xFFFFFFFF ∧
      (Bytes.ofString "/a").length ≤ 0xFFFF ∧
      ∃ store, sendRequest "/a" entity limits ({} : Store) = .ok () store ∧
        Packet.parse store.toBytes limits = .error (.limitExceeded .frameSize 0 1) := by
  intro limits entity
  refine ⟨by decide +kernel, by decide, by decide, ?_⟩
  have refused : (match sendRequest "/a" entity limits ({} : Store) with
      | .ok _ store =>
        decide (Packet.parse store.toBytes limits = .error (.limitExceeded .frameSize 0 1))
      | .error _ _ => false) = true := by
    decide +kernel
  split at refused
  · next store sent => exact ⟨store, sent, of_decide_eq_true refused⟩
  · cases refused

/--
A request delivers the value that was to be sent, as one frame with nothing behind it.

It does not matter whether the body is streamed, compressed or on a budget; a budget is charged for
each byte of the body.
-/
theorem sendRequest_delivered {entity : Entity} {path : String} {encoded : Bytes}
    (encodes : encode entity.payload entity.limits = .ok encoded)
    (countable : entity.limits.messageSize ≤ 0xFFFFFFFF)
    (short : (Bytes.ofString path).length ≤ 0xFFFF)
    (framed : entity.streaming = true → entity.compression = none → 0 < entity.limits.frameSize)
    {decoders : Decoders} (inverted : decoders.Invert entity.compressor)
    (compressed : ∀ kind, entity.compression = some kind →
      ∃ bytes, entity.compressor kind encoded = some bytes ∧
        bytes.length ≤ entity.limits.messageSize) :
    ∃ (store : Store) (packet : Packet),
      sendRequest path entity entity.limits ({} : Store) = .ok () store ∧
        packet.path = path ∧ packet.compression = entity.compression ∧
        (∀ more, Packet.parse (store.toBytes ++ more) entity.limits =
          .ok (some (packet, store.toBytes.length))) ∧
        packet.payload entity.limits decoders = .ok encoded ∧
        decode encoded entity.limits = .ok entity.payload ∧
        entity.contentLength =
          .ok (if entity.streaming = true ∧ entity.compression = none then none
            else some packet.body.length) ∧
        ∀ limiter, entity.limiter = some limiter →
          ∃ charges, sendRequestCharged path entity entity.limits (({} : Store), []) =
            .ok () (store, charges) ∧ charges.sum = packet.body.length := by
  have fits := length_le_of_encode encodes (Nat.lt_of_le_of_lt countable (by decide))
  obtain ⟨body, whole, small, opened⟩ := Entity.exists_body encodes fits inverted compressed
  -- Streaming is what is asked for, unless the body is compressed.
  have streams : entity.isStreaming = true ↔
      entity.streaming = true ∧ entity.compression = none := by
    simp [Entity.isStreaming]
  obtain ⟨store, charges, frame, sent, held, within, carried, charged⟩ :=
    Entity.sendRequestCharged_of_body Store.lossless (show Store.Holds {} [] from ⟨rfl, rfl⟩)
      (Nat.lt_succ_of_le short) (fun asked => (streams.mp asked).elim framed) small
      (Nat.lt_of_le_of_lt small (Nat.lt_succ_of_le countable)) whole
  have written : store.toBytes = frame.toBytes := held.2
  refine ⟨store, _, ?_, rfl, rfl, fun more => ?_, opened path, ?_, ?_, fun limiter budget => ?_⟩
  -- Forgetting the charges leaves the store as it is.
  · rw [← sendRequestCharged_accountsFor, sent]
    rfl
  · rw [written, Packet.parse_toBytes within more, carried]
  · have countable : encoded.length ≤ wordMax := by
      show encoded.length ≤ 2 ^ 64 - 1
      omega
    exact decode_eq_ok_iff.mpr ⟨encodes, countable⟩
  · rw [Entity.contentLength_of_body whole]
    simp only [streams]
  · refine ⟨charges, sent, ?_⟩
    simpa [budget] using charged

namespace Sample

/-- The encoding of a text of three letters. -/
def textEncoding : Bytes := [1, 6, 0, 0, 0, 3, 97, 98, 99]

/-- The encoding of that text in each content encoding. -/
def textPacked : Compression → Bytes
  | .gzip => [0x1F, 0x8B, 8, 0, 0, 0, 0, 0, 2, 3, 99, 100, 99, 96, 96, 96, 78, 76, 74, 6, 0, 0x54,
      0x3E, 0xCD, 0xEF, 9, 0, 0, 0]
  | .lz4 => [9, 0, 0, 0, 0x90, 1, 6, 0, 0, 0, 3, 97, 98, 99]
  | .zstd => [0x28, 0xB5, 0x2F, 0xFD, 0x20, 9, 0x49, 0, 0, 1, 6, 0, 0, 0, 3, 97, 98, 99]

/-- A text on a budget, whose encoding is three chunks of three bytes. -/
def streamedText : Entity where
  payload := .string "abc"
  limits := { messageSize := 29, frameSize := 3, depth := 0 }
  streaming := true
  compressor := knowing textEncoding textPacked
  limiter := some ⟨fun _ => 4⟩

/-- The same text in a content encoding, which wins over streaming. -/
def packedText (kind : Compression) : Entity where
  payload := streamedText.payload
  limits := streamedText.limits
  streaming := true
  compression := some kind
  compressor := streamedText.compressor
  limiter := some ⟨fun granted => granted.length⟩

/-- The standard decoders restore the encoding of the text from each content encoding. -/
theorem textPacked_restored (kind : Compression) :
    Decoders.standard.Restores kind (textPacked kind) textEncoding := by
  have gzip : (Gzip.deliver (textPacked .gzip)).results.Gives textEncoding :=
    gives_piece (by decide +kernel) (by decide)
  have zstd : (Zstd.deliver (textPacked .zstd)).results.Gives textEncoding :=
    gives_piece (by decide +kernel) (by decide)
  cases kind with
  | gzip => simpa only [Decoders.Restores, Decoders.standard] using gzip
  | lz4 => exact ⟨[9, 0, 0, 0], (textPacked .lz4).drop 4, by decide, by decide, by decide +kernel⟩
  | zstd => simpa only [Decoders.Restores, Decoders.standard] using zstd

/-- A text is delivered in chunks of the greatest size, and compressed; both are paid for. -/
theorem sendRequest_delivered_text :
    let delivers (entity : Entity) (length : Option Nat) : Prop :=
      ∃ (store : Store) (packet : Packet),
        encode entity.payload entity.limits = .ok textEncoding ∧
          sendRequest "/a" entity entity.limits ({} : Store) = .ok () store ∧
          (∀ more, Packet.parse (store.toBytes ++ more) entity.limits =
            .ok (some (packet, store.toBytes.length))) ∧
          packet.payload entity.limits = .ok textEncoding ∧
          entity.contentLength = .ok length ∧
          ∃ charges, sendRequestCharged "/a" entity entity.limits (({} : Store), []) =
            .ok () (store, charges) ∧ charges.sum = packet.body.length
    Decoders.standard.Invert streamedText.compressor ∧ delivers streamedText none ∧
      delivers (packedText .gzip) (some 29) ∧ delivers (packedText .lz4) (some 14) ∧
        delivers (packedText .zstd) (some 18) := by
  intro delivers
  have short : (Bytes.ofString "/a").length ≤ 0xFFFF := by decide
  have inverted : Decoders.standard.Invert streamedText.compressor :=
    knowing_inverted textPacked_restored
  have packed (kind : Compression) :
      delivers (packedText kind) (some (textPacked kind).length) := by
    have encodes : encode (packedText kind).payload (packedText kind).limits =
        .ok textEncoding := by
      cases kind <;> decide +kernel
    have compressed : ∀ chosen, (packedText kind).compression = some chosen →
        ∃ bytes, (packedText kind).compressor chosen textEncoding = some bytes ∧
          bytes.length ≤ (packedText kind).limits.messageSize := by
      intro chosen coding
      cases coding
      exact ⟨_, rfl, by cases kind <;> decide⟩
    obtain ⟨store, packet, sent, _, _, parsed, opened, _, length, charged⟩ :=
      sendRequest_delivered encodes (by cases kind <;> decide) short
        (fun _ coding => nomatch coding) inverted compressed
    refine ⟨store, packet, encodes, sent, parsed, opened, ?_, charged _ rfl⟩
    cases kind <;> decide +kernel
  refine ⟨inverted, ?_, packed .gzip, packed .lz4, packed .zstd⟩
  have encodes : encode streamedText.payload streamedText.limits = .ok textEncoding := by
    decide +kernel
  obtain ⟨store, packet, sent, _, _, parsed, opened, _, length, charged⟩ :=
    sendRequest_delivered encodes (by decide) short (fun _ _ => by decide) inverted
      fun _ coding => nomatch coding
  exact ⟨store, packet, encodes, sent, parsed, opened, length, charged _ rfl⟩

end Sample

end RemoteCall
