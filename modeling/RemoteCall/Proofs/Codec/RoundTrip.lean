import RemoteCall.Proofs.Codec.Message

/-! Encoding and decoding are inverse to each other, under the same ceilings. -/

namespace RemoteCall

/-- The image of a message is that of its parts. -/
theorem Value.image_eq (value : Value) : value.image = Part.images value.messageParts := rfl

/-- Decoding gives a value exactly when encoding it gives the bytes, which a word can count. -/
theorem decode_eq_ok_iff {value : Value} {limits : Limits} {bytes : Bytes} :
    decode bytes limits = .ok value ↔
      encode value limits = .ok bytes ∧ bytes.length ≤ wordMax := by
  -- A decoder for bytes at hand has a source that never breaks.
  let start : Decoder := { source := { rest := bytes }, limits }
  have message (after : Decoder) : Decoder.takeMessage start = .ok value after ↔
      start.Passes value.messageParts after :=
    Decoder.takeMessage_eq_ok_iff (Nat.zero_le _)
  -- Both sides come to the same parts, admitted at a count of nothing.
  rw [encode_eq_ok_iff, Value.image_eq]
  constructor
  · intro decoded
    simp only [decode] at decoded
    -- Bytes beyond the ceiling are refused at once.
    split at decoded
    · cases decoded
    · split at decoded
      · cases decoded
      · next found =>
        split at decoded
        · next whole =>
          cases decoded
          obtain ⟨admitted, _, front, rfl⟩ := (message _).mp found
          -- The bytes that were read are all there are, so nothing follows the message.
          have counted : addCount 0 (Part.images value.messageParts).length = bytes.length := whole
          have front : bytes = Part.images value.messageParts ++
              bytes.drop (Part.images value.messageParts).length := front
          have split := congrArg List.length front
          rw [List.length_append] at split
          have bounded : bytes.length ≤ wordMax := counted ▸ addCount_le_wordMax ..
          have all : (Part.images value.messageParts).length = bytes.length := by
            unfold addCount at counted
            omega
          rw [all, List.drop_length, List.append_nil] at front
          exact ⟨⟨admitted, front⟩, bounded⟩
        · cases decoded
  · intro facts
    obtain ⟨⟨admitted, whole⟩, small⟩ := facts
    -- A count that stays a word is the length itself.
    have counted : addCount 0 bytes.length = bytes.length := by
      unfold addCount
      omega
    -- The whole message respects its ceiling, so the decoder looks at it.
    have fits : bytes.length ≤ limits.messageSize := by
      have bounded := admitted.bounded
      rwa [← whole, counted] at bounded
    -- The source opens with the parts, and nothing follows them.
    have passes : start.Passes value.messageParts (start.skip bytes.length) := by
      refine ⟨admitted, Or.inr (by simp [start]), ?_, by rw [whole]⟩
      simp [start, Decoder.skip, Source.skip, whole]
    have found := (message _).mpr passes
    simp only [start] at found
    simp [decode, Nat.not_lt.mpr fits, found, Decoder.skip, counted]

/-- A value is read to an answer, as it is and after it went through an encoding. -/
def Value.Conveys {α : Type} (read : Value → Except Failure α) (value : Value) (answer : α) :
    Prop :=
  -- Only an encoding that a word can count is decoded at all.
  read value = .ok answer ∧
    ∀ limits bytes, encode value limits = .ok bytes → bytes.length < 2 ^ 64 →
      ∃ decoded, decode bytes limits = .ok decoded ∧ read decoded = .ok answer

/-- What is read from a value is read from it on the other side too. -/
theorem Value.conveys_of_read {α : Type} {read : Value → Except Failure α} {value : Value}
    {answer : α} (found : read value = .ok answer) : value.Conveys read answer := by
  refine ⟨found, fun limits bytes encoded small => ?_⟩
  -- The value that is decoded is the one that was encoded.
  exact ⟨value, decode_eq_ok_iff.mpr ⟨encoded, Nat.le_pred_of_lt small⟩, found⟩

/-- An encoding respects the ceiling of messages, when the ceiling is one that can be counted to. -/
theorem length_le_of_encode {value : Value} {limits : Limits} {bytes : Bytes}
    (encoded : encode value limits = .ok bytes) (countable : limits.messageSize < wordMax) :
    bytes.length ≤ limits.messageSize := by
  obtain ⟨admitted, rfl⟩ := encode_eq_ok_iff.mp encoded
  -- A count below the greatest word has not been cut off, so it is the length.
  have bounded := admitted.bounded
  rw [Value.image_eq]
  unfold addCount at bounded
  omega

/-- An encoding that a word can count respects the ceiling of messages, whatever that is. -/
theorem length_le_of_encode_of_counted {value : Value} {limits : Limits} {bytes : Bytes}
    (encoded : encode value limits = .ok bytes) (counted : bytes.length ≤ wordMax) :
    bytes.length ≤ limits.messageSize := by
  obtain ⟨admitted, rfl⟩ := encode_eq_ok_iff.mp encoded
  -- The count has not been cut off, so it is the length.
  have bounded := admitted.bounded
  rw [Value.image_eq] at counted ⊢
  unfold addCount at bounded
  omega

/-- A value reads back from its encoding, under the ceilings that it was encoded with. -/
theorem decode_encode {value : Value} {limits : Limits} {bytes : Bytes}
    (encoded : encode value limits = .ok bytes) (small : bytes.length < 2 ^ 64) :
    decode bytes limits = .ok value := by
  -- The greatest word is one less than the power that bounds the length.
  apply decode_eq_ok_iff.mpr
  exact ⟨encoded, Nat.le_pred_of_lt small⟩

/-- A nested value with a repeated key reads back under ceilings that it just respects. -/
theorem decode_encode_nested :
    let value : Value := .object "P" [("k", .array "i" [.int (-1), .null]), ("k", .float ⟨1⟩)]
    let limits : Limits := { messageSize := 51, frameSize := 2, depth := 2 }
    ∃ bytes, encode value limits = .ok bytes ∧ bytes.length < 2 ^ 64 ∧
      decode bytes limits = .ok value := by
  -- Both ceilings of length and the ceiling of depth are met exactly.
  intro value limits
  have encoded : encode value limits = .ok
      [1, 11, 0, 0, 0, 1, 80, 0, 0, 0, 2, 0, 0, 0, 1, 107, 9, 0, 0, 0, 1, 105, 0, 0, 0, 2, 3, 255,
        255, 255, 255, 255, 255, 255, 255, 0, 0, 0, 0, 1, 107, 5, 0, 0, 0, 0, 0, 0, 0, 1] := by
    decide +kernel
  exact ⟨_, encoded, by decide, decode_encode encoded (by decide)⟩

/-- Only the encoding of a value decodes to it, and no value decodes that does not encode. -/
theorem encode_decode {bytes : Bytes} {limits : Limits} {value : Value}
    (decoded : decode bytes limits = .ok value) :
    encode value limits = .ok bytes ∧
      ∀ other otherLimits, decode other otherLimits = .ok value → other = bytes := by
  obtain ⟨encoded, _⟩ := decode_eq_ok_iff.mp decoded
  refine ⟨encoded, fun other otherLimits decodedOther => ?_⟩
  obtain ⟨encodedOther, _⟩ := decode_eq_ok_iff.mp decodedOther
  -- Ceilings decide whether there is an encoding, but not what it is.
  rw [(encode_eq_ok_iff.mp encoded).2, (encode_eq_ok_iff.mp encodedOther).2]

/-- A list that was decoded under tight ceilings is encoded by the same bytes. -/
theorem encode_decode_list :
    let bytes : Bytes := [1, 8, 0, 0, 0, 2, 2, 6, 0, 0, 0, 2, 195, 169]
    let limits : Limits := { messageSize := 14, frameSize := 2, depth := 1 }
    let value : Value := .list [.bool true, .string "é"]
    decode bytes limits = .ok value ∧ encode value limits = .ok bytes ∧
      ∀ other otherLimits, decode other otherLimits = .ok value → other = bytes := by
  -- The two octets of the accented letter make the string as long as the ceiling allows.
  intro bytes limits value
  have decoded : decode bytes limits = .ok value :=
    decode_eq_ok_iff.mpr ⟨by decide +kernel, by decide⟩
  exact ⟨decoded, encode_decode decoded⟩

end RemoteCall
