import RemoteCall.Proofs.Compression.Limited
import RemoteCall.Proofs.Steps

/-! A Zstandard frame that holds bytes as they are gives them back. -/

namespace RemoteCall

/-- The octets of bytes that lie in an array. -/
theorem Bits.octet_toArray (bytes : Bytes) (position : Nat) :
    octet ⟨bytes.toArray⟩ position = bytes.getD position 0 := by
  unfold octet
  by_cases inside : position < bytes.length
  · have insideToo : position < (⟨bytes.toArray⟩ : ByteArray).size := inside
    rw [dif_pos insideToo, List.getD_eq_getElem?_getD, List.getElem?_eq_getElem inside]
    rfl
  · have outside : ¬ position < (⟨bytes.toArray⟩ : ByteArray).size := inside
    rw [dif_neg outside, List.getD_eq_getElem?_getD,
      List.getElem?_eq_none (Nat.not_lt.mp inside)]
    rfl

namespace Zstd

variable {bytes : Bytes}

/-- The frame of bytes, as it lies in an array. -/
def stored (bytes : Bytes) : ByteArray := ⟨(store bytes).toArray⟩

/-- What the header of a frame says that holds bytes as they are. -/
def storedHeader : FrameHeader where
  window := FrameHeader.blockSizeMax
  contentSize := none
  hasChecksum := false
  next := 6

/-- Bytes that fit a read are put in one block. -/
theorem store_of_short (short : bytes.length ≤ readSize) :
    store bytes = 0x28 :: 0xB5 :: 0x2F :: 0xFD :: 0 :: 56 ::
      (Bytes.ofNatLE 3 (8 * bytes.length + 1) ++ bytes) := by
  have fits : bytes.length ≤ FrameHeader.blockSizeMax := Nat.le_trans short (by decide)
  have whole : bytes.take FrameHeader.blockSizeMax = bytes := List.take_of_length_le fits
  have last : (bytes.drop FrameHeader.blockSizeMax).isEmpty = true := by
    rw [List.drop_of_length_le fits, List.isEmpty_nil]
  rw [store, storedBlocks, whole]
  simp only [last, dif_pos]
  rfl

/-- Nine octets stand before the content. -/
theorem size_stored (short : bytes.length ≤ readSize) :
    (stored bytes).size = 9 + bytes.length := by
  show (store bytes).length = _
  simp only [store_of_short short, Bytes.ofNatLE, List.length_cons, List.length_append,
    List.length_nil]
  omega

/-- The octets of a frame are those of its header, of its block's header and of the content. -/
theorem octet_stored (short : bytes.length ≤ readSize) (position : Nat) :
    Bits.octet (stored bytes) position = (0x28 :: 0xB5 :: 0x2F :: 0xFD :: 0 :: 56 ::
      (Bytes.ofNatLE 3 (8 * bytes.length + 1) ++ bytes)).getD position 0 := by
  rw [← store_of_short short]
  exact Bits.octet_toArray ..

/-- The header of the block tells its length, and that it is the last one. -/
theorem octets_stored (short : bytes.length ≤ readSize) :
    Bits.octets (stored bytes) 6 3 = 8 * bytes.length + 1 := by
  unfold readSize at short
  simp [Bits.octets, octet_stored short, Bytes.ofNatLE]
  omega

/-- The header of the frame is read. -/
theorem take?_stored (short : bytes.length ≤ readSize) :
    FrameHeader.take? (stored bytes) 0 = some storedHeader := by
  have room : ¬ (stored bytes).size < 6 := by
    rw [size_stored short]
    omega
  simp [FrameHeader.take?, octet_stored short, List.range, List.range.loop, frameMagic, room,
    Bits.octets, FrameHeader.windowOf, FrameHeader.windowLogMax, storedHeader,
    FrameHeader.blockSizeMax]

/-- Behind both headers lies the content. -/
theorem extract_stored (short : bytes.length ≤ readSize) :
    (stored bytes).extract 9 (9 + bytes.length) = ⟨bytes.toArray⟩ := by
  apply ByteArray.ext
  rw [ByteArray.data_extract]
  apply Array.ext'
  simp [stored, store_of_short short, Bytes.ofNatLE]

/-- The only block gives the content. -/
theorem takeBlocks_stored (short : bytes.length ≤ readSize) (fuel : Nat) :
    takeBlocks storedHeader (stored bytes) (fuel + 1) 6 {} .empty =
      .ok (9 + bytes.length) ⟨bytes.toArray⟩ := by
  have size := size_stored short
  have room : ¬ (stored bytes).size < 6 + 3 := by omega
  have whole : ¬ (stored bytes).size < 9 + bytes.length := by omega
  have small : ¬ FrameHeader.blockSizeMax < bytes.length :=
    Nat.not_lt.mpr (Nat.le_trans short (by decide))
  have content : (8 * bytes.length + 1) / 8 = bytes.length := by omega
  have last : (8 * bytes.length + 1) % 2 = 1 := by omega
  have form : (8 * bytes.length + 1) / 2 % 4 = 0 := by omega
  rw [takeBlocks, if_neg room, octets_stored short]
  -- Whether there is any content makes no difference to a frame that does not tell its size.
  by_cases some : 0 < bytes.length <;>
    simp [content, last, form, whole, small, some, FrameHeader.outputMax, FrameHeader.isWhole,
      FrameHeader.blockMax, storedHeader, extract_stored short, takeChecksum]

/-- Bytes that fit a read are delivered in one. -/
theorem ofOutput_of_short (some : bytes ≠ []) (short : bytes.length ≤ readSize) :
    Delivery.ofOutput ⟨bytes.toArray⟩ bytes.length = #[bytes] := by
  have positive := List.length_pos_iff.mpr some
  have size : (⟨bytes.toArray⟩ : ByteArray).size = bytes.length := rfl
  have more : ¬ bytes.length ≤ 0 := by omega
  have next : min bytes.length (0 + readSize) = bytes.length := by omega
  rw [Delivery.ofOutput, size, Nat.min_self, Delivery.cut, if_neg more]
  dsimp only
  rw [next, Delivery.cut, if_pos (Nat.le_refl _)]
  simp

/-- The frame gives its content, and ends behind it. -/
theorem takeFrame_stored (some : bytes ≠ []) (short : bytes.length ≤ readSize) :
    takeFrame (stored bytes) 0 = (#[bytes], .some (9 + bytes.length)) := by
  have narrow : ¬ FrameHeader.windowMax < storedHeader.window := by decide
  have next : storedHeader.next = 6 := rfl
  have size : (⟨bytes.toArray⟩ : ByteArray).size = bytes.length := rfl
  simp only [takeFrame, take?_stored short, narrow, false_and, if_false, next,
    takeBlocks_stored short, size, ofOutput_of_short some short]

/-- Bytes that fit a read are given back by the frame that holds them. -/
theorem deliver_store (some : bytes ≠ []) (short : bytes.length ≤ readSize) :
    deliver (store bytes) = { pieces := #[bytes], intact := true } := by
  have size := size_stored short
  have present : (store bytes).isEmpty = false := by simp [store_of_short short]
  have first : ¬ (stored bytes).size ≤ 0 := by omega
  have named : skippedFrame? (stored bytes) 0 = none := by
    simp [skippedFrame?, Bits.octets, octet_stored short]
  have opened : deliver (store bytes) =
      deliverFrom (stored bytes) ((stored bytes).size + 1) 0 #[] := by
    unfold deliver
    rw [present]
    rfl
  have fuel : (stored bytes).size + 1 = bytes.length + 8 + 1 + 1 := by omega
  rw [opened, fuel, deliverFrom, if_neg first, named]
  dsimp only
  rw [takeFrame_stored some short]
  simp [deliverFrom, size]

end Zstd

namespace Sample

/-- Puts bytes that fit a read in a Zstandard frame, and gives up on everything else. -/
def framing : Compressor := fun kind bytes =>
  if kind = .zstd ∧ bytes ≠ [] ∧ bytes.length ≤ readSize then some (Zstd.store bytes) else none

/-- Bytes that fit a read are put in a frame. -/
theorem framing_of_short {bytes : Bytes} (some : bytes ≠ []) (short : bytes.length ≤ readSize) :
    framing .zstd bytes = .some (Zstd.store bytes) :=
  if_pos ⟨rfl, some, short⟩

/-- The standard decoders invert it. -/
theorem framing_inverted : Decoders.standard.Invert framing := by
  intro kind bytes encoded compressed
  simp only [framing, Option.ite_none_right_eq_some, Option.some.injEq] at compressed
  obtain ⟨⟨rfl, some, short⟩, rfl⟩ := compressed
  exact gives_piece (Zstd.deliver_store some short) some

end Sample

end RemoteCall
