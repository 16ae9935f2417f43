import RemoteCall.Compression.Compress
import RemoteCall.Proofs.Compression.Collecting

/-! Decompression gives what was compressed, exactly up to the ceiling and nothing above it. -/

namespace RemoteCall

namespace Decoders

/-- The decoder of an encoding restores the original, of which a size is claimed truly. -/
def Restores (decoders : Decoders) (kind : Compression) (encoded original : Bytes) : Prop :=
  match kind with
  | .gzip => (decoders.gzip encoded).Gives original
  | .lz4 => ∃ claim block, Bytes.splitExact? 4 encoded = some (claim, block) ∧
      Bytes.toNatLE claim = original.length ∧ decoders.lz4 block original.length = some original
  | .zstd => (decoders.zstd encoded).Gives original

/-- Whatever a compressor compresses, the decoder of the encoding restores. -/
def Invert (decoders : Decoders) (compressor : Compressor) : Prop :=
  ∀ kind original encoded, compressor kind original = some encoded →
    decoders.Restores kind encoded original

/-- What the ceiling of a decompression says about its result. -/
structure Limited (decompress : (ceiling : Nat) → Except Failure Bytes) : Prop where
  /-- What is given fits. -/
  fits : ∀ ceiling output, decompress ceiling = .ok output → output.length ≤ ceiling
  /-- A refusal names the ceiling, and an amount above it. -/
  named : ∀ ceiling kind limit actual,
    decompress ceiling = .error (.limitExceeded kind limit actual) →
      kind = .messageSize ∧ limit = ceiling ∧ ceiling < actual
  /-- What is given stays the same when there is more room. -/
  kept : ∀ ceiling output, decompress ceiling = .ok output →
    ∀ greater, ceiling ≤ greater → decompress greater = .ok output

/-- Reading up to a ceiling is limited by it. -/
theorem limited_collect (results : ReadResults) : Limited results.collect where
  fits _ _ given := (ReadResults.collect_eq_ok_iff.mp given).2
  named ceiling kind limit actual refused := by
    cases ReadResults.collect_eq_iff.mp refused with
    | exceeded before within last above => exact ⟨rfl, rfl, above⟩
  kept ceiling output given greater more := by
    obtain ⟨gives, within⟩ := ReadResults.collect_eq_ok_iff.mp given
    exact ReadResults.collect_eq_ok_iff.mpr ⟨gives, Nat.le_trans within more⟩

variable {decode : (block : Bytes) → (claimed : Nat) → Option Bytes} {bytes : Bytes} {ceiling : Nat}

/-- What a block after its claim comes to, by the first check that it does not pass. -/
inductive Checked (decode : (block : Bytes) → (claimed : Nat) → Option Bytes) (bytes : Bytes)
    (ceiling : Nat) : Except Failure Bytes → Prop where
  | incomplete (missing : Bytes.splitExact? 4 bytes = none) :
      Checked decode bytes ceiling (.error .decompression)
  | overclaimed {claim block : Bytes} (parts : Bytes.splitExact? 4 bytes = some (claim, block))
      (above : ceiling < Bytes.toNatLE claim) :
      Checked decode bytes ceiling
        (.error (.limitExceeded .messageSize ceiling (Bytes.toNatLE claim)))
  | corrupt {claim block : Bytes} (parts : Bytes.splitExact? 4 bytes = some (claim, block))
      (modest : Bytes.toNatLE claim ≤ ceiling) (fails : decode block (Bytes.toNatLE claim) = none) :
      Checked decode bytes ceiling (.error .decompression)
  | exceeded {claim block output : Bytes}
      (parts : Bytes.splitExact? 4 bytes = some (claim, block))
      (modest : Bytes.toNatLE claim ≤ ceiling)
      (found : decode block (Bytes.toNatLE claim) = some output) (above : ceiling < output.length) :
      Checked decode bytes ceiling (.error (.limitExceeded .messageSize ceiling output.length))
  | given {claim block output : Bytes} (parts : Bytes.splitExact? 4 bytes = some (claim, block))
      (modest : Bytes.toNatLE claim ≤ ceiling)
      (found : decode block (Bytes.toNatLE claim) = some output)
      (within : output.length ≤ ceiling) : Checked decode bytes ceiling (.ok output)

/-- The checks give one result, and only one. -/
theorem decompressSized_eq_iff {result : Except Failure Bytes} :
    Compression.decompressSized decode bytes ceiling = result ↔
      Checked decode bytes ceiling result := by
  unfold Compression.decompressSized
  constructor
  · rintro rfl
    cases missing : Bytes.splitExact? 4 bytes with
    | none => exact .incomplete missing
    | some parts =>
      obtain ⟨claim, block⟩ := parts
      simp only
      split
      next above => exact .overclaimed missing above
      next modest =>
        have modest := Nat.not_lt.mp modest
        cases found : decode block (Bytes.toNatLE claim) with
        | none => exact .corrupt missing modest found
        | some output =>
          simp only
          split
          next above => exact .exceeded missing modest found above
          next within => exact .given missing modest found (Nat.not_lt.mp within)
  · intro checked
    cases checked with
    | incomplete missing => rw [missing]
    | overclaimed parts above => simp only [parts, if_pos above]
    | corrupt parts modest fails => simp only [parts, if_neg (Nat.not_lt.mpr modest), fails]
    | exceeded parts modest found above =>
      simp only [parts, if_neg (Nat.not_lt.mpr modest), found, if_pos above]
    | given parts modest found within =>
      simp only [parts, if_neg (Nat.not_lt.mpr modest), found, if_neg (Nat.not_lt.mpr within)]

/-- Decoding a block is limited by the ceiling as reading is, whatever the block claims. -/
theorem limited_sized (decode : (block : Bytes) → (claimed : Nat) → Option Bytes) (bytes : Bytes) :
    Limited (Compression.decompressSized decode bytes) where
  fits ceiling output given := by
    cases decompressSized_eq_iff.mp given with
    | given parts modest found within => exact within
  named ceiling kind limit actual refused := by
    cases decompressSized_eq_iff.mp refused with
    | overclaimed parts above => exact ⟨rfl, rfl, above⟩
    | exceeded parts modest found above => exact ⟨rfl, rfl, above⟩
  kept ceiling output given greater more := by
    cases decompressSized_eq_iff.mp given with
    | given parts modest found within =>
      exact decompressSized_eq_iff.mpr
        (.given parts (Nat.le_trans modest more) found (Nat.le_trans within more))

/-- Decompression is limited by its ceiling, whatever the decoders make of the bytes. -/
theorem limited_decompress (decoders : Decoders) (kind : Compression) (bytes : Bytes) :
    Limited (decoders.decompress kind bytes) := by
  cases kind with
  | gzip => exact limited_collect _
  | lz4 => exact limited_sized _ _
  | zstd => exact limited_collect _

/-- The ceiling at which the original is no longer given is its length, and not one byte off. -/
structure Exact (decompress : (ceiling : Nat) → Except Failure Bytes) (original : Bytes) :
    Prop where
  given : ∀ ceiling, decompress ceiling = .ok original ↔ original.length ≤ ceiling
  refused : ∀ ceiling, ceiling < original.length → ∃ actual, ceiling < actual ∧
    decompress ceiling = .error (.limitExceeded .messageSize ceiling actual)

/-- Reads that give the original are collected exactly up to its length. -/
theorem exact_collect {results : ReadResults} {original : Bytes}
    (gives : results.Gives original) : Exact results.collect original where
  given ceiling := by
    rw [ReadResults.collect_eq_ok_iff]
    exact and_iff_right gives
  refused _ := gives.refused

/-- A block that claims the length of the original and gives it is decoded exactly up to it. -/
theorem exact_sized {claim block original : Bytes}
    (parts : Bytes.splitExact? 4 bytes = some (claim, block))
    (truly : Bytes.toNatLE claim = original.length)
    (restored : decode block original.length = some original) :
    Exact (Compression.decompressSized decode bytes) original where
  given ceiling := by
    rw [← truly] at restored
    constructor
    · intro given
      exact (limited_sized decode bytes).fits ceiling original given
    · intro within
      exact decompressSized_eq_iff.mpr (.given parts (by omega) restored within)
  refused ceiling above := by
    -- The claim alone is enough to refuse; the block is not decoded.
    rw [← truly] at above
    exact ⟨_, above, decompressSized_eq_iff.mpr (.overclaimed parts above)⟩

/-- What the decoder of an encoding restores is given exactly up to its length. -/
theorem exact_decompress {decoders : Decoders} {kind : Compression} {encoded original : Bytes}
    (restores : decoders.Restores kind encoded original) :
    Exact (decoders.decompress kind encoded) original := by
  cases kind with
  | gzip => exact exact_collect restores
  | lz4 =>
    obtain ⟨claim, block, parts, truly, restored⟩ := restores
    exact exact_sized parts truly restored
  | zstd => exact exact_collect restores

/--
Decompression is bounded exactly at the ceiling, whatever decodes.

What is decompressed here is what the standard decoders make of it. For any decoders at all, every
result keeps to the ceiling; what is read stretch by stretch comes to whatever happens first; and
what a compressor has made that the decoders invert is given exactly up to its length.
-/
theorem decompress_exact :
    Compression.decompress = standard.decompress ∧
      ∀ decoders : Decoders,
        (∀ kind bytes, Limited (decoders.decompress kind bytes)) ∧
        (∀ bytes ceiling,
          (decoders.gzip bytes).Metered ceiling (decoders.decompress .gzip bytes ceiling) ∧
          (decoders.zstd bytes).Metered ceiling (decoders.decompress .zstd bytes ceiling)) ∧
        ∀ compressor, decoders.Invert compressor → ∀ kind original encoded,
          compressor kind original = some encoded →
            Exact (decoders.decompress kind encoded) original := by
  refine ⟨rfl, fun decoders => ⟨limited_decompress decoders, ?_, ?_⟩⟩
  · intro bytes ceiling
    exact ⟨(decoders.gzip_short bytes).metered ceiling, (decoders.zstd_short bytes).metered ceiling⟩
  · intro compressor invert kind original encoded compressed
    exact exact_decompress (invert kind original encoded compressed)

end Decoders

namespace Sample

/-- A member of the gzip format that holds one byte, as it is usually compressed. -/
def gzipLetter : Bytes :=
  [0x1F, 0x8B, 8, 0, 0, 0, 0, 0, 0, 0xFF, 0x73, 4, 0, 0x8B, 0x9E, 0xD9, 0xD3, 1, 0, 0, 0]

/-- The same byte in a block of the LZ4 format, after its size. -/
def lz4Letter : Bytes := [1, 0, 0, 0, 0x10, 0x41]

/-- The same byte in a frame of the Zstandard format. -/
def zstdLetter : Bytes := [0x28, 0xB5, 0x2F, 0xFD, 0, 0x48, 9, 0, 0, 0x41]

/-- Knows how that byte is put in each encoding, and gives up on everything else. -/
def letterCompressor : Compressor := fun kind bytes =>
  if bytes = [0x41] then
    match kind with
    | .gzip => some gzipLetter
    | .lz4 => some lz4Letter
    | .zstd => some zstdLetter
  else none

/-- Knows how these bytes are put in each encoding, and gives up on everything else. -/
def knowing (original : Bytes) (packed : Compression → Bytes) : Compressor := fun kind bytes =>
  if bytes = original then some (packed kind) else none

/-- Such a compressor is inverted if the original is restored from each encoding. -/
theorem knowing_inverted {decoders : Decoders} {original : Bytes} {packed : Compression → Bytes}
    (restores : ∀ kind, decoders.Restores kind (packed kind) original) :
    decoders.Invert (knowing original packed) := by
  intro kind bytes encoded compressed
  simp only [knowing, Option.ite_none_right_eq_some, Option.some.injEq] at compressed
  obtain ⟨rfl, rfl⟩ := compressed
  exact restores kind

/-- An intact delivery in one piece gives it. -/
theorem gives_piece {delivery : Delivery} {piece : Bytes}
    (delivered : delivery = { pieces := #[piece], intact := true }) (more : piece ≠ []) :
    delivery.results.Gives piece := by
  have gives := Delivery.results_gives (delivered ▸ rfl : delivery.intact = true)
    (by simpa [delivered] using more)
  rw [delivered] at gives ⊢
  simpa using gives

/-- The standard decoders restore the byte from what the compressor knows. -/
theorem letterCompressor_inverted : Decoders.standard.Invert letterCompressor := by
  have gzip : (Gzip.deliver gzipLetter).results.Gives [0x41] :=
    gives_piece (by decide +kernel) (by decide)
  have zstd : (Zstd.deliver zstdLetter).results.Gives [0x41] :=
    gives_piece (by decide +kernel) (by decide)
  intro kind original encoded compressed
  simp only [letterCompressor, Option.ite_none_right_eq_some] at compressed
  obtain ⟨rfl, compressed⟩ := compressed
  cases kind with
  | gzip =>
    cases compressed
    simpa only [Decoders.Restores, Decoders.standard] using gzip
  | lz4 =>
    cases compressed
    exact ⟨[1, 0, 0, 0], [0x10, 0x41], by decide, by decide, by decide +kernel⟩
  | zstd =>
    cases compressed
    simpa only [Decoders.Restores, Decoders.standard] using zstd

/-- Decoders whose reads never end: each fills its buffer with zeros. -/
def endlessDecoders : Decoders where
  gzip _ _ := .ok (List.replicate readSize 0)
  lz4 _ _ := none
  zstd _ _ := .ok (List.replicate readSize 0)
  gzip_short bytes index piece given := by
    cases given
    exact Nat.le_of_eq List.length_replicate
  zstd_short bytes index piece given := by
    cases given
    exact Nat.le_of_eq List.length_replicate

/--
One byte is given when one is allowed, in any encoding, and refused when none is.

Zeros without an end are refused too.
-/
theorem decompress_exact_letter :
    Decoders.standard.Invert letterCompressor ∧
      Compression.decompress .gzip gzipLetter 1 = .ok [0x41] ∧
      Compression.decompress .lz4 lz4Letter 1 = .ok [0x41] ∧
      Compression.decompress .zstd zstdLetter 1 = .ok [0x41] ∧
      (∃ actual, 0 < actual ∧ Compression.decompress .gzip gzipLetter 0 =
        .error (.limitExceeded .messageSize 0 actual)) ∧
      ∃ actual, 20000 < actual ∧ endlessDecoders.decompress .zstd [] 20000 =
        .error (.limitExceeded .messageSize 20000 actual) := by
  obtain ⟨same, all⟩ := Decoders.decompress_exact
  obtain ⟨_, _, restored⟩ := all .standard
  obtain ⟨_, metered, _⟩ := all endlessDecoders
  have more : List.replicate readSize (0 : UInt8) ≠ [] := by
    apply List.ne_nil_of_length_pos
    rw [List.length_replicate]
    decide
  have gzip := restored letterCompressor letterCompressor_inverted .gzip [0x41] gzipLetter rfl
  have lz4 := restored letterCompressor letterCompressor_inverted .lz4 [0x41] lz4Letter rfl
  have zstd := restored letterCompressor letterCompressor_inverted .zstd [0x41] zstdLetter rfl
  rw [same]
  exact ⟨letterCompressor_inverted, (gzip.given 1).mpr (by decide), (lz4.given 1).mpr (by decide),
    (zstd.given 1).mpr (by decide), gzip.refused 0 (by decide),
    (metered [] 20000).2.endless fun _ => ⟨_, rfl, more⟩⟩

end Sample

end RemoteCall
