import RemoteCall.Compression.Gzip
import RemoteCall.Compression.Kind
import RemoteCall.Compression.Lz4
import RemoteCall.Compression.Zstd.Frame

/-! Compression of bodies, and their decompression under a ceiling. -/

namespace RemoteCall

namespace Compression

/-- The bytes in an encoding, which holds them as they are. -/
def compress : Compression → Bytes → Bytes
  | .gzip => Gzip.store
  | .lz4 => Lz4.store
  | .zstd => Zstd.store

/-- Decodes a block after the size that it claims; nothing is decoded when that is too much. -/
def decompressSized (decode : (block : Bytes) → (claimed : Nat) → Option Bytes) (bytes : Bytes)
    (ceiling : Nat) : Except Failure Bytes :=
  match Bytes.splitExact? 4 bytes with
  | none => .error .decompression
  | some (claim, block) =>
    let claimed := Bytes.toNatLE claim
    if ceiling < claimed then .error (.limitExceeded .messageSize ceiling claimed)
    else
      match decode block claimed with
      | none => .error .decompression
      | some output =>
        if ceiling < output.length then
          .error (.limitExceeded .messageSize ceiling output.length)
        else .ok output

end Compression

/-- What decodes the content encodings, of which two are read stretch by stretch. -/
structure Decoders where
  gzip : Bytes → ReadResults
  lz4 : (block : Bytes) → (claimed : Nat) → Option Bytes
  zstd : Bytes → ReadResults
  gzip_short : ∀ bytes, (gzip bytes).Short
  zstd_short : ∀ bytes, (zstd bytes).Short

namespace Decoders

/-- The decoders of the formats as they are specified. -/
def standard : Decoders where
  gzip bytes := (Gzip.deliver bytes).results
  lz4 := Lz4.decodeBlock
  zstd bytes := (Zstd.deliver bytes).results
  gzip_short := Gzip.deliver_short
  zstd_short := Zstd.deliver_short

/-- The bytes that are encoded, unless there are more than the ceiling allows. -/
def decompress (decoders : Decoders) (kind : Compression) (bytes : Bytes) (ceiling : Nat) :
    Except Failure Bytes :=
  match kind with
  | .gzip => (decoders.gzip bytes).collect ceiling
  | .lz4 => Compression.decompressSized decoders.lz4 bytes ceiling
  | .zstd => (decoders.zstd bytes).collect ceiling

end Decoders

/-- Decompression with the decoders of the formats as they are specified. -/
def Compression.decompress : (kind : Compression) → (bytes : Bytes) → (ceiling : Nat) →
    Except Failure Bytes :=
  Decoders.standard.decompress

/-- What puts bytes in a content encoding, which leaves it free how; it may also give up. -/
abbrev Compressor := Compression → Bytes → Option Bytes

/-- Every encoding holds the bytes as they are. -/
def Compressor.storing : Compressor := fun kind bytes => some (kind.compress bytes)

end RemoteCall
