/-! Bits of a byte array, counted from the least significant bit of the first byte. -/

namespace RemoteCall

/-- How compressed data fails to decode. -/
inductive DecodeFault where
  /-- The data ends before the decoder is done. -/
  | truncated
  /-- The data contradicts its format. -/
  | corrupt
  deriving DecidableEq, Repr

namespace Bits

/-- The octet at a position, and zero past the end. -/
def octet (data : ByteArray) (position : Nat) : UInt8 :=
  if inside : position < data.size then data[position] else 0

/-- The number that so many octets spell, least significant first. -/
def octets (data : ByteArray) (position : Nat) : (count : Nat) → Nat
  | 0 => 0
  | count + 1 => (octet data position).toNat + 256 * octets data (position + 1) count

/-- The number that so many bits spell, least significant first; bits past the end are zero. -/
def slice (data : ByteArray) (offset count : Nat) : Nat :=
  let first := offset / 8
  let skipped := offset % 8
  (octets data first ((skipped + count + 7) / 8) >>> skipped) % (1 <<< count)

end Bits

end RemoteCall
