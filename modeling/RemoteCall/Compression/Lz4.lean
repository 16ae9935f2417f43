import RemoteCall.Bytes
import RemoteCall.Compression.Bits

/-! Blocks of the LZ4 format, after the size that they decode to. -/

namespace RemoteCall.Lz4

/-- A length in octets that are added up, of which the first below 255 is the last. -/
def takeLength (block : ByteArray) : (fuel position length : Nat) → Option (Nat × Nat)
  | 0, _, _ => none
  | fuel + 1, position, length =>
    if position < block.size then
      let octet := (Bits.octet block position).toNat
      if octet = 255 then takeLength block fuel (position + 1) (length + 255)
      else some (length + octet, position + 1)
    else none

/-- A length whose first fifteen are told by half of the token. -/
def takeLengthFrom (block : ByteArray) (position told : Nat) : Option (Nat × Nat) :=
  if told = 15 then takeLength block (block.size + 1) position 15 else some (told, position)

/-- Repeats what was put out at an offset. -/
def copy (offset : Nat) : (length : Nat) → ByteArray → ByteArray
  | 0, output => output
  | length + 1, output =>
    let octet := Bits.octet output (output.size - offset)
    copy offset length (output.push octet)

/--
Decodes sequences up to the one that ends with the block; each takes a token, which bounds the fuel.

A sequence is a run of literals and a copy, and the last one has no copy.
-/
def takeSequences (block : ByteArray) (capacity : Nat) :
    (fuel position : Nat) → ByteArray → Option ByteArray
  | 0, _, _ => none
  | fuel + 1, position, output => do
    if block.size ≤ position then none
    let token := (Bits.octet block position).toNat
    let (literals, position) ← takeLengthFrom block (position + 1) (token / 16)
    if block.size < position + literals then none
    if capacity < output.size + literals then none
    let output := output ++ block.extract position (position + literals)
    let position := position + literals
    if block.size ≤ position then some output
    else do
      if block.size < position + 2 then none
      let offset := Bits.octets block position 2
      let (length, position) ← takeLengthFrom block (position + 2) (token % 16)
      let length := length + 4
      if offset = 0 ∨ output.size < offset then none
      if capacity < output.size + length then none
      takeSequences block capacity fuel position (copy offset length output)

/-- The bytes that a block decodes to, if it does and they are no more than claimed. -/
def decodeBlock (block : Bytes) (claimed : Nat) : Option Bytes :=
  let block : ByteArray := ⟨block.toArray⟩
  (takeSequences block claimed (block.size + 1) 0 .empty).map (·.data.toList)

/-- The octets that a length past fifteen is added up from. -/
def lengthOctets (length : Nat) : Bytes :=
  List.replicate (length / 255) 255 ++ [UInt8.ofNat (length % 255)]

/-- A block of literals alone, after its size. -/
def store (bytes : Bytes) : Bytes :=
  let length := bytes.length
  let token :=
    if length < 15 then [UInt8.ofNat (16 * length)] else 0xF0 :: lengthOctets (length - 15)
  Bytes.ofNatLE 4 length ++ token ++ bytes

end RemoteCall.Lz4
