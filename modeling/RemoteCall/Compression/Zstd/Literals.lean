import RemoteCall.Compression.Zstd.Huffman

/-! The literals of a block: octets as they are, one octet repeated, or octets in a prefix code. -/

namespace RemoteCall.Zstd

/-- The literals of a block, the code that a later block may use again, and where they end. -/
structure Literals where
  octets : ByteArray
  code : Option PrefixCode
  next : Nat

namespace Literals

/-- The length of the header, and the count of literals, where they are not in a code. -/
def plainHeader (data : ByteArray) (start : Nat) : Nat × Nat :=
  match Bits.slice data (8 * start + 2) 2 with
  | 1 => (2, Bits.slice data (8 * start + 4) 12)
  | 3 => (3, Bits.slice data (8 * start + 4) 20)
  | _ => (1, Bits.slice data (8 * start + 3) 5)

/-- The length of the header, the count of literals, and the size of what encodes them. -/
def codedHeader (data : ByteArray) (start : Nat) : Nat × Nat × Nat :=
  let sizes (length width : Nat) : Nat × Nat × Nat :=
    (length, Bits.slice data (8 * start + 4) width, Bits.slice data (8 * start + 4 + width) width)
  match Bits.slice data (8 * start + 2) 2 with
  | 2 => sizes 4 14
  | 3 => sizes 5 18
  | _ => sizes 3 10

/-- Reads four streams, after the sizes of the first three; the last gives what is left. -/
def readFour (code : PrefixCode) (data : ByteArray) (start stop count : Nat) :
    Option ByteArray := do
  if stop < start + 6 then none
  let first := start + 6
  let second := first + Bits.octets data start 2
  let third := second + Bits.octets data (start + 2) 2
  let fourth := third + Bits.octets data (start + 4) 2
  if stop < fourth then none
  let quarter := (count + 3) / 4
  if count < 3 * quarter then none
  let octets ← code.readStream data first second quarter .empty
  let octets ← code.readStream data second third quarter octets
  let octets ← code.readStream data third fourth quarter octets
  code.readStream data fourth stop (count - 3 * quarter) octets

/-- The least size of a block whose literals are in a code. -/
def codedMin : Nat := 5

/-- The least count of literals in four streams. -/
def foursMin : Nat := 6

/-- Reads literals, at most so many, of a block from one octet to another. -/
def take? (data : ByteArray) (start stop countMax : Nat) (known : Option PrefixCode) :
    Option Literals := do
  let form := Bits.slice data (8 * start) 2
  if form < 2 then
    let (length, count) := plainHeader data start
    let content := start + length
    let next := content + if form = 0 then count else 1
    if countMax < count ∨ stop < next then none
    let octets := if form = 0 then data.extract content next
      else ⟨Array.replicate count (Bits.octet data content)⟩
    return { octets, code := known, next }
  else
    let (length, count, size) := codedHeader data start
    let content := start + length
    let next := content + size
    let single := Bits.slice data (8 * start + 2) 2 = 0
    if stop < start + codedMin ∨ countMax < count ∨ stop < next then none
    if ¬ single ∧ count < foursMin then none
    let (code, streams) ←
      if form = 2 then PrefixCode.take? data content next else known.map (·, content)
    let octets ←
      if single then code.readStream data streams next count .empty
      else readFour code data streams next count
    return { octets, code := some code, next }

end Literals

end RemoteCall.Zstd
