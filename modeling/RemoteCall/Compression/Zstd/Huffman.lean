import RemoteCall.Compression.Zstd.Fse

/-! Prefix codes of octets, described by weights, and the streams of octets that they encode. -/

namespace RemoteCall.Zstd

/-- A prefix code, as the table of what the next bits begin with. -/
structure PrefixCode where
  /-- The length of the longest code. -/
  depth : Nat
  /-- The octet and the length of its code, for each value of so many bits. -/
  cells : Array (UInt8 × Nat)

namespace PrefixCode

/-- The greatest weight and the greatest length of a code. -/
def depthMax : Nat := 12

/-- How many cells of the table a weight stands for. -/
def breadth (weight : Nat) : Nat := (1 <<< weight) / 2

/--
The code of octets with these weights and one more octet, which has all that is left.

What is left has to be a weight's breadth, and the longest codes have to come in pairs.
-/
def ofWeights? (weights : List Nat) : Option PrefixCode := do
  if weights.any (depthMax < ·) then none
  let total := weights.foldl (fun total weight => total + breadth weight) 0
  if total = 0 then none
  let depth := total.log2 + 1
  if depthMax < depth then none
  let left := (1 <<< depth) - total
  if left ≠ 1 <<< left.log2 then none
  let weights := weights ++ [left.log2 + 1]
  let longest := weights.count 1
  if longest < 2 ∨ longest % 2 = 1 then none
  let cells := (List.range depth).flatMap fun below =>
    weights.zipIdx.flatMap fun (weight, octet) =>
      if weight = below + 1 then List.replicate (1 <<< below) (UInt8.ofNat octet, depth - below)
      else []
  return { depth, cells := cells.toArray }

/--
Reads weights by two states in turn, at most so many of them and one.

When the bits do not lead on from one state, the other one's symbol is the last weight.
-/
def takeWeights (table : FseTable) :
    (room state other : Nat) → (weights : List Nat) → BackwardBits → Option (List Nat)
  | 0, _, _, _, _ => none
  | room + 1, state, other, weights, bits =>
    let weights := (table.state state).symbol :: weights
    match table.next state bits with
    | none => some ((table.state other).symbol :: weights).reverse
    | some (state, bits) => takeWeights table room other state weights bits

/-- Weights that are half an octet each, the upper half first. -/
def halves (data : ByteArray) (start count : Nat) : List Nat :=
  (List.range count).map fun index =>
    let octet := (Bits.octet data (start + index / 2)).toNat
    if index % 2 = 0 then octet / 16 else octet % 16

/-- Reads the description of a code, and tells where it ends. -/
def take? (data : ByteArray) (start stop : Nat) : Option (PrefixCode × Nat) := do
  if stop ≤ start then none
  let told := (Bits.octet data start).toNat
  let start := start + 1
  if 128 ≤ told then
    let count := told - 127
    let next := start + (count + 1) / 2
    if stop < next then none
    return (← ofWeights? (halves data start count), next)
  else
    let next := start + told
    if stop < next then none
    let (table, coded) ← FseTable.take? data start next 256 6
    let bits ← BackwardBits.ofRange? data coded next
    let (state, bits) ← table.first bits
    let (other, bits) ← table.first bits
    return (← ofWeights? (← takeWeights table 254 state other [] bits), next)

/-- Reads so many octets. -/
def takeOctets (code : PrefixCode) : (count : Nat) → ByteArray → BackwardM ByteArray
  | 0, octets => return octets
  | count + 1, octets => do
    let (octet, length) := code.cells.getD ((← get).peek code.depth) (0, 0)
    skipBits length
    code.takeOctets count (octets.push octet)

/-- Reads so many octets from a stream that has no more. -/
def readStream (code : PrefixCode) (data : ByteArray) (start stop count : Nat)
    (octets : ByteArray) : Option ByteArray :=
  readAll data start stop (code.takeOctets count octets)

end PrefixCode

end RemoteCall.Zstd
