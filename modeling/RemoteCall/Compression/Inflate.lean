import RemoteCall.Compression.Bits

/-! Decoding of deflated data: stored blocks, and blocks of prefix codes for literals and copies. -/

namespace RemoteCall.Inflate

/-- A decoder in the course of its work. -/
structure State where
  /-- The next bit to be read. -/
  position : Nat
  output : ByteArray
  deriving Inhabited

/-- A step of the decoder, which keeps what it has put out also when the step fails. -/
abbrev InflateM := EStateM DecodeFault State

/-- Reads so many bits. -/
def takeBits (data : ByteArray) (count : Nat) : InflateM Nat := fun state =>
  if data.size * 8 < state.position + count then .error .truncated state
  else .ok (Bits.slice data state.position count) { state with position := state.position + count }

/-- Puts one octet out. -/
def emit (octet : UInt8) : InflateM Unit :=
  modify fun state => { state with output := state.output.push octet }

/-- A canonical prefix code. -/
structure PrefixCode where
  /-- How many codes there are of each length, from one bit up. -/
  counts : List Nat
  /-- The symbols in the order of their codes, shorter codes first. -/
  symbols : Array Nat

namespace PrefixCode

/-- The greatest length of a code. -/
def lengthMax : Nat := 15

/-- The code that assigns each symbol a code of its length, or none where the length is zero. -/
def ofLengths (lengths : List Nat) : PrefixCode :=
  let sizes := (List.range lengthMax).map (· + 1)
  { counts := sizes.map lengths.count
    symbols := (sizes.flatMap fun size =>
      lengths.zipIdx.filterMap fun (length, symbol) =>
        if length = size then some symbol else none).toArray }

/-- How much of the room for codes is used, in units of the longest code. -/
def used (code : PrefixCode) : Nat :=
  code.counts.foldl (fun used count => 2 * used + count) 0

/-- A code fills its room, unless a single symbol leaves no choice. -/
def isValid (code : PrefixCode) (mayBeTrivial : Bool) : Bool :=
  code.used == 1 <<< lengthMax || (mayBeTrivial && code.symbols.size ≤ 1)

/--
Reads the code of a symbol bit by bit, and looks the symbol up.

Of the present length, `first` is the least code, and `index` counts the shorter codes.
-/
def takeWith (code : PrefixCode) (data : ByteArray) :
    (counts : List Nat) → (value first index : Nat) → InflateM Nat
  | [], _, _, _ => throw .corrupt
  | count :: counts, value, first, index => do
    let value := 2 * value + (← takeBits data 1)
    let first := 2 * first
    if value < first + count then return code.symbols.getD (index + (value - first)) 0
    else code.takeWith data counts value (first + count) (index + count)

/-- Reads one symbol. -/
def take (code : PrefixCode) (data : ByteArray) : InflateM Nat :=
  code.takeWith data code.counts 0 0 0

end PrefixCode

/-- The least length and the number of further bits for each symbol of a length, from 257 on. -/
def lengthSymbols : Array (Nat × Nat) :=
  #[(3, 0), (4, 0), (5, 0), (6, 0), (7, 0), (8, 0), (9, 0), (10, 0), (11, 1), (13, 1), (15, 1),
    (17, 1), (19, 2), (23, 2), (27, 2), (31, 2), (35, 3), (43, 3), (51, 3), (59, 3), (67, 4),
    (83, 4), (99, 4), (115, 4), (131, 5), (163, 5), (195, 5), (227, 5), (258, 0)]

/-- The least distance and the number of further bits for each symbol of a distance. -/
def distanceSymbols : Array (Nat × Nat) :=
  #[(1, 0), (2, 0), (3, 0), (4, 0), (5, 1), (7, 1), (9, 2), (13, 2), (17, 3), (25, 3), (33, 4),
    (49, 4), (65, 5), (97, 5), (129, 6), (193, 6), (257, 7), (385, 7), (513, 8), (769, 8),
    (1025, 9), (1537, 9), (2049, 10), (3073, 10), (4097, 11), (6145, 11), (8193, 12), (12289, 12),
    (16385, 13), (24577, 13)]

/-- Reads the bits that refine a symbol of a length or a distance. -/
def takeRefined (data : ByteArray) (symbols : Array (Nat × Nat)) (symbol : Nat) : InflateM Nat := do
  match symbols[symbol]? with
  | none => throw .corrupt
  | some (least, bits) => return least + (← takeBits data bits)

/-- Repeats what was put out at a distance; what lies before the output reads as zeros. -/
def copy (distance : Nat) : (length : Nat) → InflateM Unit
  | 0 => return ()
  | length + 1 => do
    modify fun state =>
      let size := state.output.size
      let octet := if distance ≤ size then Bits.octet state.output (size - distance) else 0
      { state with output := state.output.push octet }
    copy distance length

/-- Decodes symbols up to the end of a block; each takes a bit at least, which bounds the fuel. -/
def takeSymbols (data : ByteArray) (literals distances : PrefixCode) : (fuel : Nat) → InflateM Unit
  | 0 => throw .truncated
  | fuel + 1 => do
    let symbol ← literals.take data
    if symbol < 256 then
      emit symbol.toUInt8
      takeSymbols data literals distances fuel
    else if symbol = 256 then return ()
    else
      let length ← takeRefined data lengthSymbols (symbol - 257)
      let distance ← takeRefined data distanceSymbols (← distances.take data)
      copy distance length
      takeSymbols data literals distances fuel

/-- Puts out so many octets as they are. -/
def takeOctets (data : ByteArray) : (count : Nat) → InflateM Unit
  | 0 => return ()
  | count + 1 => do
    emit (← takeBits data 8).toUInt8
    takeOctets data count

/-- A stored block begins at an octet, with its length and the complement of that. -/
def takeStored (data : ByteArray) : InflateM Unit := do
  modify fun state => { state with position := (state.position + 7) / 8 * 8 }
  let length ← takeBits data 16
  let complement ← takeBits data 16
  if length + complement ≠ 0xFFFF then throw .corrupt
  takeOctets data length

/-- The code of literals and lengths that needs no description. -/
def fixedLiterals : PrefixCode :=
  .ofLengths (List.replicate 144 8 ++ List.replicate 112 9 ++ List.replicate 24 7
    ++ List.replicate 8 8)

/-- The code of distances that needs no description. -/
def fixedDistances : PrefixCode := .ofLengths (List.replicate 32 5)

/-- The order in which the lengths of the codes for code lengths are given. -/
def codeLengthOrder : List Nat :=
  [16, 17, 18, 0, 8, 7, 9, 6, 10, 5, 11, 4, 12, 3, 13, 2, 14, 1, 15]

/-- Reads so many three-bit lengths. -/
def takeLengths (data : ByteArray) : (count : Nat) → InflateM (List Nat)
  | 0 => return []
  | count + 1 => do
    let length ← takeBits data 3
    return length :: (← takeLengths data count)

/-- Reads so many code lengths, runs of them included; the latest comes first. -/
def takeRuns (data : ByteArray) (code : PrefixCode) (count : Nat) :
    (fuel : Nat) → (done : List Nat) → InflateM (List Nat)
  | 0, _ => throw .corrupt
  | fuel + 1, done => do
    if count < done.length then throw .corrupt
    if done.length = count then return done
    match ← code.take data with
    | 16 =>
      match done with
      | [] => throw .corrupt
      | last :: _ =>
        takeRuns data code count fuel (List.replicate (3 + (← takeBits data 2)) last ++ done)
    | 17 => takeRuns data code count fuel (List.replicate (3 + (← takeBits data 3)) 0 ++ done)
    | 18 => takeRuns data code count fuel (List.replicate (11 + (← takeBits data 7)) 0 ++ done)
    | length => takeRuns data code count fuel (length :: done)

/-- Reads the description of the codes of a block. -/
def takeCodes (data : ByteArray) : InflateM (PrefixCode × PrefixCode) := do
  let literalCount := 257 + (← takeBits data 5)
  let distanceCount := 1 + (← takeBits data 5)
  let given ← takeLengths data (4 + (← takeBits data 4))
  if 286 < literalCount ∨ 30 < distanceCount then throw .corrupt
  let assigned := codeLengthOrder.zip given
  let lengths := (List.range 19).map fun symbol => (assigned.lookup symbol).getD 0
  let code := PrefixCode.ofLengths lengths
  unless code.isValid false do throw .corrupt
  let count := literalCount + distanceCount
  let lengths := (← takeRuns data code count (count + 1) []).reverse
  let literals := PrefixCode.ofLengths (lengths.take literalCount)
  let distances := PrefixCode.ofLengths (lengths.drop literalCount)
  unless literals.isValid true && distances.isValid true do throw .corrupt
  return (literals, distances)

/-- Decodes blocks up to the last one; each takes three bits at least, which bounds the fuel. -/
def takeBlocks (data : ByteArray) : (fuel : Nat) → InflateM Unit
  | 0 => throw .truncated
  | fuel + 1 => do
    let last ← takeBits data 1
    let bits := data.size * 8
    match ← takeBits data 2 with
    | 0 => takeStored data
    | 1 => takeSymbols data fixedLiterals fixedDistances (bits + 1)
    | 2 =>
      let (literals, distances) ← takeCodes data
      takeSymbols data literals distances (bits + 1)
    | _ => throw .corrupt
    if last = 1 then return () else takeBlocks data fuel

/-- Decodes deflated data from an octet on, up to the end of its last block. -/
def run (data : ByteArray) (start : Nat) : EStateM.Result DecodeFault State Unit :=
  takeBlocks data (data.size * 8 + 1) { position := start * 8, output := .empty }

end RemoteCall.Inflate
