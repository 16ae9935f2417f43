import RemoteCall.Compression.Zstd.Fse

/-! The sequences of a block: each copies literals, and then repeats octets at an offset. -/

namespace RemoteCall.Zstd

/-- One of the three numbers that make up a sequence, as it is encoded. -/
structure Field where
  /-- The least number and the further bits of each symbol. -/
  symbols : Array (Nat × Nat)
  /-- The greatest accuracy of a table that a block describes. -/
  accuracyMax : Nat
  /-- The table of blocks that describe none. -/
  standard : FseTable

namespace Field

/-- Shares given as numbers of states, of which -1 stands for a rare symbol. -/
def sharesOf (counts : List Int) : List Share :=
  counts.map fun count => if count < 0 then .rare else .states count.toNat

/-- How many literals are copied. -/
def literalCount : Field where
  symbols := (List.range 16).toArray.map (·, 0) ++
    #[(16, 1), (18, 1), (20, 1), (22, 1), (24, 2), (28, 2), (32, 3), (40, 3), (48, 4), (64, 6),
      (128, 7), (256, 8), (512, 9), (1024, 10), (2048, 11), (4096, 12), (8192, 13), (16384, 14),
      (32768, 15), (65536, 16)]
  accuracyMax := 9
  standard := .ofShares 6 (sharesOf
    [4, 3, 2, 2, 2, 2, 2, 2, 2, 2, 2, 2, 2, 1, 1, 1, 2, 2, 2, 2, 2, 2, 2, 2, 2, 3, 2, 1, 1, 1, 1,
      1, -1, -1, -1, -1])

/-- How many octets are repeated. -/
def repeatCount : Field where
  symbols := (List.range 32).toArray.map (· + 3, 0) ++
    #[(35, 1), (37, 1), (39, 1), (41, 1), (43, 2), (47, 2), (51, 3), (59, 3), (67, 4), (83, 4),
      (99, 5), (131, 7), (259, 8), (515, 9), (1027, 10), (2051, 11), (4099, 12), (8195, 13),
      (16387, 14), (32771, 15), (65539, 16)]
  accuracyMax := 9
  standard := .ofShares 6 (sharesOf
    [1, 4, 3, 2, 2, 2, 2, 2, 2, 1, 1, 1, 1, 1, 1, 1, 1, 1, 1, 1, 1, 1, 1, 1, 1, 1, 1, 1, 1, 1, 1,
      1, 1, 1, 1, 1, 1, 1, 1, 1, 1, 1, 1, 1, 1, 1, -1, -1, -1, -1, -1, -1, -1])

/-- The offset at which octets are repeated, three more than it is, or one of the recent ones. -/
def offset : Field where
  symbols := (List.range 32).toArray.map fun symbol => (1 <<< symbol, symbol)
  accuracyMax := 8
  standard := .ofShares 5 (sharesOf
    [1, 1, 1, 1, 1, 1, 2, 2, 2, 1, 1, 1, 1, 1, 1, 1, 1, 1, 1, 1, 1, 1, 1, 1, -1, -1, -1, -1, -1])

/-- Reads the table of a field in one of four modes, and tells where its description ends. -/
def takeTable? (field : Field) (data : ByteArray) (mode start stop : Nat)
    (known : Option FseTable) : Option (FseTable × Nat) :=
  match mode with
  | 0 => some (field.standard, start)
  | 1 =>
    let symbol := (Bits.octet data start).toNat
    if start < stop ∧ symbol < field.symbols.size then some (.single symbol, start + 1) else none
  | 2 => FseTable.take? data start stop field.symbols.size field.accuracyMax
  | _ => known.map (·, start)

/-- Reads the number that a state stands for. -/
def take (field : Field) (table : FseTable) (state : Nat) : BackwardM Nat := do
  let (least, bits) := field.symbols.getD (table.state state).symbol (0, 0)
  return least + (← takeBits bits)

end Field

/-- A value for each field of a sequence. -/
structure Triple (α : Type) where
  literalCount : α
  offset : α
  repeatCount : α

/-- The offsets that were used last, the latest first. -/
structure Recent where
  first : Nat := 1
  second : Nat := 4
  third : Nat := 8

namespace Recent

/-- The offset that is meant, and the recent ones after its use. -/
def resolve (recent : Recent) (told literalCount : Nat) : Nat × Recent :=
  if 3 < told then
    (told - 3, { first := told - 3, second := recent.first, third := recent.second })
  else
    -- Without literals the latest offset would have been told by a longer repetition before.
    match told + if literalCount = 0 then 1 else 0 with
    | 1 => (recent.first, recent)
    | 2 => (recent.second, { recent with first := recent.second, second := recent.first })
    | 3 => (recent.third,
        { first := recent.third, second := recent.first, third := recent.second })
    | _ => (recent.first - 1,
        { first := recent.first - 1, second := recent.first, third := recent.second })

end Recent

/-- What a block leaves for the sequences of later ones. -/
structure Carried where
  tables : Option (Triple FseTable) := none
  recent : Recent := {}

/-- A block in the course of its decoding. -/
structure Progress where
  /-- How many literals were copied. -/
  copied : Nat := 0
  output : ByteArray := .empty
  recent : Recent

/-- Repeats octets at an offset, which may lie in earlier blocks. -/
def repeatOctets (earlier : ByteArray) (offset : Nat) : (count : Nat) → ByteArray → ByteArray
  | 0, output => output
  | count + 1, output =>
    let octet :=
      if offset ≤ output.size then Bits.octet output (output.size - offset)
      else Bits.octet earlier (earlier.size + output.size - offset)
    repeatOctets earlier offset count (output.push octet)

namespace Progress

/-- Carries one sequence out, if the literals, the output so far and the room suffice. -/
def step (progress : Progress) (earlier literals : ByteArray) (room : Nat)
    (told : Triple Nat) : Option Progress := do
  let copied := progress.copied + told.literalCount
  if literals.size < copied then none
  let (offset, recent) := progress.recent.resolve told.offset told.literalCount
  let size := progress.output.size + told.literalCount
  if offset = 0 ∨ earlier.size + size < offset then none
  if room < size + told.repeatCount then none
  let output := progress.output ++ literals.extract progress.copied copied
  return { copied, output := repeatOctets earlier offset told.repeatCount output, recent }

end Progress

/-- Reads and carries out so many sequences; the states move on between two of them. -/
def takeSequences (tables : Triple FseTable) (earlier literals : ByteArray) (room : Nat) :
    (count : Nat) → (states : Triple Nat) → Progress → BackwardM Progress
  | 0, _, progress => return progress
  | count + 1, states, progress => do
    let offset ← Field.offset.take tables.offset states.offset
    let repeatCount ← Field.repeatCount.take tables.repeatCount states.repeatCount
    let literalCount ← Field.literalCount.take tables.literalCount states.literalCount
    let progress ← progress.step earlier literals room { literalCount, offset, repeatCount }
    if count = 0 then return progress
    let literalState ← tables.literalCount.next states.literalCount
    let repeatState ← tables.repeatCount.next states.repeatCount
    let offsetState ← tables.offset.next states.offset
    takeSequences tables earlier literals room count
      { literalCount := literalState, offset := offsetState, repeatCount := repeatState } progress

/-- Reads how many sequences there are, and tells where that ends. -/
def takeCount? (data : ByteArray) (start stop : Nat) : Option (Nat × Nat) := do
  if stop ≤ start then none
  let told := (Bits.octet data start).toNat
  let (count, next) :=
    if told < 128 then (told, start + 1)
    else if told < 255 then
      ((told - 128) * 256 + (Bits.octet data (start + 1)).toNat, start + 2)
    else (Bits.octets data (start + 1) 2 + 0x7F00, start + 3)
  if stop < next then none
  return (count, next)

/-- Reads the tables of all fields, and tells where their descriptions end. -/
def takeTables? (data : ByteArray) (start stop : Nat) (known : Option (Triple FseTable)) :
    Option (Triple FseTable × Nat) := do
  if stop ≤ start then none
  let modes := (Bits.octet data start).toNat
  if modes % 4 ≠ 0 then none
  let (literalCount, next) ← Field.literalCount.takeTable? data (modes / 64) (start + 1) stop
    (known.map (·.literalCount))
  let (offset, next) ← Field.offset.takeTable? data (modes / 16 % 4) next stop
    (known.map (·.offset))
  let (repeatCount, next) ← Field.repeatCount.takeTable? data (modes / 4 % 4) next stop
    (known.map (·.repeatCount))
  return ({ literalCount, offset, repeatCount }, next)

/-- Decodes the sequences of a block, and copies the literals that none of them copies. -/
def decodeSequences (data : ByteArray) (start stop : Nat) (earlier literals : ByteArray)
    (room : Nat) (carried : Carried) : Option (ByteArray × Carried) := do
  let (count, next) ← takeCount? data start stop
  if count = 0 then
    if next ≠ stop ∨ room < literals.size then none
    return (literals, carried)
  let (tables, next) ← takeTables? data next stop carried.tables
  let progress ← readAll data next stop do
    let literalCount ← tables.literalCount.first
    let offset ← tables.offset.first
    let repeatCount ← tables.repeatCount.first
    takeSequences tables earlier literals room count { literalCount, offset, repeatCount }
      { recent := carried.recent }
  let output := progress.output ++ literals.extract progress.copied literals.size
  if room < output.size then none
  return (output, { tables := some tables, recent := progress.recent })

end RemoteCall.Zstd
