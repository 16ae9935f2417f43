import RemoteCall.Compression.Zstd.BackwardBits

/-! Tables of finite state entropy codes: a state stands for a symbol and leads on by some bits. -/

namespace RemoteCall.Zstd

/-- The share of the states that a symbol has. -/
inductive Share where
  /-- Less than one state, which still has to be one. -/
  | rare
  | states (count : Nat)
  deriving DecidableEq, Repr

/-- The states of a share that are spread over the table. -/
def Share.spreadCount : Share → Nat
  | .rare => 0
  | .states count => count

/-- What a state of a table stands for. -/
structure FseState where
  symbol : Nat
  /-- How many bits lead to the next state. -/
  bits : Nat
  /-- The next state where these bits are all zero. -/
  baseline : Nat
  deriving Inhabited

/-- A table of as many states as a power of two. -/
structure FseTable where
  accuracy : Nat
  states : Array FseState

namespace FseTable

/-- The table of a single symbol, which no bits are needed for. -/
def single (symbol : Nat) : FseTable where
  accuracy := 0
  states := #[{ symbol, bits := 0, baseline := 0 }]

/--
The symbols of the states in order.

Rare symbols have the last states, and the others are dealt out in strides that meet each state.
-/
def spread (accuracy : Nat) (shares : List Share) : List Nat :=
  let size := 1 <<< accuracy
  let rare := shares.zipIdx.filterMap fun (share, symbol) =>
    if share = .rare then some symbol else none
  let others := shares.zipIdx.flatMap fun (share, symbol) =>
    List.replicate share.spreadCount symbol
  let low := size - rare.length
  let strides := (List.range size).map (· * (size / 2 + size / 8 + 3) % size)
  let dealt := ((strides.filter (· < low)).zip others).foldl
    (fun symbols (state, symbol) => symbols.setIfInBounds state symbol) (Array.replicate low 0)
  dealt.toList ++ rare.reverse

/--
The table of symbols with these shares.

The states of one symbol divide the next states among them, earlier ones in larger parts.
-/
def ofShares (accuracy : Nat) (shares : List Share) : FseTable :=
  let counts := shares.map fun share => max 1 share.spreadCount
  let (states, _) := (spread accuracy shares).foldl (fun (states, turns) symbol =>
    let turn := turns.getD symbol 1
    let bits := accuracy - turn.log2
    (states.push { symbol, bits, baseline := (turn <<< bits) - (1 <<< accuracy) },
      turns.setIfInBounds symbol (turn + 1))) ((#[] : Array FseState), counts.toArray)
  { accuracy, states }

/-- How many symbols without a state follow one, told in pairs of bits of which 3 says more. -/
def takeAbsent (data : ByteArray) : (fuel position : Nat) → Nat × Nat
  | 0, position => (0, position)
  | fuel + 1, position =>
    let told := Bits.slice data position 2
    if told = 3 then
      let (more, position) := takeAbsent data fuel (position + 2)
      (3 + more, position)
    else (told, position + 2)

/--
Reads the shares of at most so many symbols, until no state is left.

A share is told in as many bits as the states that are left call for, or in one bit less where
that is enough. Each step tells of one symbol at least, which bounds the fuel.
-/
def takeShares (data : ByteArray) (symbols : Nat) :
    (fuel position left : Nat) → (shares : List Share) → Option (List Share × Nat)
  | 0, _, _, _ => none
  | fuel + 1, position, left, shares =>
    if left = 0 then some (shares.reverse, position)
    else if symbols ≤ shares.length then none
    else
      let narrow := (left + 1).log2
      let spare := (2 <<< narrow) - 1 - (left + 1)
      let told := Bits.slice data position narrow
      let (told, position) :=
        if told < spare then (told, position + narrow)
        else
          let told := Bits.slice data position (narrow + 1)
          (if 1 <<< narrow ≤ told then told - spare else told, position + narrow + 1)
      match told with
      | 0 => takeShares data symbols fuel position (left - 1) (.rare :: shares)
      | 1 =>
        let (more, position) := takeAbsent data symbols position
        takeShares data symbols fuel position left (List.replicate (more + 1) (.states 0) ++ shares)
      | count + 2 =>
        takeShares data symbols fuel position (left - (count + 1)) (.states (count + 1) :: shares)

/-- Reads the description of a table, and tells where it ends. -/
def take? (data : ByteArray) (start stop symbols accuracyMax : Nat) : Option (FseTable × Nat) := do
  let accuracy := 5 + Bits.slice data (8 * start) 4
  if accuracyMax < accuracy then none
  let (shares, position) ←
    takeShares data symbols (symbols + 2) (8 * start + 4) (1 <<< accuracy) []
  let next := (position + 7) / 8
  if stop < next then none
  return (ofShares accuracy shares, next)

/-- What a state stands for. -/
def state (table : FseTable) (index : Nat) : FseState :=
  table.states.getD index default

/-- Reads the first state. -/
def first (table : FseTable) : BackwardM Nat := takeBits table.accuracy

/-- Reads the state that follows. -/
def next (table : FseTable) (index : Nat) : BackwardM Nat := do
  let state := table.state index
  return state.baseline + (← takeBits state.bits)

end FseTable

end RemoteCall.Zstd
