import RemoteCall.Compression.Bits

/-! Bits that are read backwards, from below a mark in the last octet down to the first octet. -/

namespace RemoteCall.Zstd

/-- The bits of a range of octets that are left to be read. -/
structure BackwardBits where
  data : ByteArray
  /-- The octet that holds the last bits to be read. -/
  start : Nat
  /-- How many bits are left. -/
  remaining : Nat

namespace BackwardBits

/-- The bits of a range below the highest bit of its last octet, which has to have one. -/
def ofRange? (data : ByteArray) (start stop : Nat) : Option BackwardBits :=
  let last := (Bits.octet data (stop - 1)).toNat
  if start < stop ∧ last ≠ 0 then
    some { data, start, remaining := 8 * (stop - 1 - start) + last.log2 }
  else none

/-- The next bits as a number, filled up with zeros where too few are left. -/
def peek (bits : BackwardBits) (count : Nat) : Nat :=
  if count ≤ bits.remaining then
    Bits.slice bits.data (8 * bits.start + bits.remaining - count) count
  else Bits.slice bits.data (8 * bits.start) bits.remaining <<< (count - bits.remaining)

end BackwardBits

/-- A step that reads bits and fails when too few are left or they contradict the format. -/
abbrev BackwardM := StateT BackwardBits Option

/-- Passes over bits that were looked at. -/
def skipBits (count : Nat) : BackwardM Unit := fun bits =>
  if count ≤ bits.remaining then
    some ((), { bits with remaining := bits.remaining - count })
  else none

/-- Reads so many bits. -/
def takeBits (count : Nat) : BackwardM Nat := fun bits =>
  (skipBits count bits).map fun ((), rest) => (bits.peek count, rest)

/-- Runs a step on the bits of a range, all of which it has to read. -/
def readAll (data : ByteArray) (start stop : Nat) (step : BackwardM α) : Option α := do
  let (result, rest) ← step (← BackwardBits.ofRange? data start stop)
  if rest.remaining = 0 then some result else none

end RemoteCall.Zstd
