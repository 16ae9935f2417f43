/-! Byte sequences, the integers laid out in them, and their gathering piece by piece. -/

namespace RemoteCall

/-- A sequence of octets as it is sent, stored or received. -/
abbrev Bytes := List UInt8

namespace Bytes

/-- The low digits of a number in base 256, most significant first. -/
def ofNatBE : (width : Nat) → (number : Nat) → Bytes
  | 0, _ => []
  | width + 1, number => ofNatBE width (number / 256) ++ [UInt8.ofNat number]

/-- The number whose base 256 digits are given, most significant first. -/
def toNatBE (bytes : Bytes) : Nat :=
  bytes.foldl (fun number byte => number * 256 + byte.toNat) 0

/-- The low digits of a number in base 256, least significant first. -/
def ofNatLE : (width : Nat) → (number : Nat) → Bytes
  | 0, _ => []
  | width + 1, number => UInt8.ofNat number :: ofNatLE width (number / 256)

/-- The number whose base 256 digits are given, least significant first. -/
def toNatLE (bytes : Bytes) : Nat :=
  bytes.foldr (fun byte number => byte.toNat + 256 * number) 0

/-- The octets of a string in UTF-8. -/
def ofString (text : String) : Bytes :=
  text.toByteArray.data.toList

/-- The first so many bytes and the rest, when there are that many. -/
def splitExact? (count : Nat) (bytes : Bytes) : Option (Bytes × Bytes) :=
  let (front, rest) := bytes.splitAt count
  -- A short front means the bytes ran out before the count was reached.
  if front.length = count then some (front, rest) else none

end Bytes

/-- Bytes gathered piece by piece, newest piece first, so that adding a piece copies nothing. -/
structure Gathered where
  pieces : List Bytes
  size : Nat
  size_eq : size = pieces.flatten.length

namespace Gathered

/-- Nothing gathered yet. -/
def empty : Gathered := ⟨[], 0, rfl⟩

instance : Inhabited Gathered := ⟨empty⟩

/-- Everything gathered, oldest piece first. -/
def toBytes (gathered : Gathered) : Bytes :=
  gathered.pieces.reverse.flatten

/-- Adds a piece at the end. -/
def push (gathered : Gathered) (piece : Bytes) : Gathered where
  pieces := piece :: gathered.pieces
  size := piece.length + gathered.size
  size_eq := by simp [gathered.size_eq]

/-- A single piece, gathered. -/
def ofBytes (piece : Bytes) : Gathered :=
  empty.push piece

/-- Nothing is held exactly when the size is zero. -/
def isEmpty (gathered : Gathered) : Bool :=
  gathered.size == 0

@[simp] theorem size_empty : empty.size = 0 := rfl

@[simp] theorem toBytes_empty : empty.toBytes = [] := rfl

@[simp] theorem toBytes_push (gathered : Gathered) (piece : Bytes) :
    (gathered.push piece).toBytes = gathered.toBytes ++ piece := by
  simp [toBytes, push]

/-- The running size is the length of what is held. -/
theorem length_toBytes (gathered : Gathered) : gathered.toBytes.length = gathered.size := by
  -- Reversing the pieces permutes the summands of the length.
  rw [gathered.size_eq, toBytes]
  simp [List.length_flatten, List.sum_reverse]

end Gathered

end RemoteCall
