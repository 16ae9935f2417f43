import RemoteCall.Bytes
import RemoteCall.Failure

/-! What a decompressor delivers, read by read, and its collection under a ceiling. -/

namespace RemoteCall

/-- The most that a single read of a decompressor gives. -/
def readSize : Nat := 8192

/-- The results of the reads of a decompressor, in order; an empty result is the end. -/
abbrev ReadResults := Nat → Except Unit Bytes

namespace ReadResults

/--
Collects what the reads give up to the end, and refuses as soon as it is more than the ceiling.

Every read that gives something uses up some of the ceiling, so an endless decompressor ends too.
-/
def collectFrom (results : ReadResults) (ceiling : Nat) (next : Nat) (collected : Gathered) :
    Except Failure Bytes :=
  match results next with
  | .error () => .error .decompression
  | .ok [] => .ok collected.toBytes
  | .ok (byte :: piece) =>
    if _exceeded : ceiling < (collected.push (byte :: piece)).size then
      .error (.limitExceeded .messageSize ceiling (collected.push (byte :: piece)).size)
    else collectFrom results ceiling (next + 1) (collected.push (byte :: piece))
termination_by ceiling - collected.size
decreasing_by
  simp only [Gathered.push, List.length_cons] at *
  omega

/-- Collects everything that the reads give. -/
def collect (results : ReadResults) (ceiling : Nat) : Except Failure Bytes :=
  collectFrom results ceiling 0 .empty

/-- No read gives more than fits the buffer that it is read into. -/
def Short (results : ReadResults) : Prop :=
  ∀ index piece, results index = .ok piece → piece.length ≤ readSize

end ReadResults

/-- What a decompressor delivers: pieces no longer than a read, and whether it then ends well. -/
structure Delivery where
  pieces : Array Bytes
  intact : Bool
  deriving DecidableEq

namespace Delivery

/-- The reads of a delivery. -/
def results (delivery : Delivery) : ReadResults := fun index =>
  match delivery.pieces[index]? with
  | some piece => .ok piece
  | none => if delivery.intact then .ok [] else .error ()

/-- Cuts octets from a position on into reads; only the last may be short. -/
def cut (output : ByteArray) (length position : Nat) (pieces : Array Bytes) : Array Bytes :=
  if length ≤ position then pieces
  else
    let next := min length (position + readSize)
    cut output length next (pieces.push (output.extract position next).data.toList)
termination_by length - position
decreasing_by simp only [readSize] at *; omega

/-- The reads that give the first so many octets. -/
def ofOutput (output : ByteArray) (length : Nat) : Array Bytes :=
  cut output (min length output.size) 0 #[]

/-- Of so many octets, those in full stretches of a size that something follows. -/
def fullStretches (size length : Nat) : Nat := (length - 1) / size * size

/-- Pieces that each fit a read. -/
def ShortPieces (pieces : Array Bytes) : Prop :=
  ∀ piece ∈ pieces, piece.length ≤ readSize

theorem ShortPieces.empty : ShortPieces #[] := by simp [ShortPieces]

theorem ShortPieces.push {pieces : Array Bytes} {piece : Bytes} (before : ShortPieces pieces)
    (fits : piece.length ≤ readSize) : ShortPieces (pieces.push piece) := by
  intro one member
  rcases Array.mem_push.mp member with member | rfl
  · exact before one member
  · exact fits

theorem ShortPieces.append {pieces more : Array Bytes} (before : ShortPieces pieces)
    (after : ShortPieces more) : ShortPieces (pieces ++ more) := by
  intro one member
  rcases Array.mem_append.mp member with member | member
  · exact before one member
  · exact after one member

/-- Cutting makes pieces that fit a read. -/
theorem cut_short {output : ByteArray} {length position : Nat} {pieces : Array Bytes}
    (before : ShortPieces pieces) : ShortPieces (cut output length position pieces) := by
  fun_induction cut output length position pieces with
  | case1 => exact before
  | case2 position pieces _ next ih =>
    refine ih (before.push ?_)
    -- The next position is at most the size of a read away.
    have near : next ≤ position + readSize := Nat.min_le_right _ _
    simp only [ByteArray.data_extract, Array.length_toList, Array.size_extract]
    omega

/-- Whatever part of an output is delivered, it is delivered in short pieces. -/
theorem ofOutput_short (output : ByteArray) (length : Nat) :
    ShortPieces (ofOutput output length) :=
  cut_short .empty

/-- Short pieces make short reads. -/
theorem results_short {delivery : Delivery} (short : ShortPieces delivery.pieces) :
    delivery.results.Short := by
  intro index piece given
  unfold results at given
  split at given
  next found =>
    cases given
    exact short _ (Array.mem_of_getElem? found)
  next =>
    -- Past the pieces there is an end or an error.
    split at given <;> cases given
    exact Nat.zero_le _

end Delivery

end RemoteCall
