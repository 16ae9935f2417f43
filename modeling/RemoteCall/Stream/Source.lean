import RemoteCall.Bytes
import RemoteCall.Failure

/-! Sources of bytes, read in pieces of any size, which end or break somewhere. -/

namespace RemoteCall

/-- A source of bytes. -/
structure Source where
  /-- What is still to come. -/
  rest : Bytes
  /-- How many bytes were given so far. -/
  position : Nat := 0
  /-- The most that a single read at a position gives, if it is bounded; it is never below one. -/
  grain : Nat → Option Nat := fun _ => none
  /-- The position at which the source breaks, if it does. -/
  failsAt : Option Nat := none

namespace Source

instance : Inhabited Source := ⟨{ rest := [] }⟩

/-- How many bytes a read gives when it asks for so many. -/
def share (source : Source) (wanted : Nat) : Nat :=
  let granted := match source.grain source.position with
    | none => wanted
    | some grain => min wanted (max grain 1)
  match source.failsAt with
  | none => granted
  | some offset => min granted (offset - source.position)

/-- Whether the source has reached the position at which it breaks. -/
def isBroken (source : Source) : Bool :=
  source.failsAt.any (· ≤ source.position)

/-- A step on a source, which is left as it stands also when the step fails. -/
abbrev SourceM (ε : Type) := EStateM ε Source

/-- One read: some of the bytes wanted, none at the end of the data, or an error. -/
def read (wanted : Nat) : SourceM StreamError Bytes := fun source =>
  if wanted = 0 then .ok [] source
  else if source.isBroken then .error .sourceFailed source
  else
    let (piece, rest) := source.rest.splitAt (source.share wanted)
    .ok piece { source with rest, position := source.position + piece.length }

/-- Why a source stopped before everything wanted was read. -/
inductive Stop where
  | ended
  | broken (cause : StreamError)
  deriving DecidableEq, Repr

/-- Reads again and again until so many bytes are there, or the source ends or breaks. -/
def gather (wanted : Nat) (gathered : Gathered) : SourceM Stop Gathered := fun source =>
  if wanted = 0 then .ok gathered source
  else
    match read wanted source with
    | .error cause source => .error (.broken cause) source
    | .ok [] source => .error .ended source
    | .ok (byte :: piece) source =>
      gather (wanted - (piece.length + 1)) (gathered.push (byte :: piece)) source
termination_by wanted

/-- Exactly so many bytes; what was read before the source stopped is lost. -/
def take (wanted : Nat) : SourceM Stop Bytes :=
  Gathered.toBytes <$> gather wanted .empty

/-- A read gives no more than was wanted. -/
theorem length_read {wanted : Nat} {source after : Source} {piece : Bytes}
    (given : read wanted source = .ok piece after) : piece.length ≤ wanted := by
  have bounded : source.share wanted ≤ wanted := by
    unfold share
    split <;> split <;> grind
  unfold read at given
  split at given
  · cases given
    simp
  · split at given
    · cases given
    · simp only [List.splitAt_eq] at given
      cases given
      rw [List.length_take]
      omega

/-- What was gathered in full has grown by exactly what was wanted. -/
theorem size_gather {wanted : Nat} {before gathered : Gathered} {source after : Source}
    (given : gather wanted before source = .ok gathered after) :
    gathered.size = before.size + wanted := by
  fun_induction gather wanted before source with
  | case1 => cases given; simp
  | case2 => cases given
  | case3 => cases given
  | case4 wanted before source positive byte piece after found ih =>
    have bounded := length_read found
    rw [ih given]
    simp only [Gathered.push, List.length_cons] at bounded ⊢
    omega

/-- Bytes taken are as many as were wanted. -/
theorem length_take {wanted : Nat} {source after : Source} {bytes : Bytes}
    (given : take wanted source = .ok bytes after) : bytes.length = wanted := by
  simp only [take, Functor.map, EStateM.map] at given
  split at given
  · next found =>
    cases given
    rw [Gathered.length_toBytes, size_gather found]
    simp
  · cases given

end Source

end RemoteCall
