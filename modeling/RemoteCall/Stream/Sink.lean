import RemoteCall.Bytes
import RemoteCall.Failure

/-! Destinations of bytes, which may accept a write in part, and the bounded store. -/

namespace RemoteCall

/-- What a step on a stream answers, and the stream it leaves behind, also when it fails. -/
abbrev StreamM (σ : Type) := EStateM StreamError σ

/--
Writes until everything is accepted, or a write fails or accepts nothing.

Nothing is written for an empty sequence.
-/
def writeAllWith {σ : Type} (write : Bytes → StreamM σ Nat) : Bytes → StreamM σ Unit
  | [] => return ()
  | byte :: rest => do
    match ← write (byte :: rest) with
    | 0 => throw .nothingAccepted
    | accepted + 1 => writeAllWith write (rest.drop accepted)
termination_by bytes => bytes.length
decreasing_by simp only [List.length_drop, List.length_cons]; omega

/-- A destination of bytes. -/
class Sink (σ : Type) where
  /-- Offers bytes and answers how many of them, from the front, were accepted. -/
  write : Bytes → StreamM σ Nat
  /-- Passes on whatever is held back. -/
  flush : StreamM σ Unit
  /-- Writes everything. -/
  writeAll : Bytes → StreamM σ Unit := writeAllWith write

/-- A store of bytes, which may have a capacity. -/
structure Store where
  capacity : Option Nat := none
  held : Gathered := .empty
  deriving Inhabited

namespace Store

/-- What the store holds. -/
def toBytes (store : Store) : Bytes := store.held.toBytes

/-- How many bytes of an offer still fit. -/
def accepts (store : Store) (offered : Nat) : Nat :=
  match store.capacity with
  | none => offered
  | some capacity => min offered (capacity - store.held.size)

/-- Accepts the part of an offer that fits, and fails when none of it does. -/
def write (bytes : Bytes) : StreamM Store Nat := fun store =>
  let offered := bytes.length
  let accepted := store.accepts offered
  if accepted = 0 ∧ offered ≠ 0 then .error .sinkFull store
  else .ok accepted { store with held := store.held.push (bytes.take accepted) }

instance : Sink Store where
  write := write
  flush := return ()

end Store

end RemoteCall
