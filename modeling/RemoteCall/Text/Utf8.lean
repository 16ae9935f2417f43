import RemoteCall.Bytes

/-! Reading UTF-8, with the place and width of the first fault when a sequence is not UTF-8. -/

namespace RemoteCall

/-- How a byte sequence departs from UTF-8, after a prefix that is well formed. -/
inductive Utf8Fault where
  /-- The bytes after the prefix can open no character, and that many of them are to blame. -/
  | invalid (width : Nat) (validUpTo : Nat)
  /-- The bytes end inside a character that was in order so far. -/
  | incomplete (validUpTo : Nat)
  deriving DecidableEq, Repr

namespace Utf8Fault

/-- The text of a fault. -/
def message : Utf8Fault → String
  | .invalid width validUpTo => s!"invalid utf-8 sequence of {width} bytes from index {validUpTo}"
  | .incomplete validUpTo => s!"incomplete utf-8 byte sequence from index {validUpTo}"

/-- The range of an ordinary continuation octet. -/
private def continuation : UInt8 × UInt8 := (0x80, 0xBF)

/--
The ranges of the octets that must follow a first octet, or nothing if no character opens with it.

The second octet is narrowed where the full range would spell an overlong form, a surrogate or a
number above the last code point.
-/
def followers? (first : UInt8) : Option (List (UInt8 × UInt8)) :=
  if first < 0x80 then some []
  else if first < 0xC2 then none
  else if first < 0xE0 then some [continuation]
  else if first = 0xE0 then some [(0xA0, 0xBF), continuation]
  else if first = 0xED then some [(0x80, 0x9F), continuation]
  else if first < 0xF0 then some [continuation, continuation]
  else if first = 0xF0 then some [(0x90, 0xBF), continuation, continuation]
  else if first < 0xF4 then some [continuation, continuation, continuation]
  else if first = 0xF4 then some [(0x80, 0x8F), continuation, continuation]
  else none

/-- Walks the bytes of a sequence; `start` is where the present character began. -/
private def scan (start index : Nat) : List (UInt8 × UInt8) → Bytes → Option Utf8Fault
  | [], [] => none
  | _ :: _, [] => some (.incomplete start)
  | [], first :: rest =>
    match followers? first with
    | none => some (.invalid 1 index)
    | some expected => scan index (index + 1) expected rest
  | (low, high) :: expected, byte :: rest =>
    -- The faulty octet itself is not part of the sequence that is blamed.
    if low ≤ byte ∧ byte ≤ high then scan start (index + 1) expected rest
    else some (.invalid (index - start) start)

/-- The first fault of a sequence, or nothing when it is UTF-8. -/
def locate? (bytes : Bytes) : Option Utf8Fault :=
  scan 0 0 [] bytes

end Utf8Fault

namespace Bytes

/-- The string that a sequence spells in UTF-8, or its first fault. -/
def toString? (bytes : Bytes) : Except Utf8Fault String :=
  match String.fromUTF8? ⟨bytes.toArray⟩ with
  | some text => .ok text
  | none => .error ((Utf8Fault.locate? bytes).getD (.incomplete 0))

end Bytes

end RemoteCall
