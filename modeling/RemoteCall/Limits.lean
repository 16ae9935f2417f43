import RemoteCall.Text.Blank

/-! The ceilings that bound every message, and their reading from named settings. -/

namespace RemoteCall

/-- The ceilings that one party applies to what it encodes, decodes and frames. -/
structure Limits where
  /-- The greatest encoded size of one message. -/
  messageSize : Nat := 104857600
  /-- The greatest size of one length-prefixed item, count or chunk. -/
  frameSize : Nat := 16384000
  /-- How deep containers may nest. -/
  depth : Nat := 64
  deriving DecidableEq, Repr, Inhabited

/-- The greatest count that a machine word holds, where running counts stay. -/
def wordMax : Nat := 0xFFFFFFFFFFFFFFFF

/-- A running count after so many more, which never passes the greatest word. -/
def addCount (count more : Nat) : Nat := min (count + more) wordMax

namespace Decimal

/-- The number that a non-empty row of decimal digits denotes. -/
def natural? (text : List Char) : Option Nat :=
  if text ≠ [] ∧ text.all Char.isDigit then
    some (text.foldl (fun number digit => number * 10 + (digit.toNat - '0'.toNat)) 0)
  else none

/-- The number that decimal digits, perhaps after a plus sign, denote. -/
def unsigned? : List Char → Option Nat
  | '+' :: digits => natural? digits
  | digits => natural? digits

end Decimal

namespace Limits

/-- The ceiling that a setting's text names: a positive integer below two to the sixty-third. -/
def ceiling? (text : String) : Option Nat :=
  (Decimal.unsigned? (trimBlank text.toList)).filter fun number =>
    0 < number && number < 0x8000000000000000

/-- The ceilings that settings name; one that is unset or names no ceiling keeps its default. -/
def ofLookup (lookup : String → Option String) : Limits :=
  let default : Limits := {}
  let resolve (name : String) (default : Nat) : Nat := ((lookup name).bind ceiling?).getD default
  { messageSize := resolve "WIRECALL_MAX_MESSAGE_SIZE" default.messageSize
    frameSize := resolve "WIRECALL_MAX_FRAME_SIZE" default.frameSize
    depth := resolve "WIRECALL_RECURSION_DEPTH" default.depth }

end Limits

end RemoteCall
