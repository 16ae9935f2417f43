import RemoteCall.Codec.Part
import RemoteCall.Limits
import RemoteCall.Stream.Source

/-! Decoding of values from a source, message after message, under ceilings. -/

namespace RemoteCall

/-- A decoder in the course of its work. -/
structure Decoder where
  source : Source
  limits : Limits
  /-- The bytes of the present message so far. -/
  messageSize : Nat := 0
  /-- The bytes asked of the source so far, over all messages. -/
  read : Nat := 0
  deriving Inhabited

/-- A step of a decoder, which is left as it stands also when the step fails. -/
abbrev DecodeM := EStateM Failure Decoder

namespace Decoder

/-- Takes exactly so many bytes of the present message, which are counted before they are read. -/
def take (count : Nat) : DecodeM Bytes := fun decoder =>
  let size := addCount decoder.messageSize count
  if decoder.limits.messageSize < size then
    .error (.limitExceeded .messageSize decoder.limits.messageSize size) decoder
  else
    let decoder := { decoder with messageSize := size, read := addCount decoder.read count }
    match Source.take count decoder.source with
    | .ok bytes source => .ok bytes { decoder with source }
    | .error .ended source => .error (.malformed .unexpectedEnd) { decoder with source }
    | .error (.broken cause) source => .error (.stream cause) { decoder with source }

/-- Takes a number of the given width. -/
def takeNat (width : Nat) : DecodeM Nat :=
  return Bytes.toNatBE (← take width)

/-- Takes a length or a count, which is checked against the frame ceiling. -/
def takeLength : DecodeM Nat := do
  let length ← takeNat 4
  let limits := (← get).limits
  if limits.frameSize < length then
    throw (.limitExceeded .frameSize limits.frameSize length)
  return length

/-- Takes a string of so many octets. -/
def takeText (length : Nat) : DecodeM String := do
  match Bytes.toString? (← take length) with
  | .ok text => return text
  | .error fault => throw (.malformed (.invalidText fault))

/-- Takes a string. -/
def takeString : DecodeM String := do
  takeText (← takeLength)

/-- Takes the tag of a value. -/
def takeTag : DecodeM Tag := do
  let byte := UInt8.ofNat (← takeNat 1)
  match Tag.ofByte? byte with
  | some tag => return tag
  | none => throw (.malformed (.unknownTag byte ((← get).read - 1)))

/-- Repeats a step so many times, and keeps its answers in order. -/
def repeated {α : Type} (step : DecodeM α) : (count : Nat) → (done : List α) → DecodeM (List α)
  | 0, done => return done.reverse
  | count + 1, done => do
    let answer ← step
    repeated step count (answer :: done)

/-- Runs the reader of what a container holds, when there is room for the container. -/
def enter {α : Type} (inner : Option (DecodeM Value)) (read : DecodeM Value → DecodeM α) :
    DecodeM α := do
  match inner with
  | some inner => read inner
  | none =>
    let limits := (← get).limits
    throw (.limitExceeded .recursionDepth limits.depth (limits.depth + 1))

/-- Takes a count and so many values. -/
def takeItems (inner : DecodeM Value) : DecodeM (List Value) := do
  repeated inner (← takeLength) []

/-- Takes a count and so many keys, each with its value. -/
def takeEntries (inner : DecodeM Value) : DecodeM (List (String × Value)) := do
  let entry : DecodeM (String × Value) := do
    let key ← takeString
    return (key, ← inner)
  repeated entry (← takeLength) []

/--
Takes what follows a tag.

The reader `inner` is for what lies in a container, and is missing where none may open.
-/
def takeContent (inner : Option (DecodeM Value)) : Tag → DecodeM Value
  | .null => return .null
  | .false => return .bool false
  | .true => return .bool true
  | .int => return .int (Int64.ofNat (← takeNat 8))
  | .word => return .word (UInt64.ofNat (← takeNat 8))
  | .float => return .float ⟨UInt64.ofNat (← takeNat 8)⟩
  | .string => return .string (← takeString)
  | .bytes => return .bytes (← take (← takeLength))
  | .list => enter inner fun inner => return .list (← takeItems inner)
  | .array => enter inner fun inner => do
    let elementType ← takeString
    return .array elementType (← takeItems inner)
  | .map => enter inner fun inner => return .map (← takeEntries inner)
  | .object => enter inner fun inner => do
    let typeName ← takeString
    return .object typeName (← takeEntries inner)

/-- Takes a value: a tag and what follows it. -/
def takeValueWith (inner : Option (DecodeM Value)) : DecodeM Value := do
  takeContent inner (← takeTag)

/-- Takes a value with room for so many containers, one inside the other. -/
def takeValue : (room : Nat) → DecodeM Value
  | 0 => takeValueWith none
  | room + 1 => takeValueWith (some (takeValue room))

/-- Takes one complete message, for which the message ceiling starts anew, and nothing past it. -/
def takeMessage : DecodeM Value := do
  modify fun decoder => { decoder with messageSize := 0 }
  let version := UInt8.ofNat (← takeNat 1)
  if version ≠ wireVersion then
    throw (.unsupportedVersion version)
  takeValue (← get).limits.depth

end Decoder

/-- The value of a complete message, with nothing after it. -/
def decode (bytes : Bytes) (limits : Limits) : Except Failure Value :=
  if limits.messageSize < bytes.length then
    .error (.limitExceeded .messageSize limits.messageSize bytes.length)
  else
    match Decoder.takeMessage { source := { rest := bytes }, limits } with
    | .error failure _ => .error failure
    | .ok value decoder =>
      if decoder.read = bytes.length then .ok value
      else .error (.malformed .trailingBytes)

end RemoteCall
