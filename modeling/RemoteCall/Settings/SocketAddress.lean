import RemoteCall.Limits
import RemoteCall.Toml.Text

/-! The written form of addresses of sockets. -/

namespace RemoteCall.SocketAddress

open Scan

/-- Reads a number from a row of digits of a base, up to a greatest number. -/
def number (base greatest : Nat) : Scan Nat := do
  let row ← someRun fun char => Toml.isHexDigit char && Toml.digitValue char < base
  let number := Toml.rowValue base row
  guard (number ≤ greatest)
  return number

/-- Reads a number of three digits at most, the first of them no zero unless it is all. -/
def octet : Scan Nat := fun text => do
  let (octet, rest) ← number 10 255 text
  guard (text.head? ≠ some '0' ∨ text.length = rest.length + 1)
  return (octet, rest)

/-- Reads four octets with dots between them. -/
def octets : Scan Unit := do
  let _ ← octet
  let _ ← [(), (), ()].mapM fun () => do
    exactly ['.']
    octet

/-- Reads four hexadecimal digits at most. -/
def group : Scan Unit := do
  let row ← someRun Toml.isHexDigit
  guard (row.length ≤ 4)

/-- Reads a colon, except before the first of several groups. -/
def colonAt (index : Nat) : Scan Unit :=
  if index = 0 then pure () else exactly [':']

/-- How many groups were read, and whether the last two were written as octets. -/
structure Groups where
  count : Nat
  isMixed : Bool

/-- Reads groups from an index on while there are any, and while some are left to be read. -/
def groups (index : Nat) : (left : Nat) → Scan Groups
  | 0 => pure ⟨index, false⟩
  | left + 1 =>
    (do
      -- Octets take the place of two groups.
      guard (1 ≤ left)
      colonAt index
      octets
      return ⟨index + 2, true⟩)
    <|> (do
      colonAt index
      group
      groups (index + 1) left)
    <|> pure ⟨index, false⟩

/-- Reads eight groups, of which two colons may stand for one or more. -/
def eightGroups : Scan Unit := do
  let front ← groups 0 8
  if front.count ≠ 8 then
    guard (!front.isMixed)
    exactly [':', ':']
    let _ ← groups 0 (7 - front.count)

/-- Reads a colon and a number of sixteen bits. -/
def colonNumber : Scan Unit := do
  exactly [':']
  let _ ← number 10 0xFFFF

/-- Reads octets or, in brackets, groups and perhaps a scope; a number of sixteen bits follows. -/
def socketAddress : Scan Unit :=
  (do octets; colonNumber) <|> do
    exactly ['[']
    eightGroups
    let _ ← perhaps do
      exactly ['%']
      number 10 0xFFFFFFFF
    exactly [']']
    colonNumber

/-- Whether a text is the address of a socket. -/
def isValid (text : String) : Bool :=
  (whole socketAddress text.toList).isSome

end RemoteCall.SocketAddress
