import RemoteCall.Toml.Text
import RemoteCall.Toml.Value

/-! The numbers, dates and times of TOML documents. -/

namespace RemoteCall.Toml

open Scan

/-- Whether underscores stand only between digits, the row before them ending in a digit or not. -/
def isSpaced : (afterDigit : Bool) → List Char → Bool
  | afterDigit, [] => afterDigit
  | afterDigit, char :: row =>
    if char == '_' then afterDigit && isSpaced false row else isSpaced true row

/-- Reads a row of digits of a kind, with single underscores between them, which do not count. -/
def digitRow (isDigit : Char → Bool) : Scan (List Char) := do
  let row ← run fun char => isDigit char || char == '_'
  guard (isSpaced false row)
  return row.filter (· != '_')

/-- Reads a sign, and tells whether it is a minus. -/
def sign : Scan Bool :=
  (do exactly ['-']; return true) <|> (do exactly ['+']; return false)

/-- Reads the digits of a decimal integer, which opens with a zero only if that is all. -/
def wholeRow : Scan (List Char) := do
  let row ← digitRow Char.isDigit
  guard (row.head? ≠ some '0' ∨ row.length = 1)
  return row

/-- Reads a decimal integer. -/
def decimalInteger : Scan Int := do
  let negative := (← perhaps sign).getD false
  let magnitude : Nat := rowValue 10 (← wholeRow)
  return if negative then -magnitude else magnitude

/-- Reads an integer in a base that its first two characters name. -/
def basedInteger : Scan Int := do
  exactly ['0']
  let (base, isDigit) ← match ← one fun _ => true with
    | 'x' => pure (16, isHexDigit)
    | 'o' => pure (8, fun char => '0' ≤ char && char ≤ '7')
    | 'b' => pure (2, fun char => char == '0' || char == '1')
    | _ => failure
  return rowValue base (← digitRow isDigit)

/-- Reads an integer, which fits a signed word. -/
def integer : Scan Int64 := do
  let number ← basedInteger <|> decimalInteger
  guard (-0x8000000000000000 ≤ number ∧ number < 0x8000000000000000)
  return Int64.ofInt number

/-- Reads the exponent of a floating-point number. -/
def exponent : Scan Int := do
  let _ ← one fun char => char == 'e' || char == 'E'
  let negative := (← perhaps sign).getD false
  let magnitude : Nat := rowValue 10 (← digitRow Char.isDigit)
  return if negative then -magnitude else magnitude

/-- Reads the digits after a point. -/
def fraction : Scan (List Char) := do
  exactly ['.']
  digitRow Char.isDigit

/-- The double nearest to a row of digits times a power of ten. -/
def nearestDouble (negative : Bool) (row : List Char) (power : Int) : Double :=
  let significant := row.dropWhile (· == '0')
  let places := significant.length + power
  -- With so many places before the point, or zeros after it, the size of the number is clear.
  if significant = [] ∨ places < -400 then Double.ofDecimal negative 0 0
  else if 400 < places then Double.ofDecimal negative 1 400
  else Double.ofDecimal negative (rowValue 10 significant) power

/-- Reads a finite floating-point number, or one below all finite ones. -/
def finiteFloat : Scan Double := do
  let negative := (← perhaps sign).getD false
  let whole ← wholeRow
  let places ← perhaps fraction
  let power ← perhaps exponent
  guard (places.isSome ∨ power.isSome)
  let places := places.getD []
  let number := nearestDouble negative (whole ++ places) (power.getD 0 - places.length)
  guard (negative ∨ number.isFinite)
  return number

/-- Reads an infinity, or what is not a number. -/
def namedFloat : Scan Double := do
  let negative := (← perhaps sign).getD false
  let magnitude ← (do exactly ['i', 'n', 'f']; return BinaryFormat.double.infinity)
    <|> (do exactly ['n', 'a', 'n']; return BinaryFormat.double.infinity + 0x8000000000000)
  return ⟨(BinaryFormat.double.withSign negative magnitude).toUInt64⟩

/-- Reads a floating-point number. -/
def float : Scan Double := finiteFloat <|> namedFloat

/-- Reads a number of exactly so many digits within bounds. -/
def fixedNumber (digits least greatest : Nat) : Scan Nat := do
  let number := rowValue 10 (← (List.replicate digits Char.isDigit).mapM one)
  guard (least ≤ number ∧ number ≤ greatest)
  return number

/-- The number of days of a month. -/
def monthLength (year month : Nat) : Nat :=
  let isLeap := year % 4 = 0 ∧ (year % 100 ≠ 0 ∨ year % 400 = 0)
  if month = 2 then if isLeap then 29 else 28
  else if month ∈ [4, 6, 9, 11] then 30
  else 31

/-- Reads a date. -/
def date : Scan Date := do
  let year ← fixedNumber 4 0 9999
  exactly ['-']
  let month ← fixedNumber 2 1 12
  exactly ['-']
  let day ← fixedNumber 2 1 (monthLength year month)
  return { year, month, day }

/-- Reads a time of day; of a fraction of a second, nine digits count. -/
def time : Scan Time := do
  let hour ← fixedNumber 2 0 23
  exactly [':']
  let minute ← fixedNumber 2 0 59
  exactly [':']
  let second ← fixedNumber 2 0 60
  let places := (← perhaps (do exactly ['.']; someRun Char.isDigit)).getD []
  let nanosecond := rowValue 10 ((places ++ List.replicate 9 '0').take 9)
  return { hour, minute, second, nanosecond }

/-- Reads how far a clock is ahead of universal time, in minutes. -/
def offset : Scan Int :=
  (do let _ ← one fun char => char == 'Z' || char == 'z'; return 0) <|> do
    let negative ← sign
    let hours ← fixedNumber 2 0 23
    exactly [':']
    let minutes : Nat := hours * 60 + (← fixedNumber 2 0 59)
    return if negative then -minutes else minutes

/-- Reads a date, a time, or both. -/
def moment : Scan Moment := do
  match ← perhaps date with
  | none => return .time (← time)
  | some date =>
    let clock ← perhaps do
      let _ ← one fun char => char == 'T' || char == 't' || char == ' '
      let time ← time
      return (time, ← perhaps offset)
    match clock with
    | none => return .date date
    | some (time, offset) => return .both date time offset

end RemoteCall.Toml
