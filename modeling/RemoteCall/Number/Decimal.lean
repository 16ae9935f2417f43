import RemoteCall.Number.Binary

/-! Decimal text of floating-point numbers: the fewest digits that read back, laid out by a rule. -/

namespace RemoteCall

/-- A decimal number: its digits as an integer, and the power of ten that they count. -/
structure Decimal where
  digits : Nat
  power : Int
  deriving DecidableEq, Repr

namespace Decimal

/-- The greatest power of ten that does not exceed a positive ratio. -/
def floorLog10 (numerator denominator : Nat) : Int :=
  if denominator ≤ numerator then
    ((Nat.toDigits 10 (numerator / denominator)).length : Int) - 1
  else
    -- Below one, count the places until the ratio reaches a digit.
    -((Nat.toDigits 10 ((denominator - 1) / numerator)).length : Int)

/-- Whether a decimal is read back as the given double magnitude. -/
def readsBack (magnitude : Nat) (decimal : Decimal) : Bool :=
  BinaryFormat.double.nearest (decimal.digits * Nat.pow 10 decimal.power.toNat)
    (Nat.pow 10 (-decimal.power).toNat) == magnitude

/--
The neighbour of a ratio, on the grid of a power of ten, that reads back as a given magnitude.

Of two that do, the nearer one is taken, and of two equally near the even one.
-/
def onGrid? (magnitude numerator denominator : Nat) (power : Int) : Option Decimal :=
  let scaledNumerator := numerator * Nat.pow 10 (-power).toNat
  let scaledDenominator := denominator * Nat.pow 10 power.toNat
  let below : Decimal := ⟨scaledNumerator / scaledDenominator, power⟩
  let above : Decimal := ⟨scaledNumerator / scaledDenominator + 1, power⟩
  match readsBack magnitude below, readsBack magnitude above with
  | true, true => some ⟨roundQuotient scaledNumerator scaledDenominator, power⟩
  | true, false => some below
  | false, true => some above
  | false, false => none

/-- Drops zeros at the end of the digits; the fuel bounds their number. -/
private def trimZeros : (fuel : Nat) → Decimal → Decimal
  | 0, decimal => decimal
  | fuel + 1, decimal =>
    if decimal.digits ≠ 0 ∧ decimal.digits % 10 = 0 then
      trimZeros fuel ⟨decimal.digits / 10, decimal.power + 1⟩
    else decimal

/-- The decimal of fewest digits that reads back as a finite double, and of those the nearest. -/
def shortest (number : Double) : Decimal :=
  let magnitude := BinaryFormat.double.magnitude number.bits.toNat
  if magnitude = 0 then ⟨0, 0⟩
  else
    let (numerator, denominator) := number.ratio
    let top := floorLog10 numerator denominator
    -- Seventeen digits always tell two doubles apart.
    let found := (List.range 17).findSome? fun (places : Nat) =>
      onGrid? magnitude numerator denominator (top - places)
    trimZeros 20 (found.getD ⟨0, 0⟩)

end Decimal

/-- When a number is written with an exponent: outside the given range of decimal exponents. -/
structure DecimalLayout where
  positionalFrom : Option Int
  positionalTo : Option Int

namespace DecimalLayout

/-- Every number is written out in full. -/
def positional : DecimalLayout := ⟨none, none⟩

/-- Numbers below a hundred-thousandth or from ten quadrillion on carry an exponent. -/
def compact : DecimalLayout := ⟨some (-5), some 15⟩

private def zeros (count : Nat) : String := String.ofList (List.replicate count '0')

/-- Digits with a point placed among them, and at least one digit on either side of it. -/
private def writePositional (digits : String) (power : Int) : String :=
  if 0 ≤ power then digits ++ zeros power.toNat ++ ".0"
  else
    let places := (-power).toNat
    let padded := zeros (places + 1 - digits.length) ++ digits
    let whole := padded.length - places
    s!"{padded.take whole}.{padded.drop whole}"

/-- Digits with a point after the first, if there are more, and the exponent of ten. -/
private def writeScientific (digits : String) (exponent : Int) : String :=
  let point := if digits.length = 1 then "" else "."
  let sign := if exponent < 0 then "-" else "+"
  s!"{digits.take 1}{point}{digits.drop 1}e{sign}{exponent.natAbs}"

/-- The text of a double. -/
def write (layout : DecimalLayout) (number : Double) : String :=
  if number.isFinite then
    let sign := if number.isNegative then "-" else ""
    let decimal := Decimal.shortest number
    let digits := toString decimal.digits
    let exponent := decimal.power + digits.length - 1
    let small := layout.positionalFrom.any (exponent < ·)
    let large := layout.positionalTo.any (· < exponent)
    -- Zero has no exponent to speak of and is always written out.
    if decimal.digits ≠ 0 ∧ (small ∨ large) then sign ++ writeScientific digits exponent
    else sign ++ writePositional digits decimal.power
  else if BinaryFormat.double.magnitude number.bits.toNat = BinaryFormat.double.infinity then
    if number.isNegative then "-inf" else "inf"
  else "NaN"

end DecimalLayout

end RemoteCall
