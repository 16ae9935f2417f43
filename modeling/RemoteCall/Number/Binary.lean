/-! Binary floating-point numbers as bit patterns, and correct rounding of ratios to them. -/

namespace RemoteCall

/-- The layout of a binary floating-point number: a sign, an exponent field and a fraction field. -/
structure BinaryFormat where
  fractionBits : Nat
  exponentBits : Nat

namespace BinaryFormat

/-- Double precision. -/
def double : BinaryFormat := ⟨52, 11⟩

/-- Single precision. -/
def single : BinaryFormat := ⟨23, 8⟩

variable (format : BinaryFormat)

/-- The greatest exponent field, which marks infinities and NaNs. -/
def topField : Nat := (1 <<< format.exponentBits) - 1

/-- The bits of positive infinity, which are also the first that name no finite number. -/
def infinity : Nat := format.topField <<< format.fractionBits

/-- The position of the sign bit. -/
def signBit : Nat := format.exponentBits + format.fractionBits

/-- The exponent of the unit in which the least positive numbers are counted. -/
def leastUnit : Int := 2 - (1 <<< (format.exponentBits - 1) : Nat) - format.fractionBits

/-- The pattern without its sign. -/
def magnitude (bits : Nat) : Nat := bits % (1 <<< format.signBit)

/-- Whether the sign bit is set. -/
def isNegative (bits : Nat) : Bool := (bits >>> format.signBit) % 2 == 1

/-- The integer that a pattern counts units of. -/
def significand (bits : Nat) : Nat :=
  let field := format.magnitude bits >>> format.fractionBits
  let fraction := bits % (1 <<< format.fractionBits)
  -- Numbers with an empty exponent field lack the leading bit.
  if field = 0 then fraction else (1 <<< format.fractionBits) + fraction

/-- The exponent of the unit that a pattern counts. -/
def unit (bits : Nat) : Int :=
  let field := format.magnitude bits >>> format.fractionBits
  format.leastUnit + (max field 1 - 1 : Nat)

/-- The finite magnitude of a pattern as a numerator and a denominator. -/
def ratio (bits : Nat) : Nat × Nat :=
  let unit := format.unit bits
  (format.significand bits <<< unit.toNat, 1 <<< (-unit).toNat)

end BinaryFormat

/-- The quotient of two numbers rounded to the nearest integer, a tie to the even one. -/
def roundQuotient (numerator denominator : Nat) : Nat :=
  let floor := numerator / denominator
  let excess := 2 * (numerator % denominator)
  if excess < denominator then floor
  else if denominator < excess then floor + 1
  else floor + floor % 2

/-- The greatest exponent of two that does not exceed a positive ratio. -/
def floorLog2 (numerator denominator : Nat) : Int :=
  let guess : Int := (numerator.log2 : Int) - denominator.log2
  -- The logarithms determine the answer up to one.
  if numerator <<< (-guess).toNat < denominator <<< guess.toNat then guess - 1 else guess

namespace BinaryFormat

/--
The pattern nearest to a ratio, a tie to the even one, and infinity past the finite numbers.

Counting units from the least one makes a carry out of the fraction step the exponent field.
-/
def nearest (format : BinaryFormat) (numerator denominator : Nat) : Nat :=
  if numerator = 0 then 0
  else
    let unit := max (floorLog2 numerator denominator - format.fractionBits) format.leastUnit
    let count := roundQuotient (numerator <<< (-unit).toNat) (denominator <<< unit.toNat)
    min format.infinity (((unit - format.leastUnit).toNat <<< format.fractionBits) + count)

/-- A magnitude with the given sign. -/
def withSign (format : BinaryFormat) (negative : Bool) (magnitude : Nat) : Nat :=
  if negative then (1 <<< format.signBit) + magnitude else magnitude

/-- The pattern nearest to an integer. -/
def nearestInt (format : BinaryFormat) (number : Int) : Nat :=
  format.withSign (number < 0) (format.nearest number.natAbs 1)

end BinaryFormat

/-- A double-precision number, kept as its bits so that every NaN keeps its payload. -/
structure Double where
  bits : UInt64
  deriving DecidableEq, Repr, Inhabited

/-- A single-precision number, kept as its bits. -/
structure Single where
  bits : UInt32
  deriving DecidableEq, Repr, Inhabited

namespace Double

/-- Neither an infinity nor a NaN. -/
def isFinite (number : Double) : Bool :=
  BinaryFormat.double.magnitude number.bits.toNat < BinaryFormat.double.infinity

/-- Whether the sign bit is set. -/
def isNegative (number : Double) : Bool :=
  BinaryFormat.double.isNegative number.bits.toNat

/-- The magnitude of a finite number as a numerator and a denominator. -/
def ratio (number : Double) : Nat × Nat :=
  BinaryFormat.double.ratio number.bits.toNat

/-- The double nearest to an integer. -/
def ofInt (number : Int) : Double :=
  ⟨(BinaryFormat.double.nearestInt number).toUInt64⟩

/-- The double nearest to a decimal: digits times a power of ten. -/
def ofDecimal (negative : Bool) (digits : Nat) (power : Int) : Double :=
  let numerator := digits * Nat.pow 10 power.toNat
  let denominator := Nat.pow 10 (-power).toNat
  ⟨(BinaryFormat.double.withSign negative
    (BinaryFormat.double.nearest numerator denominator)).toUInt64⟩

/-- The number that the machine's arithmetic works on. -/
def toFloat (number : Double) : Float := Float.ofBits number.bits

/-- The bits of a machine number. -/
def ofFloat (number : Float) : Double := ⟨number.toBits⟩

end Double

namespace Single

/-- Neither an infinity nor a NaN. -/
def isFinite (number : Single) : Bool :=
  BinaryFormat.single.magnitude number.bits.toNat < BinaryFormat.single.infinity

/-- The single nearest to an integer. -/
def ofInt (number : Int) : Single :=
  ⟨(BinaryFormat.single.nearestInt number).toUInt32⟩

/-- The single nearest to a finite double. -/
def ofDouble (number : Double) : Single :=
  let (numerator, denominator) := number.ratio
  ⟨(BinaryFormat.single.withSign number.isNegative
    (BinaryFormat.single.nearest numerator denominator)).toUInt32⟩

/-- The double equal to a finite single. -/
def toDouble (number : Single) : Double :=
  let bits := number.bits.toNat
  let (numerator, denominator) := BinaryFormat.single.ratio bits
  ⟨(BinaryFormat.double.withSign (BinaryFormat.single.isNegative bits)
    (BinaryFormat.double.nearest numerator denominator)).toUInt64⟩

end Single

end RemoteCall
