import RemoteCall.Number.Binary

/-! Arithmetic of doubles that are not negative, with each result rounded to the nearest double. -/

namespace RemoteCall.Double

/-- The binary places of the least positive number. -/
def leastPlace : Nat := 1074

/-- How many of the least positive numbers make up one. -/
def unitsOfOne : Nat := 1 <<< leastPlace

/-- How many of the least positive numbers make up a finite number. -/
def units (number : Double) : Nat :=
  let bits := number.bits.toNat
  let unit := BinaryFormat.double.unit bits - BinaryFormat.double.leastUnit
  BinaryFormat.double.significand bits <<< unit.toNat

/-- The double nearest to a ratio. -/
def ofRatio (numerator denominator : Nat) : Double :=
  ⟨(BinaryFormat.double.nearest numerator denominator).toUInt64⟩

/-- The double nearest to so many of the least positive numbers. -/
def ofUnits (count : Nat) : Double := ofRatio count unitsOfOne

/-- The sum of two numbers. -/
def plus (number other : Double) : Double := ofUnits (number.units + other.units)

/-- What is left of a number without another one that is no greater. -/
def minus (number other : Double) : Double := ofUnits (number.units - other.units)

/-- The product of two numbers. -/
def times (number other : Double) : Double :=
  ofRatio (number.units * other.units) (unitsOfOne * unitsOfOne)

/-- A number divided by one that is not zero. -/
def dividedBy (number other : Double) : Double := ofRatio number.units other.units

/-- The smaller one of two numbers. -/
def least (number other : Double) : Double :=
  if number.units ≤ other.units then number else other

/-- The whole part of a number, as far as a word can tell. -/
def toWord (number : Double) : Nat := min (number.units / unitsOfOne) 0xFFFFFFFFFFFFFFFF

end RemoteCall.Double
