import Mathlib.Algebra.Ring.Nat
import RemoteCall.Number.Arithmetic

/-! Numbers of as many bits as a double has for its digits are doubles as they are. -/

namespace RemoteCall

/-- A quotient without a remainder needs no rounding. -/
theorem roundQuotient_mul (quotient : Nat) {divisor : Nat} (positive : 0 < divisor) :
    roundQuotient (quotient * divisor) divisor = quotient := by
  simp [roundQuotient, positive]

/-- The greatest power of two in a number over another such power is told by the first bit. -/
theorem floorLog2_two_pow {number : Nat} (positive : number ≠ 0) (power : Nat) :
    floorLog2 number (2 ^ power) = (number.log2 : Int) - power := by
  have lower := Nat.log2_self_le positive
  have guess : ¬ number <<< (-((number.log2 : Int) - power)).toNat <
      2 ^ power <<< ((number.log2 : Int) - power).toNat := by
    rw [Nat.shiftLeft_eq, Nat.shiftLeft_eq, Nat.not_lt]
    by_cases above : power ≤ number.log2
    · have left : (-((number.log2 : Int) - power)).toNat = 0 := by omega
      have right : ((number.log2 : Int) - power).toNat = number.log2 - power := by omega
      rw [left, right, ← Nat.pow_add, Nat.add_sub_cancel' above]
      omega
    · have left : (-((number.log2 : Int) - power)).toNat = power - number.log2 := by omega
      have right : ((number.log2 : Int) - power).toNat = 0 := by omega
      rw [left, right, Nat.pow_zero, Nat.mul_one]
      calc 2 ^ power = 2 ^ number.log2 * 2 ^ (power - number.log2) := by
            rw [← Nat.pow_add]
            congr 1
            omega
        _ ≤ number * 2 ^ (power - number.log2) := Nat.mul_le_mul_right _ lower
  simp only [floorLog2, Nat.log2_two_pow, if_neg guess]

/-- A factor that is a power of two moves the first bit. -/
theorem log2_mul_two_pow {number : Nat} (positive : number ≠ 0) (power : Nat) :
    (number * 2 ^ power).log2 = number.log2 + power := by
  have some := Nat.two_pow_pos power
  refine (Nat.log2_eq_iff (Nat.mul_ne_zero positive (Nat.ne_of_gt some))).mpr ⟨?_, ?_⟩
  · rw [Nat.pow_add]
    exact Nat.mul_le_mul_right _ (Nat.log2_self_le positive)
  · rw [Nat.add_right_comm, Nat.pow_add]
    exact Nat.mul_lt_mul_of_pos_right Nat.lt_log2_self some

/-- A count of units with no more bits than a double has for its digits. -/
def IsExact (count : Nat) : Prop := ∃ digits power, digits < 2 ^ 53 ∧ count = digits * 2 ^ power

namespace BinaryFormat

open Double (leastPlace)

variable {count : Nat}

/-- How often the bits of a count are moved to the right until they are the digits of a double. -/
def excess (count : Nat) : Nat := count.log2 - 52

/-- The bits that are moved out are zeros. -/
theorem exists_digits (exact : IsExact count) (positive : count ≠ 0) :
    ∃ digits, count = digits * 2 ^ excess count ∧ digits < 2 ^ 53 ∧
      (excess count = 0 ∨ 2 ^ 52 ≤ digits) := by
  obtain ⟨given, power, small, spelled⟩ := exact
  have lower := Nat.log2_self_le positive
  have upper : count < 2 ^ (count.log2 + 1) := Nat.lt_log2_self
  by_cases short : count.log2 ≤ 52
  · -- A short count has no bits that would have to be moved out.
    have none : excess count = 0 := Nat.sub_eq_zero_of_le short
    refine ⟨count, by rw [none, Nat.pow_zero, Nat.mul_one], ?_, .inl none⟩
    exact Nat.lt_of_lt_of_le upper (Nat.pow_le_pow_right (by decide) (by omega))
  · -- The digits of a long count are those that it is spelled with, and zeros behind them.
    have bits : count.log2 < 53 + power := by
      refine (Nat.log2_lt positive).mpr ?_
      rw [spelled, Nat.pow_add]
      exact Nat.mul_lt_mul_of_pos_right small (Nat.two_pow_pos _)
    have length : excess count + 52 = count.log2 := Nat.sub_add_cancel (by omega)
    obtain ⟨zeros, rfl⟩ : ∃ zeros, power = zeros + excess count := ⟨power - excess count, by omega⟩
    have whole : count = given * 2 ^ zeros * 2 ^ excess count := by
      rw [Nat.mul_assoc, ← Nat.pow_add]
      exact spelled
    refine ⟨given * 2 ^ zeros, whole, ?_, .inr ?_⟩
    · refine Nat.lt_of_mul_lt_mul_right (a := 2 ^ excess count) ?_
      rw [← whole, ← Nat.pow_add]
      exact Nat.lt_of_lt_of_le upper (Nat.pow_le_pow_right (by decide) (by omega))
    · refine Nat.le_of_mul_le_mul_right (c := 2 ^ excess count) ?_ (Nat.two_pow_pos _)
      rw [← whole, ← Nat.pow_add]
      exact Nat.le_trans (Nat.pow_le_pow_right (by decide) (by omega)) lower

/-- Two ways of counting units come to the same if they do in the least unit of both. -/
theorem scaled_eq {numerator digits power exponent least : Nat} (below : power ≤ least)
    (same : digits * 2 ^ exponent = numerator * 2 ^ (least - power)) :
    numerator * 2 ^ (least - exponent) = digits * (2 ^ power * 2 ^ (exponent - least)) := by
  refine Nat.eq_of_mul_eq_mul_right (Nat.two_pow_pos (least - power)) ?_
  have exponents : exponent + (least - exponent) =
      power + (exponent - least) + (least - power) := by
    omega
  calc numerator * 2 ^ (least - exponent) * 2 ^ (least - power)
      = digits * 2 ^ exponent * 2 ^ (least - exponent) := by rw [same, Nat.mul_right_comm]
    _ = digits * 2 ^ (power + (exponent - least) + (least - power)) := by
        rw [Nat.mul_assoc, ← Nat.pow_add, exponents]
    _ = digits * (2 ^ power * 2 ^ (exponent - least)) * 2 ^ (least - power) := by
        rw [Nat.pow_add, Nat.pow_add, ← Nat.mul_assoc]

/-- The double of a ratio that comes to an exact count of units has the digits of the count. -/
theorem nearest_of_exact {numerator power digits : Nat} (below : power ≤ leastPlace)
    (same : count = numerator * 2 ^ (leastPlace - power)) (positive : numerator ≠ 0)
    (spelled : count = digits * 2 ^ excess count) (small : digits < 2 ^ 53)
    (finite : count.log2 ≤ 53 + leastPlace) :
    double.nearest numerator (2 ^ power) = excess count * 2 ^ 52 + digits := by
  have length : count.log2 = numerator.log2 + (leastPlace - power) := by
    rw [same, log2_mul_two_pow positive]
  have least : double.leastUnit = -(leastPlace : Int) := by decide
  have unit : max (floorLog2 numerator (2 ^ power) - double.fractionBits) double.leastUnit =
      (excess count : Int) - leastPlace := by
    rw [floorLog2_two_pow positive, least]
    show max ((numerator.log2 : Int) - power - 52) (-(leastPlace : Int)) =
      ((count.log2 - 52 : Nat) : Int) - leastPlace
    omega
  have left : (-((excess count : Int) - leastPlace)).toNat = leastPlace - excess count := by omega
  have right : ((excess count : Int) - leastPlace).toNat = excess count - leastPlace := by omega
  have exponent : ((excess count : Int) - leastPlace - -(leastPlace : Int)).toNat =
      excess count := by
    omega
  -- In this unit the ratio is the digits, with no remainder that would be rounded.
  have scaled := scaled_eq below (spelled.symm.trans same)
  have rounded : roundQuotient (numerator <<< (leastPlace - excess count))
      (2 ^ power <<< (excess count - leastPlace)) = digits := by
    rw [Nat.shiftLeft_eq, Nat.shiftLeft_eq, scaled]
    exact roundQuotient_mul _ (Nat.mul_pos (Nat.two_pow_pos _) (Nat.two_pow_pos _))
  have infinity : double.infinity = 2047 * 2 ^ 52 := by decide
  have field : excess count <<< double.fractionBits = excess count * 2 ^ 52 := Nat.shiftLeft_eq ..
  have bounded : excess count ≤ 2045 := by
    have place : leastPlace = 1074 := rfl
    unfold excess
    omega
  rw [nearest, if_neg positive]
  dsimp only
  rw [unit, left, right, least, exponent, infinity, field, rounded, Nat.min_eq_right]
  omega

/-- A pattern that is put together from an exponent and digits counts them. -/
theorem units_of_digits {exponent digits : Nat} (small : digits < 2 ^ 53)
    (normal : exponent = 0 ∨ 2 ^ 52 ≤ digits) (finite : exponent ≤ 2045) :
    (⟨(exponent * 2 ^ 52 + digits).toUInt64⟩ : Double).units = digits * 2 ^ exponent := by
  have word : (exponent * 2 ^ 52 + digits).toUInt64.toNat = exponent * 2 ^ 52 + digits := by
    rw [Nat.toUInt64_eq, UInt64.toNat_ofNat']
    omega
  generalize pattern : exponent * 2 ^ 52 + digits = bits at word
  have sign : (1 <<< double.signBit : Nat) = 2 ^ 63 := by decide
  have one : (1 <<< double.fractionBits : Nat) = 2 ^ 52 := by decide
  have least : double.leastUnit = -(leastPlace : Int) := by decide
  have magnitude : double.magnitude bits = bits := by
    rw [BinaryFormat.magnitude, sign]
    omega
  have field : bits >>> double.fractionBits = bits / 2 ^ 52 := Nat.shiftRight_eq_div_pow ..
  -- The first one of fifty-three digits adds to the exponent, and is not written.
  by_cases leading : 2 ^ 52 ≤ digits
  · have above : bits / 2 ^ 52 = exponent + 1 := by omega
    have significand : double.significand bits = digits := by
      simp only [BinaryFormat.significand, magnitude, field, above, one, Nat.add_one_ne_zero,
        if_false]
      omega
    have unit : double.unit bits - double.leastUnit = exponent := by
      simp only [BinaryFormat.unit, magnitude, field, above, least]
      omega
    rw [Double.units, word, significand, unit, Int.toNat_natCast, Nat.shiftLeft_eq]
  · -- Fewer digits are only written with an empty exponent field, which stands for the least unit.
    obtain rfl := normal.resolve_right leading
    have above : bits / 2 ^ 52 = 0 := by omega
    have significand : double.significand bits = digits := by
      simp only [BinaryFormat.significand, magnitude, field, above, one, if_true]
      omega
    have unit : double.unit bits - double.leastUnit = (0 : Nat) := by
      simp only [BinaryFormat.unit, magnitude, field, above, least]
      omega
    rw [Double.units, word, significand, unit, Int.toNat_natCast, Nat.shiftLeft_eq]

end BinaryFormat

namespace Double

variable {count number : Nat}

/-- The units of one are a power of two. -/
theorem unitsOfOne_eq : unitsOfOne = 2 ^ leastPlace := Nat.one_shiftLeft _

/-- What a double counts is exact, with all of its digits unless it counts the least units. -/
theorem exists_units (number : Double) :
    ∃ digits exponent, number.units = digits * 2 ^ exponent ∧ digits < 2 ^ 53 ∧
      (exponent = 0 ∨ 2 ^ 52 ≤ digits) := by
  let bits := number.bits.toNat
  let unit := BinaryFormat.double.unit bits - BinaryFormat.double.leastUnit
  have one : (1 <<< BinaryFormat.double.fractionBits : Nat) = 2 ^ 52 := by decide
  have fraction : bits % 2 ^ 52 < 2 ^ 52 := Nat.mod_lt _ (by decide)
  refine ⟨BinaryFormat.double.significand bits, unit.toNat, Nat.shiftLeft_eq .., ?_⟩
  -- The leading digit is missing just where the exponent field is empty.
  by_cases field : BinaryFormat.double.magnitude bits >>> BinaryFormat.double.fractionBits = 0
  · have least : unit = 0 := by simp [unit, BinaryFormat.unit, field]
    simp only [BinaryFormat.significand, field, if_true, one, least]
    omega
  · simp only [BinaryFormat.significand, field, if_false, one]
    omega

/-- Whole numbers of no more than fifty-three bits are exact. -/
theorem isExact_whole (small : number ≤ 2 ^ 53) : IsExact (number * unitsOfOne) := by
  rw [unitsOfOne_eq]
  rcases Nat.lt_or_eq_of_le small with below | rfl
  · exact ⟨number, leastPlace, below, rfl⟩
  · -- The first number with one bit more is a power of two, and so a single digit is enough.
    exact ⟨1, 53 + leastPlace, by decide, by rw [Nat.one_mul, Nat.pow_add]⟩

/-- An exact count is that of its double. -/
theorem units_ofRatio {numerator power : Nat} (below : power ≤ leastPlace)
    (same : count = numerator * 2 ^ (leastPlace - power)) (exact : IsExact count)
    (finite : count ≤ 2 ^ 53 * unitsOfOne) : (ofRatio numerator (2 ^ power)).units = count := by
  by_cases positive : numerator = 0
  · -- Zero has no first bit, and is the empty pattern.
    have zero : (⟨(0 : Nat).toUInt64⟩ : Double).units = 0 := by decide
    rw [same, positive, Nat.zero_mul, ofRatio, BinaryFormat.nearest, if_pos rfl, zero]
  have present : count ≠ 0 := by
    rw [same]
    exact Nat.mul_ne_zero positive (Nat.ne_of_gt (Nat.two_pow_pos _))
  have bits : count.log2 ≤ 53 + leastPlace := by
    refine Nat.le_of_lt_succ ((Nat.log2_lt present).mpr (Nat.lt_of_le_of_lt finite ?_))
    rw [unitsOfOne_eq, ← Nat.pow_add]
    exact Nat.pow_lt_pow_right (by decide) (Nat.lt_succ_self _)
  obtain ⟨digits, spelled, small, normal⟩ := BinaryFormat.exists_digits exact present
  rw [ofRatio, BinaryFormat.nearest_of_exact below same positive spelled small bits,
    BinaryFormat.units_of_digits small normal]
  · exact spelled.symm
  · have place : leastPlace = 1074 := rfl
    unfold BinaryFormat.excess
    omega

/-- A whole number of no more than fifty-three bits is a double as it is. -/
theorem units_ofInt (small : number ≤ 2 ^ 53) :
    (ofInt number).units = number * unitsOfOne := by
  have same : ofInt number = ofRatio number (2 ^ 0) := by
    have positive : ¬ (number : Int) < 0 := by omega
    simp [ofInt, ofRatio, BinaryFormat.nearestInt, BinaryFormat.withSign, positive]
  rw [same]
  exact units_ofRatio (Nat.zero_le _) (by rw [unitsOfOne_eq, Nat.sub_zero]) (isExact_whole small)
    (Nat.mul_le_mul_right _ small)

/-- A number that is not large leaves an exact count if a whole one is taken from it. -/
theorem isExact_sub {tokens : Double} (small : tokens.units ≤ 2 ^ 53 * unitsOfOne) :
    IsExact (tokens.units - number * unitsOfOne) := by
  obtain ⟨digits, exponent, spelled, few, normal⟩ := tokens.exists_units
  by_cases fine : exponent ≤ leastPlace
  · -- The digits count ones or parts of one, so that the whole number can be counted with them.
    have split : unitsOfOne = 2 ^ (leastPlace - exponent) * 2 ^ exponent := by
      rw [unitsOfOne_eq, ← Nat.pow_add, Nat.sub_add_cancel fine]
    refine ⟨digits - number * 2 ^ (leastPlace - exponent), exponent, by omega, ?_⟩
    rw [spelled, split, ← Nat.mul_assoc, ← Nat.mul_sub_right_distrib]
  · -- A number that counts more than ones is the greatest that is not large.
    have most : tokens.units = 2 ^ 53 * unitsOfOne := by
      refine Nat.le_antisymm small ?_
      have exponents : 2 ^ (leastPlace + 1) ≤ 2 ^ exponent :=
        Nat.pow_le_pow_right (by decide) (Nat.not_le.mp fine)
      calc 2 ^ 53 * unitsOfOne = 2 ^ 52 * 2 ^ (leastPlace + 1) := by
            rw [unitsOfOne_eq, ← Nat.pow_add, ← Nat.pow_add, ← Nat.add_assoc, Nat.add_right_comm]
        _ ≤ tokens.units := by
            rw [spelled]
            exact Nat.mul_le_mul (normal.resolve_left (by omega)) exponents
    rw [most, ← Nat.mul_sub_right_distrib]
    exact isExact_whole (Nat.sub_le ..)

/-- A whole number that is no greater is taken from one that is not large without rounding. -/
theorem units_minus {tokens wanted : Double} (whole : wanted.units = number * unitsOfOne)
    (enough : wanted.units ≤ tokens.units) (small : tokens.units ≤ 2 ^ 53 * unitsOfOne) :
    (tokens.minus wanted).units + number * unitsOfOne = tokens.units := by
  have rest : (tokens.minus wanted).units = tokens.units - wanted.units := by
    rw [minus, ofUnits, unitsOfOne_eq]
    exact units_ofRatio (Nat.le_refl _) (by rw [Nat.sub_self, Nat.pow_zero, Nat.mul_one])
      (whole ▸ isExact_sub small) (Nat.le_trans (Nat.sub_le ..) small)
  omega

end Double

end RemoteCall
