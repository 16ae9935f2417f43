import Mathlib.Algebra.Ring.Nat
import Mathlib.Data.List.Induction
import RemoteCall.Frame.Packet

/-! Laws of byte sequences: fixed-width numbers, exact splits, and strings in UTF-8. -/

namespace RemoteCall.Bytes

/-- A number fills exactly the width it is given. -/
@[simp] theorem length_ofNatBE (width number : Nat) : (ofNatBE width number).length = width := by
  -- Every octet of the width takes one digit off the number.
  induction width generalizing number with
  | zero => rfl
  | succ width ih => simp [ofNatBE, ih]

/-- One more octet is one more digit at the low end. -/
theorem toNatBE_append_singleton (bytes : Bytes) (byte : UInt8) :
    toNatBE (bytes ++ [byte]) = toNatBE bytes * 256 + byte.toNat := by
  -- Reading goes from the high end to the low one, so the last octet comes in last.
  simp [toNatBE]

/-- A number reads back up to the digits that the width has no room for. -/
theorem toNatBE_ofNatBE (width number : Nat) :
    toNatBE (ofNatBE width number) = number % 256 ^ width := by
  -- Digits are written at the low end, so the number changes from step to step.
  induction width generalizing number with
  | zero => simp [ofNatBE, toNatBE, Nat.mod_one]
  | succ width ih =>
    -- The high digits are those of the quotient, and the last octet is the remainder.
    rw [ofNatBE, toNatBE_append_singleton, ih, UInt8.toNat_ofNat', Nat.pow_succ _ width,
      Nat.mul_comm (256 ^ width), Nat.mod_mul]
    omega

/-- A number that the width has room for reads back. -/
theorem toNatBE_ofNatBE_of_lt {width number : Nat} (fits : number < 256 ^ width) :
    toNatBE (ofNatBE width number) = number := by
  -- A number below the power of the width loses no digit.
  rw [toNatBE_ofNatBE, Nat.mod_eq_of_lt fits]

/-- Two octets hold the quotient and the remainder of a number by how many octets there are. -/
theorem ofNatBE_two (number : Nat) :
    ofNatBE 2 number = [UInt8.ofNat (number / 256), UInt8.ofNat number] := rfl

/-- Two octets are the two digits of a number. -/
theorem toNatBE_pair (high low : UInt8) : toNatBE [high, low] = 256 * high.toNat + low.toNat := by
  simp [toNatBE, Nat.mul_comm]

/-- A sequence of octets denotes a number below the power of its width. -/
theorem toNatBE_lt (bytes : Bytes) : toNatBE bytes < 256 ^ bytes.length := by
  -- Digits are added at the low end, so the induction takes the last octet off.
  induction bytes using List.reverseRecOn with
  | nil => simp [toNatBE]
  | append_singleton bytes byte ih =>
    have digit := byte.toNat_lt
    rw [toNatBE_append_singleton, List.length_append, List.length_singleton, Nat.pow_succ]
    omega

/-- Octets are the digits of the number that they denote, leading zeros included. -/
theorem ofNatBE_toNatBE (bytes : Bytes) : ofNatBE bytes.length (toNatBE bytes) = bytes := by
  -- Both directions work at the low end, which is where the induction takes an octet off.
  induction bytes using List.reverseRecOn with
  | nil => rfl
  | append_singleton bytes byte ih =>
    have digit := byte.toNat_lt
    -- The last octet is the remainder, and all the others are the quotient.
    have quotient : (toNatBE bytes * 256 + byte.toNat) / 256 = toNatBE bytes := by omega
    have lowest : UInt8.ofNat (toNatBE bytes * 256 + byte.toNat) = byte := by
      apply UInt8.toNat_inj.mp
      rw [UInt8.toNat_ofNat']
      omega
    rw [toNatBE_append_singleton, List.length_append, List.length_singleton, ofNatBE, quotient,
      lowest, ih]

/-- Octets of a width are exactly the digits of a number that fits the width. -/
theorem eq_ofNatBE_iff {width number : Nat} {bytes : Bytes} :
    bytes.length = width ∧ toNatBE bytes = number ↔
      number < 256 ^ width ∧ bytes = ofNatBE width number := by
  constructor
  · -- Octets fix the number, which is small because there are only so many of them.
    intro facts
    obtain ⟨rfl, rfl⟩ := facts
    exact ⟨toNatBE_lt bytes, (ofNatBE_toNatBE bytes).symm⟩
  · -- The number fixes the octets, which are as many as the width says.
    intro facts
    obtain ⟨fits, rfl⟩ := facts
    exact ⟨length_ofNatBE width number, toNatBE_ofNatBE_of_lt fits⟩

/-- A split of the exact length takes the front off, whatever follows it. -/
@[simp] theorem splitExact?_append (front rest : Bytes) :
    splitExact? front.length (front ++ rest) = some (front, rest) := by
  -- A front of the length that is asked for is there, so the split cannot fail.
  simp [splitExact?]

/-- A split of a length takes a front of that length off, whatever follows it. -/
theorem splitExact?_append_of_length {length : Nat} {front : Bytes}
    (whole : front.length = length) (rest : Bytes) :
    splitExact? length (front ++ rest) = some (front, rest) := by
  rw [← whole, splitExact?_append]

/-- A split is not disturbed by bytes that arrive later. -/
theorem splitExact?_append_right {length : Nat} {buffer front rest : Bytes}
    (split : splitExact? length buffer = some (front, rest)) (more : Bytes) :
    splitExact? length (buffer ++ more) = some (front, rest ++ more) := by
  -- The buffer is its front and its rest, and only the rest gets longer.
  obtain ⟨whole, rfl⟩ := Packet.splitExact?_eq_some split
  rw [List.append_assoc, splitExact?_append_of_length whole]

/-- Octets spell a string exactly when they are its octets. -/
theorem toString?_eq_ok_iff {bytes : Bytes} {text : String} :
    toString? bytes = .ok text ↔ bytes = ofString text := by
  -- Both checks of the octets are one and the same, so they are told apart together.
  unfold toString? String.fromUTF8?
  split
  · next found =>
    split at found
    · -- Valid octets become the string that is made of them.
      cases found
      simp only [Except.ok.injEq, ofString]
      constructor
      · intro same
        subst same
        rfl
      · intro same
        subst same
        rfl
    · cases found
  · next missing =>
    constructor
    · simp
    · -- The octets of a string are valid, so this case does not arise.
      intro same
      subst same
      have valid : (⟨(ofString text).toArray⟩ : ByteArray).IsValidUTF8 := text.isValidUTF8
      rw [dif_pos valid] at missing
      cases missing

/-- The octets of a string spell it. -/
@[simp] theorem toString?_ofString (text : String) : toString? (ofString text) = .ok text :=
  toString?_eq_ok_iff.mpr rfl

end RemoteCall.Bytes
