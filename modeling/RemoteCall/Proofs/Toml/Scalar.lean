import Mathlib.Data.List.Basic
import RemoteCall.Proofs.Toml.Quoting
import RemoteCall.Toml.Document

/-! Scalars at the end of a line are read back as what they were written from. -/

namespace RemoteCall.Toml

open Scan

variable {text after rest digits : List Char} {char : Char} {number : Nat} {integer : Int}

/-- Numbers are written in digits. -/
theorem isDigit_toDigits (number : Nat) : ∀ digit ∈ Nat.toDigits 10 number, digit.isDigit :=
  fun _ member => Nat.isDigit_of_mem_toDigits (by decide) (by decide) member

/-- A positive number is written without zeros in front. -/
theorem head_toDigits (positive : 0 < number) : (Nat.toDigits 10 number).head? ≠ some '0' := by
  induction number using Nat.strongRecOn with
  | ind number ih =>
    rw [Nat.toDigits_eq_if (by decide)]
    split
    · next small =>
      have nonzero : ∀ digit < 10, 0 < digit → digit.digitChar ≠ '0' := by decide
      simpa using nonzero number small positive
    · next large =>
      rw [List.head?_append_of_ne_nil _ Nat.toDigits_ne_nil]
      exact ih _ (by omega) (by omega)

/-- The digits that write a number denote it. -/
theorem rowValue_toDigits (number : Nat) : rowValue 10 (Nat.toDigits 10 number) = number := by
  have general (digits : List Char) (areDigits : ∀ digit ∈ digits, digit.isDigit) (start : Nat) :
      digits.foldl (fun number digit => number * 10 + digitValue digit) start =
        Nat.ofDigitChars 10 digits start := by
    induction digits generalizing start with
    | nil => rfl
    | cons digit digits ih =>
      have further := ih fun other member => areDigits other (List.mem_cons_of_mem _ member)
      rw [List.foldl_cons, Nat.ofDigitChars_cons, further, digitValue,
        if_pos (areDigits digit List.mem_cons_self), Nat.mul_comm]
  rw [rowValue, general _ (isDigit_toDigits number)]
  exact Nat.ofDigitChars_toDigits (by decide) (by decide)

/-- No underscores stand among digits. -/
theorem ne_underscore_of_isDigit (isDigit : char.isDigit) : char ≠ '_' := by
  rintro rfl
  exact absurd isDigit (by decide)

/-- Underscores are in order where there are none. -/
theorem isSpaced_digits (areDigits : ∀ digit ∈ digits, digit.isDigit) (some : digits ≠ [])
    (afterDigit : Bool) : isSpaced afterDigit digits = true := by
  induction digits generalizing afterDigit with
  | nil => exact absurd rfl some
  | cons digit digits ih =>
    have other := ne_underscore_of_isDigit (areDigits digit List.mem_cons_self)
    rw [isSpaced, if_neg (by simpa using other)]
    cases digits with
    | nil => rfl
    | cons next digits =>
      exact ih (fun other member => areDigits other (List.mem_cons_of_mem _ member)) (by simp) true

/-- The digits of a number at the end of a line are read as a whole. -/
theorem wholeRow_toDigits (number : Nat) (rest : List Char) :
    wholeRow (Nat.toDigits 10 number ++ '\n' :: rest) =
      some (Nat.toDigits 10 number, '\n' :: rest) := by
  have areDigits := isDigit_toDigits number
  have kept : (Nat.toDigits 10 number).filter (· != '_') = Nat.toDigits 10 number := by
    rw [List.filter_eq_self]
    intro digit member
    rw [bne_iff_ne]
    exact ne_underscore_of_isDigit (areDigits digit member)
  have leads : (Nat.toDigits 10 number).head? ≠ some '0' ∨ (Nat.toDigits 10 number).length = 1 := by
    rcases Nat.eq_zero_or_pos number with rfl | positive
    · exact Or.inr rfl
    · exact Or.inl (head_toDigits positive)
  have taken : run (fun char => char.isDigit || char == '_')
      (Nat.toDigits 10 number ++ '\n' :: rest) = some (Nat.toDigits 10 number, '\n' :: rest) :=
    run_append (fun digit member => by simp [areDigits digit member]) (by simp)
  have row : digitRow Char.isDigit (Nat.toDigits 10 number ++ '\n' :: rest) =
      some (Nat.toDigits 10 number, '\n' :: rest) := by
    simp [digitRow, taken, isSpaced_digits areDigits Nat.toDigits_ne_nil, kept]
  simp only [wholeRow, bind_apply, row, Option.bind_some, guard_apply, if_pos leads, pure_apply]

/-- A text opens with digits, if any, and then comes the end of the line. -/
def DigitLine (text : List Char) : Prop :=
  ∃ digits rest, (∀ digit ∈ digits, digit.isDigit) ∧ text = digits ++ '\n' :: rest

/-- The digits of a number may end a line. -/
theorem digitLine_toDigits (number : Nat) (rest : List Char) :
    DigitLine (Nat.toDigits 10 number ++ '\n' :: rest) :=
  ⟨_, _, isDigit_toDigits number, rfl⟩

namespace DigitLine

/-- Only digits and the end of the line open such a text. -/
theorem head_ne (line : DigitLine text) (other : char ≠ '\n' ∧ char.isDigit = false) :
    text.head? ≠ some char := by
  obtain ⟨digits, rest, areDigits, rfl⟩ := line
  cases digits with
  | nil => simpa using other.1.symm
  | cons digit digits =>
    intro same
    obtain rfl : digit = char := by simpa using same
    rw [areDigits _ List.mem_cons_self] at other
    exact absurd other.2 (by decide)

/-- Behind a digit, such a text goes on as one. -/
theorem after_digit (line : DigitLine text) (read : one Char.isDigit text = some (char, after)) :
    DigitLine after := by
  obtain ⟨digits, rest, areDigits, rfl⟩ := line
  cases digits with
  | nil => cases read
  | cons digit digits =>
    rw [List.cons_append, one_cons, if_pos (areDigits digit List.mem_cons_self)] at read
    cases read
    exact ⟨digits, rest, fun other member => areDigits other (List.mem_cons_of_mem _ member), rfl⟩

/-- Behind any number of digits, such a text goes on as one. -/
theorem after_digits {count : Nat} {row : List Char} (line : DigitLine text)
    (read : (List.replicate count Char.isDigit).mapM one text = some (row, after)) :
    DigitLine after := by
  induction count generalizing text row with
  | zero =>
    cases read
    exact line
  | succ count ih =>
    rw [List.replicate_succ, List.mapM_cons] at read
    simp only [bind_apply, pure_apply, Option.bind_eq_some_iff, Prod.exists] at read
    obtain ⟨digit, between, first, row, after, others, same⟩ := read
    cases same
    exact ih (line.after_digit first) others

/-- A number of fixed length is nothing but digits. -/
theorem after_fixedNumber {count least greatest : Nat} (line : DigitLine text)
    (read : fixedNumber count least greatest text = some (number, after)) : DigitLine after := by
  simp only [fixedNumber, bind_apply, guard_apply, pure_apply, Option.bind_eq_some_iff,
    Prod.exists] at read
  obtain ⟨row, between, digits, _, left, guarded, same⟩ := read
  split at guarded <;> cases guarded
  cases same
  exact line.after_digits digits

/-- A number that a mark other than a digit must follow is not read in such a text. -/
theorem no_mark {α : Type} (line : DigitLine text) (other : char ≠ '\n' ∧ char.isDigit = false)
    (count least greatest : Nat) (next : Nat → Scan α) :
    (do let number ← fixedNumber count least greatest
        exactly [char]
        next number : Scan α) text = none := by
  rw [bind_apply]
  cases read : fixedNumber count least greatest text with
  | none => rfl
  | some answer =>
    have noMark : exactly [char] answer.2 = none :=
      exactly_of_head ((line.after_fixedNumber read).head_ne other) []
    simp [noMark]

/-- Neither a date nor a time is read in such a text. -/
theorem moment (line : DigitLine text) : moment text = none := by
  have noDate : date text = none := line.no_mark (by decide) ..
  have noTime : time text = none := line.no_mark (by decide) ..
  simp [Toml.moment, perhaps_eq, noDate, noTime]

end DigitLine

/-- The sign that an integer is written with. -/
def signOf (integer : Int) : List Char := if integer < 0 then ['-'] else []

/-- An integer is written as its sign and the digits of its size. -/
theorem toList_toString (integer : Int) :
    (toString integer).toList = signOf integer ++ Nat.toDigits 10 integer.natAbs := by
  cases integer with
  | ofNat number =>
    change (Nat.repr number).toList = _
    simp [signOf, Nat.repr_eq_ofList_toDigits]
  | negSucc number =>
    change ("-" ++ Nat.repr (number + 1)).toList = _
    simp [signOf, Nat.repr_eq_ofList_toDigits, Int.negSucc_lt_zero]

/-- An integer as it is written at the end of a line. -/
def integerLine (integer : Int) (rest : List Char) : List Char :=
  signOf integer ++ (Nat.toDigits 10 integer.natAbs ++ '\n' :: rest)

/-- Only digits and a minus open an integer. -/
theorem head_integerLine (other : char ≠ '-' ∧ char ≠ '\n' ∧ char.isDigit = false) :
    (integerLine integer rest).head? ≠ some char := by
  unfold integerLine signOf
  split
  · simpa using other.1.symm
  · exact (digitLine_toDigits _ _).head_ne other.2

/-- An integer is not taken for a date or a time. -/
theorem moment_integerLine : moment (integerLine integer rest) = none := by
  unfold integerLine signOf
  split
  · -- A minus is no digit.
    have noNumber (count least greatest : Nat) (rest : List Char) :
        fixedNumber (count + 1) least greatest ('-' :: rest) = none := by
      simp only [fixedNumber, List.replicate_succ, List.mapM_cons, bind_apply, one_cons]
      rfl
    simp only [moment, perhaps_eq, date, time, List.singleton_append, bind_apply, noNumber,
      Option.bind_none, Option.bind_some]
  · exact (digitLine_toDigits _ _).moment

/-- The sign of an integer is read. -/
theorem sign_integerLine (integer : Int) (rest : List Char) :
    perhaps sign (integerLine integer rest) =
      some (if integer < 0 then some true else none,
        Nat.toDigits 10 integer.natAbs ++ '\n' :: rest) := by
  have line := digitLine_toDigits integer.natAbs rest
  unfold integerLine signOf
  split
  · simp [perhaps_eq, sign, exactly]
  · have noMinus := exactly_of_head (line.head_ne (by decide : '-' ≠ '\n' ∧ _)) []
    have noPlus := exactly_of_head (line.head_ne (by decide : '+' ≠ '\n' ∧ _)) []
    simp [perhaps_eq, sign, noMinus, noPlus]

/-- An integer is not taken for a floating-point number. -/
theorem float_integerLine : float (integerLine integer rest) = none := by
  have line := digitLine_toDigits integer.natAbs rest
  have noPlaces : perhaps fraction ('\n' :: rest) = some (none, '\n' :: rest) := by
    simp [perhaps_eq, fraction, exactly]
  have noPower : perhaps exponent ('\n' :: rest) = some (none, '\n' :: rest) := by
    simp [perhaps_eq, exponent]
  have noInf := exactly_of_head (line.head_ne (by decide : 'i' ≠ '\n' ∧ _)) ['n', 'f']
  have noNan := exactly_of_head (line.head_ne (by decide : 'n' ≠ '\n' ∧ _)) ['a', 'n']
  simp [float, finiteFloat, namedFloat, sign_integerLine, wholeRow_toDigits, noPlaces, noPower,
    noInf, noNan]

/-- An integer as it is written names no base. -/
theorem basedInteger_integerLine : basedInteger (integerLine integer rest) = none := by
  unfold integerLine signOf
  split
  · simp [basedInteger, exactly]
  · rcases Nat.eq_zero_or_pos integer.natAbs with zero | positive
    · -- A zero is followed by the end of the line, which is no base.
      rw [zero]
      simp [basedInteger, exactly]
    · have noZero : (Nat.toDigits 10 integer.natAbs ++ '\n' :: rest).head? ≠ some '0' := by
        rw [List.head?_append_of_ne_nil _ Nat.toDigits_ne_nil]
        exact head_toDigits positive
      simp [basedInteger, exactly_of_head noZero]

/-- An integer that fits a signed word is read back. -/
theorem integer_integerLine (number : Int64) (rest : List Char) :
    Toml.integer (integerLine number.toInt rest) = some (number, '\n' :: rest) := by
  have read :
      decimalInteger (integerLine number.toInt rest) = some (number.toInt, '\n' :: rest) := by
    simp only [decimalInteger, bind_apply, sign_integerLine, Option.bind_some, wholeRow_toDigits,
      rowValue_toDigits, pure_apply]
    by_cases negative : number.toInt < 0
    · -- The minus gives the size its sign back.
      have same : -(number.toInt.natAbs : Int) = number.toInt := by omega
      rw [if_pos negative, Option.getD_some, if_pos rfl, same]
    · have same : (number.toInt.natAbs : Int) = number.toInt := by omega
      rw [if_neg negative, Option.getD_none, if_neg Bool.false_ne_true, same]
  have low := number.le_toInt
  have high := number.toInt_lt
  simp [Toml.integer, basedInteger_integerLine, read]
  omega

/-- Only a quote opens a string. -/
theorem string_of_head (noDouble : text.head? ≠ some '"') (noSingle : text.head? ≠ some '\'') :
    Toml.string text = none := by
  simp [Toml.string, spanString, lineString, spanString.between, lineString.between,
    exactly_of_head noDouble, exactly_of_head noSingle]

/-- Only brackets and braces open values that hold others. -/
theorem value_of_head (noArray : text.head? ≠ some '[') (noTable : text.head? ≠ some '\x7b')
    (depth : Nat) : value depth text = scalar text := by
  cases depth with
  | zero => rfl
  | succ depth => simp [value, array, bracedTable, exactly_of_head noArray, exactly_of_head noTable]

/-- Only quotes open a quoted text. -/
theorem head_quote (text : String) (other : char ≠ '"' ∧ char ≠ '\'') :
    ((Scalar.quote text).toList ++ rest).head? ≠ some char := by
  have quoted : (Scalar.quote text).toList.head? = some '"' ∨
      (Scalar.quote text).toList.head? = some '\'' := by
    simp only [Scalar.quote]
    split <;> simp
  rcases quoted with double | single
  · simpa [List.head?_append, double] using other.1.symm
  · simpa [List.head?_append, single] using other.2.symm

/-- A quoted text is read back as a value. -/
theorem value_quote (text : String) (depth : Nat) (rest : List Char) :
    value depth ((Scalar.quote text).toList ++ '\n' :: rest) =
      some (.string text, '\n' :: rest) := by
  have read := @Scalar.string_quote ('\n' :: rest) text (by simp)
  rw [value_of_head (head_quote text (by decide)) (head_quote text (by decide))]
  simp [scalar, read]

/-- A flag is read back as a value. -/
theorem value_boolean (flag : Bool) (depth : Nat) (rest : List Char) :
    value depth ((if flag then "true" else "false").toList ++ '\n' :: rest) =
      some (.boolean flag, '\n' :: rest) := by
  cases flag with
  | true =>
    have noString : Toml.string ('t' :: 'r' :: 'u' :: 'e' :: '\n' :: rest) = none :=
      string_of_head (by simp) (by simp)
    have read : scalar ('t' :: 'r' :: 'u' :: 'e' :: '\n' :: rest) =
        some (.boolean true, '\n' :: rest) := by
      simp [scalar, noString, exactly]
    exact (value_of_head (by simp) (by simp) depth).trans read
  | false =>
    have noString : Toml.string ('f' :: 'a' :: 'l' :: 's' :: 'e' :: '\n' :: rest) = none :=
      string_of_head (by simp) (by simp)
    have read : scalar ('f' :: 'a' :: 'l' :: 's' :: 'e' :: '\n' :: rest) =
        some (.boolean false, '\n' :: rest) := by
      simp [scalar, noString, exactly]
    exact (value_of_head (by simp) (by simp) depth).trans read

/-- An integer is read back as a value, after all kinds that are tried before it. -/
theorem value_integer (number : Int64) (depth : Nat) (rest : List Char) :
    value depth ((toString number.toInt).toList ++ '\n' :: rest) =
      some (.integer number, '\n' :: rest) := by
  rw [toList_toString, List.append_assoc, ← integerLine]
  have noString : Toml.string (integerLine number.toInt rest) = none :=
    string_of_head (head_integerLine (by decide)) (head_integerLine (by decide))
  have noTrue : exactly "true".toList (integerLine number.toInt rest) = none :=
    exactly_of_head (head_integerLine (by decide)) ['r', 'u', 'e']
  have noFalse : exactly "false".toList (integerLine number.toInt rest) = none :=
    exactly_of_head (head_integerLine (by decide)) ['a', 'l', 's', 'e']
  rw [value_of_head (head_integerLine (by decide)) (head_integerLine (by decide))]
  simp only [scalar, orElse_apply, map_apply, bind_apply, noString, noTrue, noFalse,
    moment_integerLine, float_integerLine, integer_integerLine]
  rfl

/-- A scalar at the end of a line is read back. -/
theorem value_write (scalar : Scalar) (depth : Nat) (rest : List Char) :
    value depth (scalar.write.toList ++ '\n' :: rest) = some (scalar.toValue, '\n' :: rest) := by
  cases scalar with
  | string text => exact value_quote text depth rest
  | integer number => exact value_integer number depth rest
  | boolean flag => exact value_boolean flag depth rest

end RemoteCall.Toml
