import Mathlib.Data.List.DropRight
import Mathlib.Data.Nat.Digits.Defs
import RemoteCall.Failure
import RemoteCall.Limits

/-! Which texts name a ceiling, and what becomes of a ceiling that no text names. -/

namespace RemoteCall

/-- A text is a core with white space around it, which does not itself begin or end with any. -/
def Stripped (text core : List Char) : Prop :=
  -- A core of nothing is all that white space alone leaves.
  ∃ before after, text = before ++ core ++ after ∧
    (∀ char ∈ before, isBlank char) ∧ (∀ char ∈ after, isBlank char) ∧
    (∀ char ∈ core.head?, ¬ isBlank char) ∧ ∀ char ∈ core.getLast?, ¬ isBlank char

/-- What is left of a text has its white space around it. -/
theorem stripped_trimBlank (text : List Char) : Stripped text (trimBlank text) := by
  -- White space is taken from the front, and then from the back of what that leaves.
  let front := text.dropWhile isBlank
  have core : trimBlank text = front.rdropWhile isBlank := rfl
  rw [core]
  refine ⟨text.takeWhile isBlank, front.rtakeWhile isBlank, ?_, ?_, ?_, ?_, ?_⟩
  · have whole : front.rdropWhile isBlank ++ front.rtakeWhile isBlank = front := by
      rw [List.rdropWhile, List.rtakeWhile, ← List.reverse_append, List.takeWhile_append_dropWhile,
        List.reverse_reverse]
    rw [List.append_assoc, whole, List.takeWhile_append_dropWhile]
  · exact fun char member => List.mem_takeWhile_imp member
  · exact fun char member => List.mem_rtakeWhile_imp member
  · -- What begins the core begins the text without its white space in front.
    intro char first
    obtain ⟨behind, whole⟩ := List.rdropWhile_prefix isBlank front
    have stands := List.head?_dropWhile_not isBlank text
    have begins : front.head? = some char := by
      rw [← whole, List.head?_append, first, Option.some_or]
    rw [begins] at stands
    simp [stands]
  · intro char last
    have stands := List.head?_dropWhile_not isBlank front.reverse
    rw [List.rdropWhile, List.getLast?_reverse] at last
    rw [last] at stands
    simp [stands]

/-- White space at the front is dropped up to where the text itself begins. -/
theorem dropWhile_isBlank_append {before core : List Char} (blank : ∀ char ∈ before, isBlank char)
    (stands : ∀ char ∈ core.head?, ¬ isBlank char) :
    (before ++ core).dropWhile isBlank = core := by
  rw [List.dropWhile_append_of_pos blank]
  cases core with
  | nil => rfl
  | cons char core => exact List.dropWhile_cons_of_neg (stands char rfl)

/-- There is only one core that white space is around. -/
theorem Stripped.trimBlank_eq {text core : List Char} (stripped : Stripped text core) :
    trimBlank text = core := by
  obtain ⟨before, after, rfl, blank, blankAfter, first, last⟩ := stripped
  have blankBack : ∀ char ∈ after.reverse, isBlank char := by simpa using blankAfter
  have lastBack : ∀ char ∈ core.reverse.head?, ¬ isBlank char := by simpa using last
  by_cases empty : core = []
  · -- Then white space is all that the text has.
    subst empty
    have all : ∀ char ∈ before ++ [] ++ after, isBlank char := by
      simpa [or_imp, forall_and] using And.intro blank blankAfter
    rw [trimBlank, List.dropWhile_eq_nil_iff.mpr all]
    rfl
  · have firstToo : ∀ char ∈ (core ++ after).head?, ¬ isBlank char := by
      rwa [List.head?_append_of_ne_nil core empty]
    rw [trimBlank, List.append_assoc, dropWhile_isBlank_append blank firstToo, List.reverse_append,
      dropWhile_isBlank_append blankBack lastBack, List.reverse_reverse]

namespace Decimal

/-- A text is one or more decimal digits, perhaps behind a plus sign, that denote a number. -/
def Denotes (text : List Char) (number : Nat) : Prop :=
  -- Zeros may come first; digits of other scripts are no digits here.
  ∃ sign digits, text = sign ++ digits ∧ (sign = [] ∨ sign = ['+']) ∧ digits ≠ [] ∧
    (∀ digit ∈ digits, '0' ≤ digit ∧ digit ≤ '9') ∧
    number = Nat.ofDigits 10 (digits.reverse.map fun digit => digit.toNat - '0'.toNat)

/-- The digits are those from zero to nine. -/
theorem isDigit_iff (char : Char) : char.isDigit ↔ '0' ≤ char ∧ char ≤ '9' := by
  simp [Char.isDigit, Char.le_def]

/-- Digits read from the front add up to the number that they denote. -/
theorem foldl_eq_ofDigits (digits : List Char) :
    digits.foldl (fun number digit => number * 10 + (digit.toNat - '0'.toNat)) 0 =
      Nat.ofDigits 10 (digits.reverse.map fun digit => digit.toNat - '0'.toNat) := by
  -- The last digit is the one that counts single units.
  induction digits using List.reverseRecOn with
  | nil => rfl
  | append_singleton digits digit ih =>
    rw [List.foldl_append, List.foldl_cons, List.foldl_nil, ih, List.reverse_append,
      List.reverse_singleton, List.singleton_append, List.map_cons, Nat.ofDigits_cons]
    simp only [Nat.add_comm, Nat.mul_comm]

/-- A row of digits is a number exactly if there are any and all are digits. -/
theorem natural?_eq_some_iff {digits : List Char} {number : Nat} :
    natural? digits = some number ↔
      digits ≠ [] ∧ (∀ digit ∈ digits, '0' ≤ digit ∧ digit ≤ '9') ∧
        number = Nat.ofDigits 10 (digits.reverse.map fun digit => digit.toNat - '0'.toNat) := by
  rw [natural?, foldl_eq_ofDigits, Option.ite_none_right_eq_some, Option.some.injEq, and_assoc,
    List.all_eq_true, eq_comm (b := number)]
  simp only [isDigit_iff]

/-- A plus sign is not a digit. -/
theorem natural?_plus (digits : List Char) : natural? ('+' :: digits) = none := by
  rw [natural?, if_neg]
  simp [Char.isDigit]

/-- Exactly the texts of digits, perhaps behind a plus sign, are read as what they denote. -/
theorem unsigned?_eq_some_iff {text : List Char} {number : Nat} :
    unsigned? text = some number ↔ Denotes text number := by
  constructor
  · intro read
    unfold unsigned? at read
    split at read
    · next digits => exact ⟨['+'], digits, rfl, .inr rfl, natural?_eq_some_iff.mp read⟩
    · next digits _ => exact ⟨[], text, rfl, .inl rfl, natural?_eq_some_iff.mp read⟩
  · rintro ⟨sign, digits, rfl, rfl | rfl, denotes⟩
    · have read := natural?_eq_some_iff.mpr denotes
      rw [List.nil_append]
      unfold unsigned?
      split
      -- Without a sign, the first character is a digit.
      · rw [natural?_plus] at read
        cases read
      · exact read
    · exact natural?_eq_some_iff.mpr denotes

end Decimal

/-- The setting that names a ceiling. -/
def Ceiling.setting : Ceiling → String
  | .messageSize => "WIRECALL_MAX_MESSAGE_SIZE"
  | .frameSize => "WIRECALL_MAX_FRAME_SIZE"
  | .recursionDepth => "WIRECALL_RECURSION_DEPTH"

namespace Limits

/-- The greatest value that is allowed under a ceiling. -/
def under (limits : Limits) : Ceiling → Nat
  | .messageSize => limits.messageSize
  | .frameSize => limits.frameSize
  | .recursionDepth => limits.depth

/-- A text names a ceiling: without the white space around it, it is a positive signed word. -/
def Names (text : String) (number : Nat) : Prop :=
  ∃ core, Stripped text.toList core ∧ Decimal.Denotes core number ∧
    1 ≤ number ∧ number ≤ 2 ^ 63 - 1

/-- Exactly the texts that name a ceiling are read as one. -/
theorem ceiling?_eq_some_iff {text : String} {number : Nat} :
    ceiling? text = some number ↔ Names text number := by
  have bounds : (0 < number ∧ number < 0x8000000000000000) ↔
      1 ≤ number ∧ number ≤ 2 ^ 63 - 1 := by
    omega
  simp only [ceiling?, Option.filter_eq_some_iff, Decimal.unsigned?_eq_some_iff, Bool.and_eq_true,
    decide_eq_true_eq, bounds]
  constructor
  · intro facts
    exact ⟨_, stripped_trimBlank _, facts⟩
  · rintro ⟨core, stripped, facts⟩
    rwa [stripped.trimBlank_eq]

/-- A ceiling is what its own setting names, and the default where that names none. -/
theorem ofLookup_under (lookup : String → Option String) (ceiling : Ceiling) :
    (ofLookup lookup).under ceiling =
      ((lookup ceiling.setting).bind ceiling?).getD (({} : Limits).under ceiling) := by
  cases ceiling with
  | messageSize => rfl
  | frameSize => rfl
  | recursionDepth => rfl

/-- Every ceiling lets something pass by default. -/
theorem default_under_pos (ceiling : Ceiling) : 0 < ({} : Limits).under ceiling := by
  cases ceiling with
  | messageSize => decide
  | frameSize => decide
  | recursionDepth => decide

/--
Whatever the settings say, every ceiling is positive and depends on its own setting alone.

It is the number that the setting names, and the default if the setting is missing or names none.
-/
theorem ofLookup_exact (lookup : String → Option String) (ceiling : Ceiling) :
    let resolved := (ofLookup lookup).under ceiling
    0 < resolved ∧
      (∀ other, other ceiling.setting = lookup ceiling.setting →
        (ofLookup other).under ceiling = resolved) ∧
      (∀ text, lookup ceiling.setting = some text → ∀ number, Names text number →
        resolved = number) ∧
      (∀ text, lookup ceiling.setting = some text → (∀ number, ¬ Names text number) →
        resolved = ({} : Limits).under ceiling) ∧
      (lookup ceiling.setting = none → resolved = ({} : Limits).under ceiling) := by
  intro resolved
  have read : resolved = _ := ofLookup_under lookup ceiling
  refine ⟨?_, fun other same => ?_, fun text set number names => ?_, fun text set nameless => ?_,
    fun unset => ?_⟩
  · rw [read]
    cases found : (lookup ceiling.setting).bind ceiling? with
    | none => exact default_under_pos ceiling
    | some number =>
      obtain ⟨text, -, named⟩ := Option.bind_eq_some_iff.mp found
      obtain ⟨_, _, _, positive, _⟩ := ceiling?_eq_some_iff.mp named
      exact positive
  · rw [read, ofLookup_under, same]
  · rw [read, set, Option.bind_some, ceiling?_eq_some_iff.mpr names, Option.getD_some]
  · have unread : ceiling? text = none := by
      rw [Option.eq_none_iff_forall_ne_some]
      exact fun number named => nameless number (ceiling?_eq_some_iff.mp named)
    rw [read, set, Option.bind_some, unread, Option.getD_none]
  · rw [read, unset, Option.bind_none, Option.getD_none]

/-- Signs, zeros and white space are no hindrance to a ceiling, and what does not fit is. -/
theorem ofLookup_exact_padded :
    let lookup : String → Option String := fun name =>
      if name = Ceiling.messageSize.setting then some "\u2003+00512\n"
      else if name = Ceiling.frameSize.setting then some "9223372036854775808"
      else none
    Names "\u2003+00512\n" 512 ∧ (ofLookup lookup).under .messageSize = 512 ∧
      (∀ number, ¬ Names "9223372036854775808" number) ∧
      (ofLookup lookup).under .frameSize = 16384000 ∧
      (ofLookup lookup).under .recursionDepth = 64 := by
  intro lookup
  have names : Names "\u2003+00512\n" 512 := ceiling?_eq_some_iff.mp (by decide +kernel)
  have unread : ceiling? "9223372036854775808" = none := by decide +kernel
  have nameless : ∀ number, ¬ Names "9223372036854775808" number := by
    intro number named
    rw [← ceiling?_eq_some_iff, unread] at named
    cases named
  obtain ⟨_, _, named, _⟩ := ofLookup_exact lookup .messageSize
  obtain ⟨_, _, _, other, _⟩ := ofLookup_exact lookup .frameSize
  obtain ⟨_, _, _, _, unset⟩ := ofLookup_exact lookup .recursionDepth
  exact ⟨names, named _ rfl 512 names, nameless, other _ rfl nameless, unset rfl⟩

end Limits

end RemoteCall
