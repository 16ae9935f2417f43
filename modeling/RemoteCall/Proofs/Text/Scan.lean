import Mathlib.Data.Option.Basic
import RemoteCall.Text.Scan

/-! What steps come to that read a text from its front, once or as often as they succeed. -/

namespace RemoteCall.Scan

variable {α β : Type} {step : Scan α} {test : Char → Bool} {text rest : List Char}

@[simp] theorem pure_apply (item : α) (text : List Char) :
    (pure item : Scan α) text = some (item, text) := rfl

@[simp] theorem failure_apply (text : List Char) : (failure : Scan α) text = none := rfl

/-- A sequence reads with its first step, and then with the next one where the first left off. -/
@[simp] theorem bind_apply (first : Scan α) (next : α → Scan β) (text : List Char) :
    (first >>= next) text = (first text).bind fun read => next read.1 read.2 := rfl

@[simp] theorem map_apply (change : α → β) (step : Scan α) (text : List Char) :
    (change <$> step) text = (step text).map fun read => (change read.1, read.2) := by
  change (step text).bind _ = _
  cases step text <;> rfl

/-- The second of two steps reads where the first one does not succeed. -/
@[simp] theorem orElse_apply (first second : Scan α) (text : List Char) :
    (first <|> second) text = (first text).or (second text) := by
  change (first text).orElse _ = _
  cases first text <;> rfl

@[simp] theorem guard_apply (condition : Prop) [Decidable condition] (text : List Char) :
    (guard condition : Scan Unit) text = if condition then some ((), text) else none := by
  unfold guard
  split <;> rfl

@[simp] theorem one_nil (test : Char → Bool) : one test [] = none := rfl

@[simp] theorem one_cons (test : Char → Bool) (char : Char) (rest : List Char) :
    one test (char :: rest) = if test char then some (char, rest) else none := rfl

/-- A given text is read where it stands in front. -/
theorem exactly_append (front rest : List Char) :
    exactly front (front ++ rest) = some ((), rest) := by
  induction front with
  | nil => rfl
  | cons char front ih => simp [exactly, ih]

/-- The first character decides against a given text that begins differently. -/
theorem exactly_of_head {first : Char} (other : text.head? ≠ some first) (more : List Char) :
    exactly (first :: more) text = none := by
  cases text with
  | nil => rfl
  | cons char text =>
    have differs : char ≠ first := by simpa using other
    simp [exactly, differs]

/-- A run goes on up to the first character that does not pass. -/
theorem run_append {front : List Char} (passes : ∀ char ∈ front, test char)
    (ends : ∀ char ∈ rest.head?, ¬ test char) : run test (front ++ rest) = some (front, rest) := by
  rw [run, List.takeWhile_append_of_pos passes, List.dropWhile_append_of_pos passes]
  cases rest with
  | nil => simp
  | cons char rest =>
    have fails : ¬ test char := ends char rfl
    rw [List.takeWhile_cons_of_neg fails, List.dropWhile_cons_of_neg fails, List.append_nil]

/-- A run of at least one character goes on up to the first one that does not pass. -/
theorem someRun_append {front : List Char} (some : front ≠ []) (passes : ∀ char ∈ front, test char)
    (ends : ∀ char ∈ rest.head?, ¬ test char) :
    someRun test (front ++ rest) = Option.some (front, rest) := by
  simp [someRun, run_append passes ends, some]

/-- There is no run where the first character does not pass. -/
theorem someRun_of_head (ends : ∀ char ∈ text.head?, ¬ test char) : someRun test text = none := by
  have nothing : run test ([] ++ text) = some ([], text) := run_append (by simp) ends
  rw [List.nil_append] at nothing
  simp [someRun, nothing]

/-- A character that does not pass begins no run. -/
theorem someRun_of_other {char : Char} (fails : test char = false) :
    someRun test (char :: text) = none :=
  someRun_of_head (by simpa using fails)

/-- What may be missing is always read, if only as missing. -/
theorem perhaps_eq (step : Scan α) (text : List Char) :
    perhaps step text = match step text with
      | some (item, rest) => some (some item, rest)
      | none => some (none, text) := by
  rw [perhaps, orElse_apply, map_apply]
  cases step text <;> rfl

/-- A whole text is read by a step that leaves nothing of it. -/
theorem whole_eq (step : Scan α) (text : List Char) :
    whole step text = (step text).bind fun read => (finish read.2).map fun _ => read.1 := by
  change Option.map Prod.fst ((step text).bind fun read =>
    (finish read.2).bind fun done => some (read.1, done.2)) = _
  cases step text with
  | none => rfl
  | some read => cases finished : finish read.2 <;> simp [finished]

/-- The items of a step that is repeated while it succeeds, and the text that it stops at. -/
inductive Turns (step : Scan α) : List Char → List α → List Char → Prop
  | done {text : List Char} (ends : step text = none) : Turns step text [] text
  -- Each turn takes something, so that there are no more of them than characters.
  | turn {text between after : List Char} {item : α} {items : List α}
    (reads : step text = some (item, between)) (shorter : between.length < text.length)
    (turns : Turns step between items after) : Turns step text (item :: items) after

/-- Turns that are limited by the length of a text, or more loosely, are not limited at all. -/
theorem Turns.upTo {after : List Char} {items : List α} (turns : Turns step text items after)
    {times : Nat} (enough : text.length ≤ times) : upTo step times text = some (items, after) := by
  induction turns generalizing times with
  | done ends =>
    cases times with
    | zero => rfl
    | succ times => simp [Scan.upTo, ends]
  | turn reads shorter _ ih =>
    cases times with
    | zero => omega
    | succ times =>
      have further := @ih times (by omega)
      simp [Scan.upTo, reads, further]

/-- Repeating a step gives the items of its turns. -/
theorem Turns.many {after : List Char} {items : List α} (turns : Turns step text items after) :
    many step text = some (items, after) :=
  turns.upTo (Nat.le_refl _)

/-- A step that does not succeed once is repeated no times. -/
theorem many_of_none (ends : step text = none) : many step text = some ([], text) :=
  (Turns.done ends).many

/-- A step takes all characters that pass a test at once, where it finds one. -/
def TakesRuns (step : Scan (List Char)) (test : Char → Bool) : Prop :=
  ∀ char text, test char →
    step (char :: text) = some (char :: text.takeWhile test, text.dropWhile test)

/-- Runs are taken in runs. -/
theorem takesRuns_someRun (test : Char → Bool) : TakesRuns (someRun test) test := by
  intro char text passes
  simp [someRun, run, passes]

/-- What is taken in runs is not left to a second step. -/
theorem TakesRuns.orElse {first : Scan (List Char)} (runs : TakesRuns first test)
    (second : Scan (List Char)) : TakesRuns (first <|> second) test := by
  intro char text passes
  rw [orElse_apply, runs char text passes, Option.some_or]

/-- The turns of a step add up to characters, before a text that they stop at. -/
def Yields (step : Scan (List Char)) (text chars after : List Char) : Prop :=
  ∃ pieces, Turns step text pieces after ∧ pieces.flatten = chars

namespace Yields

variable {step : Scan (List Char)} {chars after : List Char}

/-- Where a step does not succeed, there are no characters. -/
theorem nil (ends : step text = none) : Yields step text [] text :=
  ⟨[], .done ends, rfl⟩

/-- The piece of one turn comes in front of the characters of those that follow. -/
theorem turn {piece between : List Char} (reads : step text = some (piece, between))
    (shorter : between.length < text.length) (yields : Yields step between chars after) :
    Yields step text (piece ++ chars) after := by
  obtain ⟨pieces, turns, rfl⟩ := yields
  exact ⟨piece :: pieces, .turn reads shorter turns, rfl⟩

/-- A character that is taken in runs may come in front of any others. -/
theorem cons {char : Char} (runs : TakesRuns step test) (passes : test char)
    (yields : Yields step text chars after) :
    Yields step (char :: text) (char :: chars) after := by
  have reads := runs char text passes
  cases text with
  | nil => exact yields.turn reads (Nat.lt_succ_self _)
  | cons next text =>
    by_cases passesToo : test next
    · -- The run that the next character begins now begins one character earlier.
      obtain ⟨pieces, turns, rfl⟩ := yields
      have readsNext := runs next text passesToo
      rw [List.takeWhile_cons_of_pos passesToo, List.dropWhile_cons_of_pos passesToo] at reads
      cases turns with
      | done ends =>
        rw [readsNext] at ends
        cases ends
      | turn readsToo shorter turns =>
        cases readsNext.symm.trans readsToo
        exact ⟨_, .turn reads (Nat.lt_succ_of_lt shorter) turns, rfl⟩
    · -- The character is a run of its own.
      rw [List.takeWhile_cons_of_neg passesToo, List.dropWhile_cons_of_neg passesToo] at reads
      exact yields.turn reads (Nat.lt_succ_self _)

end Yields

end RemoteCall.Scan
