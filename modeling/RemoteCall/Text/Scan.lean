/-! Reading of a text from its front. -/

namespace RemoteCall

/-- A step that reads a text from its front, or finds that the text is not of the form it reads. -/
abbrev Scan := StateT (List Char) Option

namespace Scan

variable {α : Type}

/-- Reads one character that passes a test. -/
def one (test : Char → Bool) : Scan Char
  | [] => none
  | char :: rest => if test char then some (char, rest) else none

/-- Reads a given text. -/
def exactly : List Char → Scan Unit
  | [] => pure ()
  | char :: text => do
    let _ ← one (· == char)
    exactly text

/-- Reads all characters at the front that pass a test. -/
def run (test : Char → Bool) : Scan (List Char) := fun text =>
  some (text.takeWhile test, text.dropWhile test)

/-- Reads at least one character that passes a test, and all that follow it. -/
def someRun (test : Char → Bool) : Scan (List Char) := do
  let read ← run test
  guard (read ≠ [])
  return read

/-- Reads what a step reads, or nothing where it would not succeed. -/
def perhaps (step : Scan α) : Scan (Option α) :=
  (some <$> step) <|> pure none

/-- Repeats a step while it succeeds, so many times at most. -/
def upTo (step : Scan α) : (times : Nat) → Scan (List α)
  | 0, text => some ([], text)
  | times + 1, text =>
    match step text with
    | none => some ([], text)
    | some (item, rest) => (upTo step times rest).map fun (items, rest) => (item :: items, rest)

/-- Repeats a step that reads something while it succeeds. -/
def many (step : Scan α) : Scan (List α) := fun text =>
  -- Each turn takes at least one character, so there are no more turns than characters.
  upTo step text.length text

/-- Reads items with a separator between every two of them, and at least one item. -/
def separated (separator : Scan Unit) (item : Scan α) : Scan (List α) := do
  let first ← item
  return first :: (← many (do separator; item))

/-- Checks that nothing is left to read. -/
def finish : Scan Unit
  | [] => some ((), [])
  | _ :: _ => none

/-- What a step reads out of a whole text. -/
def whole (step : Scan α) (text : List Char) : Option α :=
  ((step <* finish) text).map Prod.fst

end Scan

end RemoteCall
