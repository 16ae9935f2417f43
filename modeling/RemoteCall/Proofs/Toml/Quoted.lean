import RemoteCall.Proofs.Text.Scan
import RemoteCall.Toml.Text

/-! Strings between quotes of one kind are read as the characters that are spelled there. -/

namespace RemoteCall.Toml

open Scan

/-- A step reads what stands between quotes, so many of which may follow one another there. -/
structure Quoted (step : Scan (List Char)) (quote : Char) (allowed : Nat) (test : Char → Bool) :
    Prop where
  runs : TakesRuns step test
  -- Quotes that stand as they are join the piece behind them.
  joins : ∀ {present first text item between}, present ≤ allowed → first ≠ quote →
    step (first :: text) = some (item, between) →
      step (List.replicate present quote ++ first :: text) =
        some (List.replicate present quote ++ item, between)

/-- How characters are spelled between quotes, behind so many quotes that stand as they are. -/
inductive Spelled (step : Scan (List Char)) (quote : Char) (allowed : Nat) (test : Char → Bool) :
    Nat → List Char → List Char → Prop
  | nil {present : Nat} (few : present ≤ allowed) : Spelled step quote allowed test present [] []
  | quote {present : Nat} {written chars : List Char}
    (spelled : Spelled step quote allowed test (present + 1) written chars) :
    Spelled step quote allowed test present (quote :: written) (quote :: chars)
  | kept {present : Nat} {char : Char} {written chars : List Char} (few : present ≤ allowed)
    (other : char ≠ quote) (passes : test char)
    (spelled : Spelled step quote allowed test 0 written chars) :
    Spelled step quote allowed test present (char :: written) (char :: chars)
  | escaped {present : Nat} {first char : Char} (code : List Char) {written chars : List Char}
    (few : present ≤ allowed) (other : first ≠ quote)
    (reads : ∀ rest, step (first :: (code ++ rest)) = some ([char], rest))
    (spelled : Spelled step quote allowed test 0 written chars) :
    Spelled step quote allowed test present (first :: (code ++ written)) (char :: chars)

variable {step piece : Scan (List Char)} {quote first char : Char} {allowed present : Nat}
  {test : Char → Bool} {text written chars start rest : List Char}

/-- Quotes that stand as they are come in front of the characters of the turns behind them. -/
theorem Quoted.joined (quoted : Quoted step quote allowed test) (few : present ≤ allowed)
    (other : first ≠ quote) (yields : Yields step (first :: text) (char :: chars) rest) :
    Yields step (List.replicate present quote ++ first :: text)
      (List.replicate present quote ++ char :: chars) rest := by
  obtain ⟨pieces, turns, same⟩ := yields
  cases turns with
  | done ends => cases same
  | turn reads shorter turns =>
    rw [← same, List.flatten_cons, ← List.append_assoc]
    refine Yields.turn (quoted.joins few other reads) ?_ ⟨_, turns, rfl⟩
    rw [List.length_append]
    exact Nat.lt_add_left _ shorter

/--
What is spelled between quotes is read up to the quotes that close it.

Quotes that stand as they are at the end of a text are left with those that close it.
-/
theorem Spelled.yields (spelled : Spelled step quote allowed test present written chars)
    (quoted : Quoted step quote allowed test) (closing : List Char)
    (ends : ∀ left ≤ allowed, step (List.replicate left quote ++ closing) = none) :
    ∃ left ≤ allowed, ∃ read,
      Yields step (List.replicate present quote ++ (written ++ closing)) read
        (List.replicate left quote ++ closing) ∧
      List.replicate present quote ++ chars = read ++ List.replicate left quote := by
  induction spelled with
  | @nil present few =>
    exact ⟨present, few, [], Yields.nil (ends present few), List.append_nil _⟩
  | @quote present written chars _ ih =>
    -- One more quote now stands as it is.
    have another (more : List Char) : List.replicate present quote ++ quote :: more =
        List.replicate (present + 1) quote ++ more := by
      rw [List.replicate_succ', List.append_assoc, List.singleton_append]
    rw [List.cons_append, another, another]
    exact ih
  | kept few other passes _ ih =>
    obtain ⟨left, fewLeft, read, yields, same⟩ := ih
    refine ⟨left, fewLeft, _, quoted.joined few other (yields.cons quoted.runs passes), ?_⟩
    rw [List.append_assoc]
    exact congrArg (List.replicate _ quote ++ _ :: ·) same
  | escaped code few other reads _ ih =>
    obtain ⟨left, fewLeft, read, yields, same⟩ := ih
    rw [List.cons_append, List.append_assoc]
    refine ⟨left, fewLeft, _, quoted.joined few other (yields.turn (reads _) ?_), ?_⟩
    · simp only [List.replicate_zero, List.nil_append, List.length_cons, List.length_append]
      omega
    · rw [List.append_assoc]
      exact congrArg (List.replicate _ quote ++ _ :: ·) same

/-- A step that takes characters in runs reads what stands between single quotes. -/
theorem quoted_of_takesRuns (runs : TakesRuns step test) : Quoted step quote 0 test where
  runs := runs
  joins := by
    intro present first text item between none _ reads
    obtain rfl := Nat.le_zero.mp none
    exact reads

/-- A string between two quotes is read as the characters that are spelled there. -/
theorem lineString_between (runs : TakesRuns step test) (ends : step (quote :: rest) = none)
    (spelled : Spelled step quote 0 test 0 written chars) :
    lineString.between quote step (quote :: (written ++ quote :: rest)) = some (chars, rest) := by
  have endsAtOnce : ∀ left ≤ 0, step (List.replicate left quote ++ quote :: rest) = none := by
    intro left none
    obtain rfl := Nat.le_zero.mp none
    exact ends
  obtain ⟨left, none, read, yields, same⟩ :=
    spelled.yields (quoted_of_takesRuns runs) (quote :: rest) endsAtOnce
  obtain rfl := Nat.le_zero.mp none
  obtain ⟨pieces, turns, rfl⟩ := yields
  rw [List.replicate_zero, List.nil_append, List.append_nil] at same
  rw [List.replicate_zero, List.nil_append, List.nil_append] at turns
  simp [lineString.between, exactly, turns.many, same]

/-- Reads a piece of a string between three quotes, with the quotes in front of it. -/
def joinedPiece (quote : Char) (piece : Scan (List Char)) : Scan (List Char) := do
  let inner ← run (· == quote)
  guard (inner.length ≤ 2)
  return inner ++ (← piece)

/-- Between three quotes, pieces are read with the quotes in front of them. -/
theorem spanString_between_eq (quote : Char) (piece : Scan (List Char)) :
    spanString.between quote piece = do
      exactly [quote, quote, quote]
      let _ ← perhaps lineFeed
      let pieces ← many (joinedPiece quote piece)
      let closing ← run (· == quote)
      guard (3 ≤ closing.length ∧ closing.length ≤ 5)
      return pieces.flatten ++ closing.drop 3 := rfl

/-- Quotes are read up to the first other character. -/
theorem run_quotes (present : Nat) (ends : ∀ char ∈ text.head?, char ≠ quote) :
    run (· == quote) (List.replicate present quote ++ text) =
      some (List.replicate present quote, text) :=
  run_append (by simp) (by simpa using ends)

/-- Up to two quotes come in front of the piece behind them. -/
theorem joinedPiece_quotes (few : present ≤ 2) (other : first ≠ quote) :
    joinedPiece quote piece (List.replicate present quote ++ first :: text) =
      (piece (first :: text)).map fun read => (List.replicate present quote ++ read.1, read.2) := by
  have quotes := @run_quotes quote (first :: text) present (by simpa using other)
  rw [joinedPiece, bind_apply, quotes]
  cases read : piece (first :: text) <;> simp [few, read]

/-- A piece without quotes in front of it is read as such. -/
theorem joinedPiece_other (other : first ≠ quote) :
    joinedPiece quote piece (first :: text) = piece (first :: text) := by
  have same := @joinedPiece_quotes piece quote first 0 text (Nat.zero_le 2) other
  simpa using same

/-- Three quotes and more come in front of no piece. -/
theorem joinedPiece_of_many (many : 2 < present) (ends : ∀ char ∈ rest.head?, char ≠ quote) :
    joinedPiece quote piece (List.replicate present quote ++ rest) = none := by
  have tooMany : ¬ present ≤ 2 := by omega
  rw [joinedPiece, bind_apply, run_quotes present ends]
  simp [tooMany]

/-- A step that takes characters in runs reads what stands between three quotes on either side. -/
theorem quoted_joinedPiece (runs : TakesRuns piece test) (other : ¬ test quote) :
    Quoted (joinedPiece quote piece) quote 2 test where
  runs := by
    intro char text passes
    have differs : char ≠ quote := by
      rintro rfl
      exact other passes
    rw [joinedPiece_other differs]
    exact runs char text passes
  joins := by
    intro present first text item between few differs reads
    rw [joinedPiece_other differs] at reads
    rw [joinedPiece_quotes few differs, reads]
    rfl

/-- A line feed behind the quotes that open a string is not part of it. -/
theorem perhaps_lineFeed_start
    (opens : start = ['\n'] ∨ start = [] ∧ lineFeed text = none) :
    ∃ found, perhaps lineFeed (start ++ text) = some (found, text) := by
  rcases opens with rfl | ⟨rfl, ends⟩
  · exact ⟨some (), by simp [perhaps_eq, lineFeed, exactly]⟩
  · exact ⟨none, by simp [perhaps_eq, ends]⟩

/-- A string between three quotes is read as the characters that are spelled there. -/
theorem spanString_between (runs : TakesRuns piece test) (noQuote : ¬ test quote)
    (ends : ∀ char ∈ rest.head?, char ≠ quote)
    (spelled : Spelled (joinedPiece quote piece) quote 2 test 0 written chars)
    (opens : start = ['\n'] ∨ start = [] ∧ ∀ more, lineFeed (written ++ quote :: more) = none) :
    spanString.between quote piece
      (quote :: quote :: quote :: (start ++ (written ++ quote :: quote :: quote :: rest))) =
        some (chars, rest) := by
  -- The quotes at the end of the text and those that close it form one row.
  have row (left : Nat) : List.replicate left quote ++ quote :: quote :: quote :: rest =
      List.replicate (left + 3) quote ++ rest := by
    rw [← List.replicate_append_replicate, List.append_assoc]
    rfl
  have endsAtThree : ∀ left ≤ 2, joinedPiece quote piece
      (List.replicate left quote ++ quote :: quote :: quote :: rest) = none := by
    intro left _
    rw [row]
    exact joinedPiece_of_many (by omega) ends
  obtain ⟨left, few, read, yields, same⟩ :=
    spelled.yields (quoted_joinedPiece runs noQuote) _ endsAtThree
  obtain ⟨pieces, turns, rfl⟩ := yields
  rw [row, List.replicate_zero, List.nil_append] at turns
  rw [List.replicate_zero, List.nil_append] at same
  obtain ⟨found, opened⟩ := perhaps_lineFeed_start
    (opens.imp_right fun ⟨isEmpty, noLineFeed⟩ => ⟨isEmpty, noLineFeed (quote :: quote :: rest)⟩)
  have opening := exactly_append [quote, quote, quote]
    (start ++ (written ++ quote :: quote :: quote :: rest))
  have fits : left + 3 ≤ 5 := by omega
  simp only [List.cons_append, List.nil_append] at opening
  simp [spanString_between_eq, opening, opened, turns.many, run_quotes (left + 3) ends, fits, same]

end RemoteCall.Toml
