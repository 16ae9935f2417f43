import RemoteCall.Proofs.Toml.Quoted
import RemoteCall.Toml.Sections

/-! Quoted texts are read back as they were, whichever quotes they are written with. -/

namespace RemoteCall.Toml

open Scan

/-- A character that stands for itself between double quotes. -/
def isPlain (char : Char) : Bool := isShown char && char != '"' && char != '\\'

/-- A character that stands for itself between apostrophes. -/
def isVerbatim (char : Char) : Bool := isShown char && char != '\''

/-- Reads a piece of a string between two double quotes. -/
def linePiece : Scan (List Char) := plain <|> List.singleton <$> escape

/-- Reads a piece of a string between three double quotes, the quotes in front of it aside. -/
def spanPiece : Scan (List Char) :=
  plain <|> continuation <|> List.singleton <$> escape <|> innerLineFeed

namespace Scalar

variable {step : Scan (List Char)} {quote char letter : Char} {allowed present : Nat}
  {text chars written rest : List Char}

/-- Four digits write the code of a control character. -/
theorem codeDigits_of_control : ∀ code < 128, isControl (Char.ofNat code) →
    (codeDigits (Char.ofNat code)).length = 4 ∧ (codeDigits (Char.ofNat code)).all isHexDigit ∧
      rowValue 16 (codeDigits (Char.ofNat code)) = code := by
  decide +kernel

/-- Control characters are spelled by their codes. -/
theorem escape_code (control : isControl char) (rest : List Char) :
    escape ('\\' :: 'u' :: (codeDigits char ++ rest)) = some (char, rest) := by
  have small : char.toNat < 128 := by
    simp only [isControl, Bool.or_eq_true, Bool.and_eq_true, beq_iff_eq, decide_eq_true_eq]
      at control
    rcases control with ⟨⟨below, -⟩, -⟩ | rfl
    · exact Nat.lt_trans (show char.toNat < 32 from below) (by decide)
    · decide
  have valid : char.toNat.isValidChar := char.valid
  have written := codeDigits_of_control char.toNat small
  rw [Char.ofNat_toNat] at written
  obtain ⟨four, digits, value⟩ := written control
  match code : codeDigits char, four with
  | [_, _, _, _], _ => simp_all [escape, exactly, charCode, List.replicate]

/-- The characters that a backslash stands before in a text with escapes. -/
def escapeLetters : List Char := ['"', '\\', 'b', 't', 'f', 'r', 'u']

/-- A character that is no quote is written as it is, or behind a backslash that spells it. -/
theorem escaped_cases (other : char ≠ '"') :
    escaped char = [char] ∧ (isPlain char ∨ char = '\n') ∨
      ∃ letter code, escaped char = '\\' :: letter :: code ∧ letter ∈ escapeLetters ∧
        ∀ rest, escape ('\\' :: letter :: (code ++ rest)) = some (char, rest) := by
  unfold escaped
  split
  · exact Or.inr ⟨'b', [], rfl, by decide, fun rest => by simp [escape, exactly]⟩
  · exact Or.inr ⟨'t', [], rfl, by decide, fun rest => by simp [escape, exactly]⟩
  · exact Or.inr ⟨'f', [], rfl, by decide, fun rest => by simp [escape, exactly]⟩
  · exact Or.inr ⟨'r', [], rfl, by decide, fun rest => by simp [escape, exactly]⟩
  · exact Or.inr ⟨'\\', [], rfl, by decide, fun rest => by simp [escape, exactly]⟩
  · by_cases control : isControl char
    · rw [if_pos control]
      exact Or.inr ⟨'u', codeDigits char, rfl, by decide, escape_code control⟩
    · -- Neither a control character nor a backslash: it stands for itself, or ends a line.
      rw [if_neg control]
      refine Or.inl ⟨rfl, ?_⟩
      grind [isControl, isShown, isPlain]

/-- A step reads each character that is spelled with a backslash. -/
def ReadsEscapes (step : Scan (List Char)) : Prop :=
  ∀ letter text char rest, letter ∈ escapeLetters →
    escape ('\\' :: letter :: text) = some (char, rest) →
      step ('\\' :: letter :: text) = some ([char], rest)

/-- A text with escapes is spelled where they are read, if line feeds are read as well. -/
theorem spelled_escapeText (escapes : ReadsEscapes step)
    (lineFeeds : '\n' ∈ chars → ∀ rest, step ('\n' :: rest) = some (['\n'], rest))
    (few : present ≤ allowed) :
    Spelled step '"' allowed isPlain present (escapeText allowed present chars) chars := by
  induction chars generalizing present with
  | nil => exact .nil few
  | cons char chars ih =>
    have further (present : Nat) (few : present ≤ allowed) :
        Spelled step '"' allowed isPlain present (escapeText allowed present chars) chars :=
      ih (fun member => lineFeeds (List.mem_cons_of_mem _ member)) few
    rw [escapeText]
    by_cases isQuote : char = '"'
    · subst isQuote
      rw [if_pos rfl]
      split
      · next fewer => exact .quote (further _ fewer)
      · -- So many quotes have just stood that the next one needs a backslash.
        have reads (rest : List Char) : escape ('\\' :: '"' :: rest) = some ('"', rest) := by
          simp [escape, exactly]
        exact .escaped ['"'] few (by decide)
          (fun rest => escapes _ _ _ _ (by decide) (reads rest)) (further 0 (Nat.zero_le _))
    · rw [if_neg isQuote]
      have others := further 0 (Nat.zero_le _)
      obtain ⟨same, passes | rfl⟩ | ⟨letter, code, same, member, reads⟩ := escaped_cases isQuote
      · rw [same]
        exact .kept few isQuote passes others
      · rw [same]
        exact .escaped [] few (by decide) (lineFeeds List.mem_cons_self) others
      · rw [same]
        exact .escaped (letter :: code) few (by decide)
          (fun rest => escapes _ _ _ _ member (reads rest)) others

/-- The longest run counts what a text before has ended in. -/
theorem present_le_longestRun (sought : Char) (present : Nat) (text : List Char) :
    present ≤ longestRun sought present text := by
  induction text generalizing present with
  | nil => exact Nat.le_refl _
  | cons char text ih =>
    rw [longestRun]
    split
    · exact Nat.le_trans (Nat.le_succ _) (ih _)
    · exact Nat.le_max_left ..

/-- A text that has no control characters is spelled by itself, if line feeds are read as well. -/
theorem spelled_self (few : longestRun '\'' present chars ≤ allowed)
    (shown : ∀ char ∈ chars, isShown char ∨ char = '\n')
    (lineFeeds : '\n' ∈ chars → ∀ rest, step ('\n' :: rest) = some (['\n'], rest)) :
    Spelled step '\'' allowed isVerbatim present chars chars := by
  induction chars generalizing present with
  | nil => exact .nil few
  | cons char chars ih =>
    have fewPresent := Nat.le_trans (present_le_longestRun ..) few
    have further (present : Nat) (few : longestRun '\'' present chars ≤ allowed) :
        Spelled step '\'' allowed isVerbatim present chars chars :=
      ih few (fun other member => shown other (List.mem_cons_of_mem _ member))
        fun member => lineFeeds (List.mem_cons_of_mem _ member)
    rw [longestRun] at few
    by_cases isQuote : char = '\''
    · subst isQuote
      rw [if_pos rfl] at few
      exact .quote (further _ few)
    · rw [if_neg isQuote] at few
      have others := further 0 (Nat.le_trans (Nat.le_max_right ..) few)
      rcases shown char List.mem_cons_self with passes | rfl
      · exact .kept fewPresent isQuote (by simp [isVerbatim, passes, isQuote]) others
      · exact .escaped [] fewPresent (by decide) (lineFeeds List.mem_cons_self) others

/-- Pieces between two double quotes may be escapes. -/
theorem readsEscapes_linePiece : ReadsEscapes linePiece := by
  intro letter text char rest _ reads
  have noPlain : plain ('\\' :: letter :: text) = none := someRun_of_other rfl
  simp [linePiece, noPlain, reads, List.singleton]

/-- Pieces between three double quotes may be escapes. -/
theorem readsEscapes_joinedPiece : ReadsEscapes (joinedPiece '"' spanPiece) := by
  intro letter text char rest member reads
  have noPlain : plain ('\\' :: letter :: text) = none := someRun_of_other rfl
  -- A backslash at the end of a line is tried first, but what follows is no end of a line.
  have others : letter ≠ '\n' ∧ letter ≠ '\r' ∧ isBlank letter = false := by
    simp only [escapeLetters, List.mem_cons, List.not_mem_nil, or_false] at member
    rcases member with rfl | rfl | rfl | rfl | rfl | rfl | rfl <;> decide
  obtain ⟨noLineFeed, noReturn, noBlank⟩ := others
  have noRun : run isBlank (letter :: text) = some ([], letter :: text) := by
    simp [run, noBlank]
  have noContinuation : continuation ('\\' :: letter :: text) = none := by
    simp [continuation, exactly, blanks, noRun, lineFeed, noLineFeed, noReturn]
  rw [joinedPiece_other (by decide)]
  simp [spanPiece, noPlain, noContinuation, reads, List.singleton]

/-- Line feeds stand for themselves between three quotes. -/
theorem innerLineFeed_lineFeed (rest : List Char) :
    innerLineFeed ('\n' :: rest) = some (['\n'], rest) := by
  simp [innerLineFeed, lineFeed, exactly]

/-- Pieces between three double quotes may be line feeds. -/
theorem joinedPiece_lineFeed (rest : List Char) :
    joinedPiece '"' spanPiece ('\n' :: rest) = some (['\n'], rest) := by
  have noPlain : plain ('\n' :: rest) = none := someRun_of_other rfl
  have noContinuation : continuation ('\n' :: rest) = none := by simp [continuation, exactly]
  have noEscape : escape ('\n' :: rest) = none := by simp [escape, exactly]
  rw [joinedPiece_other (by decide)]
  simp [spanPiece, noPlain, noContinuation, noEscape, innerLineFeed_lineFeed]

/-- Texts of one line are read back from between two double quotes. -/
theorem lineString_quote (oneLine : '\n' ∉ chars) :
    lineString ('"' :: (escapeText 0 0 chars ++ '"' :: rest)) = some (chars, rest) := by
  have runs : TakesRuns linePiece isPlain := (takesRuns_someRun isPlain).orElse _
  have ends : linePiece ('"' :: rest) = none := by
    have noPlain : plain ('"' :: rest) = none := someRun_of_other rfl
    simp [linePiece, noPlain, escape, exactly]
  have spelled : Spelled linePiece '"' 0 isPlain 0 (escapeText 0 0 chars) chars :=
    spelled_escapeText readsEscapes_linePiece (fun member => absurd member oneLine) (Nat.le_refl _)
  have read := lineString_between runs ends spelled
  unfold linePiece at read
  rw [lineString, orElse_apply, read, Option.some_or]

/-- Texts of one line without apostrophes are read back from between two of them. -/
theorem lineString_verbatim (singles : longestRun '\'' 0 chars ≤ 0) (oneLine : '\n' ∉ chars)
    (shown : ∀ char ∈ chars, isShown char ∨ char = '\n') :
    lineString ('\'' :: (chars ++ '\'' :: rest)) = some (chars, rest) := by
  have runs : TakesRuns verbatim isVerbatim := takesRuns_someRun isVerbatim
  have ends : verbatim ('\'' :: rest) = none := someRun_of_other rfl
  have spelled : Spelled verbatim '\'' 0 isVerbatim 0 chars chars :=
    spelled_self singles shown fun member => absurd member oneLine
  have notDouble : exactly ['"'] ('\'' :: (chars ++ '\'' :: rest)) = none :=
    exactly_of_head (by simp) []
  have read := lineString_between runs ends spelled
  rw [lineString, orElse_apply, read]
  simp [lineString.between, notDouble]

/-- The line feed that stands in front of a text of several lines. -/
def start (chars : List Char) : List Char := if '\n' ∈ chars then ['\n'] else []

/-- A text of one line has no line feed in front, and must not open with one either. -/
theorem start_cases
    (opens : '\n' ∉ chars → ∀ more, lineFeed (written ++ quote :: more) = none) :
    start chars = ['\n'] ∨
      start chars = [] ∧ ∀ more, lineFeed (written ++ quote :: more) = none := by
  by_cases member : '\n' ∈ chars
  · exact Or.inl (if_pos member)
  · exact Or.inr ⟨if_neg member, opens member⟩

/-- Lines end in two characters only. -/
theorem lineFeed_of_other (noLineFeed : char ≠ '\n') (noReturn : char ≠ '\r') :
    lineFeed (char :: text) = none := by
  simp [lineFeed, exactly, noLineFeed, noReturn]

/-- A text with escapes opens with no end of a line, if it has none. -/
theorem escapeText_opens (oneLine : '\n' ∉ chars) (more : List Char) :
    lineFeed (escapeText 2 0 chars ++ '"' :: more) = none := by
  cases chars with
  | nil => exact lineFeed_of_other (by decide) (by decide)
  | cons char chars =>
    have noLineFeed : char ≠ '\n' := fun same => oneLine (same ▸ List.mem_cons_self)
    rw [escapeText]
    by_cases isQuote : char = '"'
    · rw [if_pos isQuote]
      exact lineFeed_of_other (by decide) (by decide)
    · rw [if_neg isQuote]
      obtain ⟨same, passes⟩ | ⟨letter, code, same, -⟩ := escaped_cases isQuote
      · rw [same]
        refine lineFeed_of_other noLineFeed ?_
        rintro rfl
        revert passes
        decide
      · rw [same]
        exact lineFeed_of_other (by decide) (by decide)

/-- Texts are read back from between three double quotes, if no fourth one follows. -/
theorem spanString_quote (ends : ∀ char ∈ rest.head?, char ≠ '"') :
    spanString ('"' :: '"' :: '"' ::
      (start chars ++ (escapeText 2 0 chars ++ '"' :: '"' :: '"' :: rest))) =
        some (chars, rest) := by
  have runs : TakesRuns spanPiece isPlain := (takesRuns_someRun isPlain).orElse _
  have spelled : Spelled (joinedPiece '"' spanPiece) '"' 2 isPlain 0 (escapeText 2 0 chars) chars :=
    spelled_escapeText readsEscapes_joinedPiece (fun _ => joinedPiece_lineFeed) (Nat.zero_le _)
  have read := spanString_between runs (by decide) ends spelled (start_cases escapeText_opens)
  unfold spanPiece at read
  rw [spanString, orElse_apply, read, Option.some_or]

/-- Texts with up to two apostrophes in a row are read back from between three of them. -/
theorem spanString_verbatim (singles : longestRun '\'' 0 chars ≤ 2)
    (shown : ∀ char ∈ chars, isShown char ∨ char = '\n') (ends : ∀ char ∈ rest.head?, char ≠ '\'') :
    spanString ('\'' :: '\'' :: '\'' :: (start chars ++ (chars ++ '\'' :: '\'' :: '\'' :: rest))) =
      some (chars, rest) := by
  have runs : TakesRuns (verbatim <|> innerLineFeed) isVerbatim :=
    (takesRuns_someRun isVerbatim).orElse _
  have spelled :
      Spelled (joinedPiece '\'' (verbatim <|> innerLineFeed)) '\'' 2 isVerbatim 0 chars chars := by
    refine spelled_self singles shown fun _ rest => ?_
    have noVerbatim : verbatim ('\n' :: rest) = none := someRun_of_other rfl
    rw [joinedPiece_other (by decide), orElse_apply, noVerbatim, Option.none_or]
    exact innerLineFeed_lineFeed rest
  have opens : '\n' ∉ chars → ∀ more, lineFeed (chars ++ '\'' :: more) = none := by
    intro oneLine more
    cases chars with
    | nil => exact lineFeed_of_other (by decide) (by decide)
    | cons char chars =>
      refine lineFeed_of_other (fun same => oneLine (same ▸ List.mem_cons_self)) ?_
      rintro rfl
      exact absurd (shown '\r' List.mem_cons_self) (by decide)
  have notDouble : exactly ['"', '"', '"']
      ('\'' :: '\'' :: '\'' :: (start chars ++ (chars ++ '\'' :: '\'' :: '\'' :: rest))) = none :=
    exactly_of_head (by simp) _
  have read := spanString_between runs (by decide) ends spelled (start_cases opens)
  rw [spanString, orElse_apply, read]
  simp [spanString_between_eq, notDouble]

/-- A string between two quotes is not taken for one between three of them. -/
theorem spanString_of_line (opens : ∀ char ∈ text.head?, char ≠ quote)
    (ends : ∀ char ∈ rest.head?, char ≠ quote) :
    spanString (quote :: (text ++ quote :: rest)) = none := by
  have noThree (other : Char) :
      exactly [other, other, other] (quote :: (text ++ quote :: rest)) = none := by
    by_cases same : quote = other
    · subst same
      rw [exactly, bind_apply, one_cons, if_pos (beq_self_eq_true _), Option.bind_some]
      cases text with
      | nil =>
        -- No text at all: the second quote closes the string, and it is the last one.
        rw [List.nil_append, exactly, bind_apply, one_cons, if_pos (beq_self_eq_true _)]
        exact exactly_of_head (fun isQuote => ends quote isQuote rfl) []
      | cons first text =>
        have other : (first :: (text ++ quote :: rest)).head? ≠ some quote :=
          fun isQuote => opens quote isQuote rfl
        exact exactly_of_head other [quote]
    · exact exactly_of_head (by simpa using same) [other, other]
  simp [spanString, spanString_between_eq, noThree]

/-- What the chosen way to quote a text takes for granted. -/
theorem choose_cases (text : List Char) :
    match Quoting.choose text with
    | .basic => '\n' ∉ text
    | .verbatim =>
      '\n' ∉ text ∧ longestRun '\'' 0 text ≤ 0 ∧ ∀ char ∈ text, isShown char ∨ char = '\n'
    | .longBasic => True
    | .longVerbatim => longestRun '\'' 0 text ≤ 2 ∧ ∀ char ∈ text, isShown char ∨ char = '\n' := by
  have shown : (!text.any isControl) = true → ∀ char ∈ text, isShown char ∨ char = '\n' := by
    intro noControl char member
    have free : isControl char = false := by
      rw [Bool.not_eq_true', List.any_eq_false] at noControl
      simpa using noControl char member
    grind [isControl, isShown]
  unfold Quoting.choose
  grind

/-- A text with escapes opens with no quote, if none may stand as it is. -/
theorem head_escapeText (chars : List Char) :
    ∀ char ∈ (escapeText 0 0 chars).head?, char ≠ '"' := by
  cases chars with
  | nil => simp [escapeText]
  | cons char chars =>
    rw [escapeText]
    by_cases isQuote : char = '"'
    · simp [isQuote]
    · rw [if_neg isQuote]
      obtain ⟨same, -⟩ | ⟨letter, code, same, -⟩ := escaped_cases isQuote <;> simp [same, isQuote]

/-- A text without apostrophes opens with none. -/
theorem head_of_longestRun (singles : longestRun '\'' 0 chars ≤ 0) :
    ∀ char ∈ chars.head?, char ≠ '\'' := by
  cases chars with
  | nil => simp
  | cons char chars =>
    rw [longestRun] at singles
    split at singles
    · have counted := present_le_longestRun '\'' (0 + 1) chars
      omega
    · next other => simpa using other

/-- A text is written with the line feed that it begins with. -/
theorem toList_start (text : String) :
    (if text.toList.contains '\n' then "\n" else "").toList = start text.toList := by
  rw [start]
  by_cases member : '\n' ∈ text.toList
  · rw [if_pos (by simpa using member), if_pos member]
    rfl
  · rw [if_neg (by simpa using member), if_neg member]
    rfl

/-- A quoted text is read back, before anything but another quote. -/
theorem string_quote (text : String) (ends : ∀ char ∈ rest.head?, char ≠ '"' ∧ char ≠ '\'') :
    Toml.string ((Scalar.quote text).toList ++ rest) = some (text, rest) := by
  have granted := choose_cases text.toList
  have endsDouble : ∀ char ∈ rest.head?, char ≠ '"' := fun char first => (ends char first).1
  have endsSingle : ∀ char ∈ rest.head?, char ≠ '\'' := fun char first => (ends char first).2
  -- Three quotes are tried first, so what two quotes enclose must not be taken for them.
  cases way : Quoting.choose text.toList with
  | basic =>
    rw [way] at granted
    have written : (Scalar.quote text).toList ++ rest =
        '"' :: (escapeText 0 0 text.toList ++ '"' :: rest) := by
      simp [Scalar.quote, way]
    have notSpan := spanString_of_line (head_escapeText text.toList) endsDouble
    have read := @lineString_quote text.toList rest granted
    simp [Toml.string, written, notSpan, read]
  | verbatim =>
    rw [way] at granted
    obtain ⟨oneLine, singles, shown⟩ := granted
    have written : (Scalar.quote text).toList ++ rest = '\'' :: (text.toList ++ '\'' :: rest) := by
      simp [Scalar.quote, way]
    have notSpan := spanString_of_line (head_of_longestRun singles) endsSingle
    have read := @lineString_verbatim text.toList rest singles oneLine shown
    simp [Toml.string, written, notSpan, read]
  | longBasic =>
    have written : (Scalar.quote text).toList ++ rest = '"' :: '"' :: '"' ::
        (start text.toList ++ (escapeText 2 0 text.toList ++ '"' :: '"' :: '"' :: rest)) := by
      simp [Scalar.quote, way, ← toList_start]
    have read := @spanString_quote text.toList rest endsDouble
    simp [Toml.string, written, read]
  | longVerbatim =>
    rw [way] at granted
    obtain ⟨singles, shown⟩ := granted
    have written : (Scalar.quote text).toList ++ rest = '\'' :: '\'' :: '\'' ::
        (start text.toList ++ (text.toList ++ '\'' :: '\'' :: '\'' :: rest)) := by
      simp [Scalar.quote, way, ← toList_start]
    have read := spanString_verbatim singles shown endsSingle
    simp [Toml.string, written, read]

end Scalar

end RemoteCall.Toml
