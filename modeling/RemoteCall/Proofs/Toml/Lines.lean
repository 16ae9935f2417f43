import RemoteCall.Proofs.Toml.Scalar

/-! Lines of documents are read back as the headers and entries that they were written from. -/

namespace RemoteCall.Toml

open Scan

/-- A character of a name that needs no quotes. -/
def isBareChar (char : Char) : Bool := char.isAlphanum || char == '-' || char == '_'

/-- A name that needs no quotes. -/
def IsBare (name : String) : Prop := name.toList ≠ [] ∧ name.toList.all isBareChar

instance (name : String) : Decidable (IsBare name) := inferInstanceAs (Decidable (_ ∧ _))

/-- A text opens with a word, or is at its end. -/
def OpensWord (text : List Char) : Prop := ∀ char ∈ text.head?, char ∉ [' ', '\t', '#', '\n', '\r']

variable {text after rest : List Char} {char : Char} {name : String}
  {entry : String × Scalar} {entries : List (String × Scalar)}

/-- There are two kinds of blanks within a line. -/
theorem eq_of_isBlank (blank : isBlank char) : char = ' ' ∨ char = '\t' := by
  rcases (Bool.or_eq_true ..).mp blank with space | tab
  · exact Or.inl (beq_iff_eq.mp space)
  · exact Or.inr (beq_iff_eq.mp tab)

/-- Blanks are read up to the next other character. -/
theorem blanks_append (gap : List Char) (areBlank : ∀ char ∈ gap, isBlank char)
    (ends : ∀ char ∈ rest.head?, ¬ isBlank char) : blanks (gap ++ rest) = some ((), rest) := by
  rw [blanks, bind_apply, run_append areBlank ends]
  rfl

/-- There may be no blanks at all. -/
theorem blanks_of_head (ends : ∀ char ∈ text.head?, ¬ isBlank char) :
    blanks text = some ((), text) :=
  blanks_append [] (by simp) ends

namespace OpensWord

/-- No blanks stand in front of a word. -/
theorem blanks (opens : OpensWord text) : blanks text = some ((), text) := by
  refine blanks_of_head fun char first isBlank => opens char first ?_
  rcases eq_of_isBlank isBlank with rfl | rfl <;> simp

/-- A word is not the mark of anything that a line may end in. -/
theorem exactly_mark (opens : OpensWord text) (mark : char ∈ [' ', '\t', '#', '\n', '\r'])
    (more : List Char) : exactly (char :: more) text = none :=
  exactly_of_head (fun first => opens char first mark) more

end OpensWord

/-- Reads a line that holds nothing. -/
def emptyLine : Scan Unit := do
  blanks
  let _ ← perhaps comment
  lineFeed

/-- Lines that hold nothing are read one by one. -/
theorem emptyLines_eq : emptyLines = (many emptyLine >>= fun _ => pure ()) := rfl

namespace OpensWord

/-- A line that begins with a word is not empty. -/
theorem emptyLine (opens : OpensWord text) : emptyLine text = none := by
  have noComment : comment text = none := by simp [comment, opens.exactly_mark]
  have noLineFeed : lineFeed text = none := by simp [lineFeed, opens.exactly_mark]
  simp [Toml.emptyLine, opens.blanks, perhaps_eq, noComment, noLineFeed]

/-- No empty lines stand in front of a word. -/
theorem emptyLines (opens : OpensWord text) : emptyLines text = some ((), text) := by
  simp [emptyLines_eq, many_of_none opens.emptyLine]

/-- One empty line stands between a line feed and a word. -/
theorem emptyLines_lineFeed (opens : OpensWord text) :
    Toml.emptyLines ('\n' :: text) = some ((), text) := by
  have noBlanks : Toml.blanks ('\n' :: text) = some ((), '\n' :: text) :=
    blanks_of_head (by simp [isBlank])
  have isEmpty : Toml.emptyLine ('\n' :: text) = some ((), text) := by
    simp [Toml.emptyLine, noBlanks, perhaps_eq, comment, exactly, lineFeed]
  have turns : Turns Toml.emptyLine ('\n' :: text) [()] text :=
    .turn isEmpty (Nat.lt_succ_self _) (.done opens.emptyLine)
  simp [emptyLines_eq, turns.many]

end OpensWord

/-- A line feed ends a line. -/
theorem lineEnd_lineFeed (rest : List Char) : lineEnd ('\n' :: rest) = some ((), rest) := by
  have noBlanks : blanks ('\n' :: rest) = some ((), '\n' :: rest) :=
    blanks_of_head (by simp [isBlank])
  simp [lineEnd, noBlanks, perhaps_eq, comment, exactly, lineFeed]

namespace IsBare

/-- The characters of names have no other use. -/
theorem not_mark (bare : isBareChar char) :
    char ∉ [' ', '\t', '#', '\n', '\r', '"', '\'', '.', '[', '=', ']'] := by
  intro member
  simp only [List.mem_cons, List.not_mem_nil, or_false] at member
  rcases member with rfl | rfl | rfl | rfl | rfl | rfl | rfl | rfl | rfl | rfl | rfl <;>
    exact absurd bare (by decide)

/-- A name opens with one of its characters. -/
theorem head (bare : IsBare name) : ∀ char ∈ (name.toList ++ rest).head?, isBareChar char := by
  obtain ⟨some, areBare⟩ := bare
  rw [List.head?_append_of_ne_nil _ some]
  exact fun char first => List.all_eq_true.mp areBare char (List.mem_of_mem_head? first)

/-- A name is not taken for anything that another character opens. -/
theorem exactly_mark (bare : IsBare name)
    (mark : char ∈ [' ', '\t', '#', '\n', '\r', '"', '\'', '.', '[', '=', ']']) (more : List Char) :
    exactly (char :: more) (name.toList ++ rest) = none :=
  exactly_of_head (fun first => not_mark (bare.head char first) mark) more

/-- A name is a word. -/
theorem opensWord (bare : IsBare name) : OpensWord (name.toList ++ rest) := by
  intro char first mark
  exact not_mark (bare.head char first) (List.mem_append_left ['"', '\'', '.', '[', '=', ']'] mark)

/-- A name is read up to the first character that is not part of it. -/
theorem simpleKey (bare : IsBare name) (ends : ∀ char ∈ rest.head?, ¬ isBareChar char) :
    simpleKey (name.toList ++ rest) = some (name, rest) := by
  have noString : lineString (name.toList ++ rest) = none := by
    simp [lineString, lineString.between, bare.exactly_mark]
  have read := someRun_append bare.1 (List.all_eq_true.mp bare.2) ends
  unfold isBareChar at read
  simp [Toml.simpleKey, noString, read]

/-- A name is read as a key, with the blanks behind it. -/
theorem key (bare : IsBare name) (gap : List Char) (areBlank : ∀ char ∈ gap, isBlank char)
    {mark : Char} (closes : mark = '=' ∨ mark = ']') :
    key (name.toList ++ (gap ++ mark :: rest)) = some (⟨[], name⟩, mark :: rest) := by
  have blankNotBare : ∀ char, isBlank char → ¬ isBareChar char := by
    intro char blank
    rcases eq_of_isBlank blank with rfl | rfl <;> decide
  have facts : ¬ isBareChar mark ∧ ¬ isBlank mark ∧ mark ≠ '.' := by
    rcases closes with rfl | rfl <;> decide
  obtain ⟨markNotBare, markNotBlank, noDot⟩ := facts
  -- Whether there are blanks or not, no further character of a name follows.
  have ends : ∀ char ∈ (gap ++ mark :: rest).head?, ¬ isBareChar char := by
    cases gap with
    | nil => simpa using markNotBare
    | cons blank gap => simpa using blankNotBare blank (areBlank blank List.mem_cons_self)
  have skipped : blanks (gap ++ mark :: rest) = some ((), mark :: rest) :=
    blanks_append gap areBlank (by simpa using markNotBlank)
  have alone : exactly ['.'] (mark :: rest) = none := exactly_of_head (by simpa using noDot) []
  have fits : 1 ≤ nestingLimit := by decide
  simp only [Toml.key, separated, bind_apply, pure_apply, guard_apply, Option.bind_some,
    Option.bind_none, bare.opensWord.blanks, bare.simpleKey ends, skipped, many_of_none, alone,
    List.length_singleton, if_pos fits]
  rfl

end IsBare

/-- Neither a space nor a tab opens a scalar. -/
theorem head_write (scalar : Scalar) (rest : List Char) :
    ∀ char ∈ (scalar.write.toList ++ '\n' :: rest).head?, ¬ isBlank char := by
  intro char first blank
  have facts : (char ≠ '"' ∧ char ≠ '\'') ∧ (char ≠ '-' ∧ char ≠ '\n' ∧ char.isDigit = false) ∧
      char ≠ 't' ∧ char ≠ 'f' := by
    rcases eq_of_isBlank blank with rfl | rfl <;> decide
  obtain ⟨noQuote, noDigit, notTrue, notFalse⟩ := facts
  -- Each kind of scalar opens with characters of its own.
  cases scalar with
  | string text => exact head_quote text noQuote first
  | integer number =>
    rw [Scalar.write, toList_toString, List.append_assoc, ← integerLine] at first
    exact head_integerLine noDigit first
  | boolean flag =>
    cases flag with
    | true => exact notTrue.symm (by simpa [Scalar.write] using first)
    | false => exact notFalse.symm (by simpa [Scalar.write] using first)

/-- The line of an entry. -/
def entryLine (entry : String × Scalar) : List Char :=
  entry.1.toList ++ ' ' :: '=' :: ' ' :: (entry.2.write.toList ++ ['\n'])

/-- The lines of entries. -/
def entryLines (entries : List (String × Scalar)) : List Char := entries.flatMap entryLine

/-- Entries as they are read. -/
def keyed (entries : List (String × Scalar)) : List (Key × Value) :=
  entries.map fun entry => (⟨[], entry.1⟩, entry.2.toValue)

/-- Reads an entry, the end of its line and the empty lines behind it. -/
def entryStep : Scan (Key × Value) := do
  blanks
  let entry ← pair (value nestingLimit)
  lineEnd
  emptyLines
  return entry

/-- The entries of a table are read one by one, behind empty lines. -/
theorem lines_eq : lines = (emptyLines >>= fun _ => many entryStep) := rfl

/-- A key and a scalar are read back. -/
theorem pair_entry (bare : IsBare name) (scalar : Scalar) (depth : Nat) (rest : List Char) :
    pair (value depth)
      (name.toList ++ ' ' :: '=' :: ' ' :: (scalar.write.toList ++ '\n' :: rest)) =
        some ((⟨[], name⟩, scalar.toValue), '\n' :: rest) := by
  have readKey := @IsBare.key (' ' :: (scalar.write.toList ++ '\n' :: rest)) name bare [' ']
    (by simp [isBlank]) '=' (Or.inl rfl)
  rw [List.singleton_append] at readKey
  have readMark := exactly_append ['='] (' ' :: (scalar.write.toList ++ '\n' :: rest))
  rw [List.singleton_append] at readMark
  have skipped : blanks (' ' :: (scalar.write.toList ++ '\n' :: rest)) =
      some ((), scalar.write.toList ++ '\n' :: rest) :=
    blanks_append [' '] (by simp [isBlank]) (head_write scalar rest)
  simp [pair, readKey, readMark, skipped, value_write]

/-- An entry is read back, with the empty lines behind it. -/
theorem entryStep_entryLine (bare : IsBare entry.1) (further : emptyLines after = some ((), rest)) :
    entryStep (entryLine entry ++ after) = some ((⟨[], entry.1⟩, entry.2.toValue), rest) := by
  have opens : OpensWord (entryLine entry ++ after) := by
    rw [entryLine, List.append_assoc]
    exact bare.opensWord
  have read := pair_entry bare entry.2 nestingLimit after
  have written : entryLine entry ++ after =
      entry.1.toList ++ ' ' :: '=' :: ' ' :: (entry.2.write.toList ++ '\n' :: after) := by
    simp [entryLine]
  rw [← written] at read
  simp [entryStep, opens.blanks, read, lineEnd_lineFeed, further]

/-- Behind empty lines, if any, a text goes on with something other than an entry. -/
structure EndsEntries (text rest : List Char) : Prop where
  read : emptyLines text = some ((), rest)
  shorter : rest.length ≤ text.length
  done : entryStep rest = none

/-- Entries are read back one by one, whatever ends them. -/
theorem turns_entryLines (ends : EndsEntries after rest)
    (bare : ∀ entry ∈ entries, IsBare entry.1) :
    ∃ between, emptyLines (entryLines entries ++ after) = some ((), between) ∧
      between.length ≤ (entryLines entries ++ after).length ∧
      Turns entryStep between (keyed entries) rest := by
  induction entries with
  | nil => exact ⟨rest, ends.read, ends.shorter, .done ends.done⟩
  | cons entry entries ih =>
    -- An entry is read with the empty lines behind it, so those in front are none of its own.
    obtain ⟨between, read, shorter, turns⟩ :=
      ih fun other member => bare other (List.mem_cons_of_mem _ member)
    have bareEntry := bare entry List.mem_cons_self
    have opens : OpensWord (entryLine entry ++ (entryLines entries ++ after)) := by
      rw [entryLine, List.append_assoc]
      exact bareEntry.opensWord
    have some : 0 < (entryLine entry).length := by
      rw [entryLine, List.length_append, List.length_cons]
      omega
    have written : entryLines (entry :: entries) ++ after =
        entryLine entry ++ (entryLines entries ++ after) := by
      simp [entryLines]
    rw [written]
    refine ⟨_, opens.emptyLines, Nat.le_refl _, .turn (entryStep_entryLine bareEntry read) ?_ turns⟩
    rw [List.length_append]
    omega

/-- The entries of a table are read back. -/
theorem lines_entryLines (ends : EndsEntries after rest)
    (bare : ∀ entry ∈ entries, IsBare entry.1) :
    lines (entryLines entries ++ after) = some (keyed entries, rest) := by
  obtain ⟨between, read, -, turns⟩ := turns_entryLines ends bare
  rw [lines_eq, bind_apply, read, Option.bind_some, turns.many]

/-- No entry begins at the end of a document, nor with a header. -/
theorem entryStep_of_other (opens : ∀ char ∈ text.head?, char = '[') : entryStep text = none := by
  have word : OpensWord text := by
    intro char first
    rw [opens char first]
    decide
  have noName : someRun isBareChar text = none := by
    refine someRun_of_head fun char first => ?_
    rw [opens char first]
    decide
  unfold isBareChar at noName
  have noDouble : exactly ['"'] text = none :=
    exactly_of_head (fun first => absurd (opens _ first) (by decide)) []
  have noSingle : exactly ['\''] text = none :=
    exactly_of_head (fun first => absurd (opens _ first) (by decide)) []
  have noKey : simpleKey text = none := by
    simp [simpleKey, lineString, lineString.between, noDouble, noSingle, noName]
  simp only [entryStep, pair, key, separated, bind_apply, word.blanks, noKey, Option.bind_some,
    Option.bind_none]

/-- The header of a table is read back. -/
theorem header_table (bare : IsBare name) (rest : List Char) :
    header ('[' :: (name.toList ++ ']' :: rest)) = some (.table ⟨[], name⟩, rest) := by
  -- A second bracket would open an array of tables, and is tried first.
  have notTables : exactly ['[', '['] ('[' :: (name.toList ++ ']' :: rest)) = none :=
    bare.exactly_mark (by decide) []
  have opens := exactly_append ['['] (name.toList ++ ']' :: rest)
  have closes := exactly_append [']'] rest
  rw [List.singleton_append] at opens closes
  have readKey := @IsBare.key rest name bare [] (by simp) ']' (Or.inr rfl)
  rw [List.nil_append] at readKey
  simp [header, notTables, opens, readKey, closes]

/-- The lines of a table: its header, and then its entries. -/
def tableLines (name : String) (entries : List (String × Scalar)) : List Char :=
  '[' :: (name.toList ++ ']' :: '\n' :: entryLines entries)

/-- A table is read back, with its header. -/
theorem headedLines_tableLines (ends : EndsEntries after rest) (bareName : IsBare name)
    (bare : ∀ entry ∈ entries, IsBare entry.1) :
    headedLines (tableLines name entries ++ after) =
      some ((.table ⟨[], name⟩, keyed entries), rest) := by
  have opens : blanks (tableLines name entries ++ after) =
      some ((), '[' :: (name.toList ++ ']' :: '\n' :: (entryLines entries ++ after))) := by
    rw [tableLines, List.cons_append, List.append_assoc]
    exact blanks_of_head (by simp [isBlank])
  simp [headedLines, opens, header_table bareName, lineEnd_lineFeed, lines_entryLines ends bare]

end RemoteCall.Toml
