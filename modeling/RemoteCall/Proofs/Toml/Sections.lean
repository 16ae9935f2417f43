import RemoteCall.Proofs.Toml.Lines
import RemoteCall.Toml.Format

/-! Documents of named sections are read back as the tables that they were written from. -/

namespace RemoteCall.Toml

open Scan

variable {name : String}

namespace Node

variable {document entries : Entries} {more : List (String × Scalar)}

/-- A name that no entry has is not found. -/
theorem find?_eq_none (fresh : name ∉ entries.map Prod.fst) : find? entries name = none := by
  rw [find?, List.lookup_eq_none_iff]
  intro entry member
  have differs : name ≠ entry.1 := fun same => fresh (same ▸ List.mem_map_of_mem member)
  simpa using differs

/-- The head of what is appended to a list of names is not among them. -/
theorem fresh_of_nodup {others : List String}
    (distinct : (entries.map Prod.fst ++ name :: others).Nodup) : name ∉ entries.map Prod.fst := by
  intro member
  exact (List.nodup_append.mp distinct).2.2 name member name List.mem_cons_self rfl

/-- A new key without dots is added at the end. -/
theorem addEntry_plain (fresh : name ∉ entries.map Prod.fst) (content : Value) :
    addEntry entries ⟨[], name⟩ content = some (entries ++ [(name, .value content)]) := by
  simp [addEntry, change, find?_eq_none fresh]

/-- Scalars as the nodes that they are added as. -/
def ofScalars (more : List (String × Scalar)) : Entries :=
  more.map fun entry => (entry.1, .value entry.2.toValue)

/-- New keys without dots are added in order. -/
theorem addEntries_keyed (distinct : (entries.map Prod.fst ++ more.map Prod.fst).Nodup) :
    addEntries entries (keyed more) = some (entries ++ ofScalars more) := by
  induction more generalizing entries with
  | nil => simp [addEntries, keyed, ofScalars]
  | cons entry more ih =>
    have added := addEntry_plain (fresh_of_nodup distinct) entry.2.toValue
    have further := @ih (entries ++ [(entry.1, .value entry.2.toValue)]) (by simpa using distinct)
    rw [List.append_assoc] at further
    change (addEntry entries ⟨[], entry.1⟩ entry.2.toValue >>= (addEntries · (keyed more))) = _
    rw [added]
    exact further

/-- A section as the node that it is added as. -/
def ofSection (part : String × List (String × Scalar)) : String × Node :=
  (part.1, .table .headed (ofScalars part.2))

/-- A new header without dots adds a table at the end. -/
theorem addTable_keyed (fresh : name ∉ document.map Prod.fst)
    (distinct : (more.map Prod.fst).Nodup) :
    addTable document ⟨[], name⟩ (keyed more) =
      some (document ++ [(name, .table .headed (ofScalars more))]) := by
  have added : addEntries [] (keyed more) = some (ofScalars more) := addEntries_keyed distinct
  have kept : document.filter (·.1 ≠ name) = document := by
    rw [List.filter_eq_self]
    intro entry member
    have differs : entry.1 ≠ name := fun same => fresh (same ▸ List.mem_map_of_mem member)
    simpa using differs
  simp only [addTable, change, find?_eq_none fresh, kept, pure_bind, added]
  rfl

end Node

namespace Sections

/-- Names and keys need no quotes, and none occurs twice among sections or within one of them. -/
structure Plain (sections : Sections) : Prop where
  bareNames : ∀ part ∈ sections, IsBare part.1
  bareKeys : ∀ part ∈ sections, ∀ entry ∈ part.2, IsBare entry.1
  distinctNames : (sections.map Prod.fst).Nodup
  distinctKeys : ∀ part ∈ sections, (part.2.map Prod.fst).Nodup

/-- The characters of the text of sections. -/
def chars : Sections → List Char
  | [] => []
  | [(name, entries)] => tableLines name entries
  | (name, entries) :: next :: others => tableLines name entries ++ '\n' :: chars (next :: others)

/-- Sections as they are read. -/
def headed (sections : Sections) : List (Header × List (Key × Value)) :=
  sections.map fun part => (.table ⟨[], part.1⟩, keyed part.2)

/-- Sections are written as these characters. -/
theorem toList_write (sections : Sections) : sections.write.toList = sections.chars := by
  have section_eq (part : String × List (String × Scalar)) :
      (writeSection part.1 part.2).toList = tableLines part.1 part.2 := by
    have entry_eq : (fun entry : String × Scalar => (s!"{entry.1} = {entry.2.write}\n").toList) =
        entryLine := by
      funext entry
      change (entry.1 ++ " = " ++ entry.2.write ++ "\n").toList = _
      simp [entryLine]
    change ("[" ++ part.1 ++ "]\n" ++
      String.join (part.2.map fun entry => s!"{entry.1} = {entry.2.write}\n")).toList = _
    rw [String.toList_append, String.toList_join, List.flatMap_map, entry_eq]
    simp [tableLines, entryLines]
  rw [write, String.toList_intercalate]
  induction sections with
  | nil => rfl
  | cons part sections ih =>
    cases sections with
    | nil => simp [section_eq, chars]
    | cons next others =>
      simp only [List.map_cons, List.intercalate_cons_cons, section_eq, chars] at ih ⊢
      rw [ih, List.append_assoc]
      rfl

/-- Only a bracket opens the text of sections. -/
theorem head_chars (sections : Sections) : ∀ char ∈ sections.chars.head?, char = '[' := by
  cases sections with
  | nil => simp [chars]
  | cons part sections => cases sections <;> simp [chars, tableLines]

/-- The text of sections opens with a word. -/
theorem opensWord_chars (sections : Sections) : OpensWord sections.chars := by
  intro char first
  rw [sections.head_chars char first]
  decide

/-- Sections are read one after the other. -/
theorem turns_chars (sections : Sections) (bareNames : ∀ part ∈ sections, IsBare part.1)
    (bareKeys : ∀ part ∈ sections, ∀ entry ∈ part.2, IsBare entry.1) :
    Turns headedLines sections.chars sections.headed [] := by
  induction sections with
  | nil =>
    refine .done ?_
    simp [headedLines, chars, blanks, run, header, exactly]
  | cons part sections ih =>
    have further := ih (fun other member => bareNames other (List.mem_cons_of_mem _ member))
      fun other member => bareKeys other (List.mem_cons_of_mem _ member)
    have bareName := bareNames part List.mem_cons_self
    have bare := bareKeys part List.mem_cons_self
    cases sections with
    | nil =>
      have ends : EndsEntries [] [] := ⟨rfl, Nat.le_refl _, entryStep_of_other (by simp)⟩
      have read := headedLines_tableLines ends bareName bare
      rw [List.append_nil] at read
      exact .turn read (Nat.zero_lt_succ _) further
    | cons next others =>
      -- A blank line stands between this section and the next one.
      have ends : EndsEntries ('\n' :: chars (next :: others)) (chars (next :: others)) :=
        ⟨(opensWord_chars _).emptyLines_lineFeed, Nat.le_succ _, entryStep_of_other (head_chars _)⟩
      have read := headedLines_tableLines ends bareName bare
      refine .turn read ?_ further
      rw [chars, List.length_append, List.length_cons]
      omega

/-- The text of sections is read as a whole. -/
theorem documentLines_chars (sections : Sections) (bareNames : ∀ part ∈ sections, IsBare part.1)
    (bareKeys : ∀ part ∈ sections, ∀ entry ∈ part.2, IsBare entry.1) :
    whole documentLines sections.chars = some ([], sections.headed) := by
  have opens := sections.head_chars
  have noMark : exactly ['\ufeff'] sections.chars = none :=
    exactly_of_head (fun first => absurd (opens _ first) (by decide)) []
  have noLines : lines sections.chars = some ([], sections.chars) := by
    rw [lines_eq, bind_apply, sections.opensWord_chars.emptyLines, Option.bind_some,
      many_of_none (entryStep_of_other opens)]
  have headed := (turns_chars sections bareNames bareKeys).many
  have atEnd : blanks [] = some ((), []) := rfl
  have noComment : comment [] = none := rfl
  have done : documentLines sections.chars = some (([], sections.headed), []) := by
    simp [documentLines, perhaps_eq, noMark, noLines, headed, atEnd, noComment]
  rw [whole_eq, done]
  rfl

/-- Sections of different names are added one after the other. -/
theorem addTables_headed {document : Node.Entries} (sections : Sections)
    (distinct : (document.map Prod.fst ++ sections.map Prod.fst).Nodup)
    (distinctKeys : ∀ part ∈ sections, (part.2.map Prod.fst).Nodup) :
    sections.headed.foldlM (fun document part =>
      match part.1 with
      | .table key => Node.addTable document key part.2
      | .tables key => Node.addToTables document key part.2) document =
        some (document ++ sections.map Node.ofSection) := by
  induction sections generalizing document with
  | nil => simp [headed]
  | cons part sections ih =>
    have added := Node.addTable_keyed (Node.fresh_of_nodup distinct)
      (distinctKeys part List.mem_cons_self)
    have further := @ih (document ++ [Node.ofSection part])
      (by simpa [Node.ofSection] using distinct)
      fun other member => distinctKeys other (List.mem_cons_of_mem _ member)
    rw [List.append_assoc] at further
    rw [headed, List.map_cons, List.foldlM_cons]
    change (Node.addTable document ⟨[], part.1⟩ (keyed part.2) >>= _) = _
    rw [added]
    exact further

/-- Scalars amount to themselves. -/
theorem toTable_ofScalars (entries : List (String × Scalar)) :
    Node.toTable (Node.ofScalars entries) =
      entries.map fun entry => (entry.1, entry.2.toValue) := by
  induction entries with
  | nil => rfl
  | cons entry entries ih =>
    rw [List.map_cons, ← ih]
    rfl

/-- The nodes of sections amount to the table of the sections. -/
theorem toTable_ofSection (sections : Sections) :
    Node.toTable (sections.map Node.ofSection) = sections.toTable := by
  induction sections with
  | nil => rfl
  | cons part sections ih =>
    change (part.1, Value.table (Node.toTable (Node.ofScalars part.2))) ::
      Node.toTable (sections.map Node.ofSection) = _
    rw [toTable_ofScalars, ih]
    rfl

/-- Sections that need no quotes are read back from their text. -/
theorem parse?_write (sections : Sections) (plain : sections.Plain) :
    Table.parse? sections.write = some sections.toTable := by
  have read := documentLines_chars sections plain.bareNames plain.bareKeys
  have root : Node.addEntries [] [] = some [] := rfl
  have added := @addTables_headed [] sections plain.distinctNames plain.distinctKeys
  rw [Table.parse?, toList_write, read]
  change (Node.addEntries [] [] >>= fun root => sections.headed.foldlM _ root >>= _) = _
  rw [root]
  exact (congrArg (Option.bind · _) added).trans (congrArg some (toTable_ofSection sections))

end Sections

namespace Format

/-- Sections that need no quotes are read back from their text, whatever values they have. -/
def RoundTrips (format : Format) : Prop :=
  ∀ sections : Sections, sections.Plain →
    format.parse? (format.write sections) = some sections.toTable

/-- The standard format loses nothing. -/
theorem standard_roundTrips : standard.RoundTrips :=
  fun sections plain => sections.parse?_write plain

end Format

end RemoteCall.Toml
