import RemoteCall.Toml.Text
import RemoteCall.Toml.Value

/-! Tables under construction, which remember how each of them came about. -/

namespace RemoteCall.Toml

/-- How a table came about, which decides on what may still be added to it. -/
inductive Form where
  /-- By a header of its own, or between braces. -/
  | headed
  /-- As a table that the header of another one passes through. -/
  | implied
  /-- As a table that a dotted key passes through. -/
  | dotted
  deriving DecidableEq, Repr

/-- What a key of a table under construction stands for. -/
inductive Node where
  | value (content : Value)
  | table (form : Form) (entries : List (String × Node))
  /-- An array of tables, only the last of which may still be added to. -/
  | tables (complete : List Value) (last : List (String × Node))

namespace Node

/-- The entries of a table under construction. -/
abbrev Entries := List (String × Node)

mutual

/-- The value that a node amounts to. -/
def toValue : Node → Value
  | .value content => content
  | .table _ entries => .table (toTable entries)
  | .tables complete last => .array (complete ++ [.table (toTable last)])

/-- The table that entries amount to. -/
def toTable : Entries → Table
  | [] => []
  | (name, node) :: entries => (name, node.toValue) :: toTable entries

end

/-- The entry of a name. -/
def find? (entries : Entries) (name : String) : Option Node :=
  entries.lookup name

/-- Puts a node at a name, in the place of the one that is there, or else at the end. -/
def put (entries : Entries) (name : String) (node : Node) : Entries :=
  if (find? entries name).isSome then
    entries.map fun entry => if entry.1 = name then (name, node) else entry
  else entries ++ [(name, node)]

/--
Changes the table at the end of a path, and makes the tables that are missing on the way.

Headers lead through any table, and make implied ones. Dotted keys make dotted tables, and lead
through none that has a header of its own. Both enter an array of tables at its last table.
-/
def change (made : Form) (step : Form → Entries → Option Entries) :
    (path : List String) → Form → Entries → Option Entries
  | [], form, entries => step form entries
  | name :: path, _, entries => do
    let node ← match find? entries name with
      | none => pure (.table made (← change made step path made []))
      | some (.value _) => none
      | some (.table form inner) =>
        guard (made = .dotted → form ≠ .headed)
        pure (.table form (← change made step path form inner))
      | some (.tables complete last) =>
        pure (.tables complete (← change made step path .headed last))
    return put entries name node

/-- Adds an entry with a key that may be dotted to a table with a header or braces. -/
def addEntry (entries : Entries) (key : Key) (content : Value) : Option Entries :=
  let step (form : Form) (inner : Entries) : Option Entries := do
    -- Only dotted keys may add to the tables that dotted keys have made, and to no others.
    guard (form = .dotted ↔ key.path ≠ [])
    guard (find? inner key.name).isNone
    return inner ++ [(key.name, .value content)]
  change .dotted step key.path .headed entries

/-- Adds entries one after the other. -/
def addEntries (entries : Entries) (more : List (Key × Value)) : Option Entries :=
  more.foldlM (fun entries (key, content) => addEntry entries key content) entries

/-- Adds a table with a header; one that headers have only passed through so far is completed. -/
def addTable (document : Entries) (key : Key) (content : List (Key × Value)) : Option Entries :=
  let step (_ : Form) (parent : Entries) : Option Entries := do
    let inner ← match find? parent key.name with
      | none => pure []
      | some (.table .implied inner) => pure inner
      | some _ => none
    -- A completed table moves to the place of its header.
    let others := parent.filter (·.1 ≠ key.name)
    return others ++ [(key.name, .table .headed (← addEntries inner content))]
  change .implied step key.path .headed document

/-- Adds a table to an array of tables, which its first header makes. -/
def addToTables (document : Entries) (key : Key) (content : List (Key × Value)) : Option Entries :=
  let step (_ : Form) (parent : Entries) : Option Entries := do
    let complete ← match find? parent key.name with
      | none => pure []
      | some (.tables complete last) => pure (complete ++ [.table (toTable last)])
      | some _ => none
    return put parent key.name (.tables complete (← addEntries [] content))
  change .implied step key.path .headed document

end Node

end RemoteCall.Toml
