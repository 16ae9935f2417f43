import RemoteCall.Toml.Node
import RemoteCall.Toml.Number

/-! Reading of TOML documents. -/

namespace RemoteCall.Toml

open Scan

/-- Reads a key and its value. -/
def pair (value : Scan Value) : Scan (Key × Value) := do
  let key ← key
  exactly ['=']
  blanks
  return (key, ← value)

/-- Reads an array, which may span lines and end in a comma. -/
def array (value : Scan Value) : Scan (List Value) := do
  exactly ['[']
  let item : Scan Value := do
    gap
    let item ← value
    gap
    return item
  let items ← perhaps (separated (exactly [',']) item)
  if items.isSome then
    let _ ← perhaps (exactly [','])
  gap
  exactly [']']
  return items.getD []

/-- Reads a table between braces, which stays on one line but for its arrays. -/
def bracedTable (value : Scan Value) : Scan Table := do
  exactly ['\x7b']
  let entry : Scan (Key × Value) := do
    let entry ← pair value
    blanks
    return entry
  let entries := (← perhaps (separated (exactly [',']) entry)).getD []
  blanks
  exactly ['\x7d']
  match Node.addEntries [] entries with
  | some entries => return Node.toTable entries
  | none => failure

/-- Reads a value that holds no others. -/
def scalar : Scan Value :=
  Value.string <$> string
    <|> (do exactly "true".toList; return .boolean true)
    <|> (do exactly "false".toList; return .boolean false)
    <|> Value.moment <$> moment
    <|> Value.float <$> float
    <|> Value.integer <$> integer

/-- Reads a value in which others nest to a depth. -/
def value : (depth : Nat) → Scan Value
  | 0 => scalar
  | depth + 1 =>
    Value.array <$> array (value depth) <|> Value.table <$> bracedTable (value depth) <|> scalar

/-- A header, which opens a table or adds one to an array of tables. -/
inductive Header where
  | table (key : Key)
  | tables (key : Key)
  deriving DecidableEq, Repr

/-- Reads a header. -/
def header : Scan Header :=
  (do exactly ['[', '[']; let key ← key; exactly [']', ']']; return .tables key)
    <|> (do exactly ['[']; let key ← key; exactly [']']; return .table key)

/-- Reads lines that hold nothing. -/
def emptyLines : Scan Unit := do
  let _ ← many (do blanks; let _ ← perhaps comment; lineFeed)

/-- Reads the entries of one table, each on a line. -/
def lines : Scan (List (Key × Value)) := do
  emptyLines
  many do
    blanks
    let entry ← pair (value nestingLimit)
    lineEnd
    emptyLines
    return entry

/-- Reads a header and the entries below it. -/
def headedLines : Scan (Header × List (Key × Value)) := do
  blanks
  let header ← header
  lineEnd
  return (header, ← lines)

/-- Reads a document: the entries before all headers, and those below each of the headers. -/
def documentLines : Scan (List (Key × Value) × List (Header × List (Key × Value))) := do
  let _ ← perhaps (exactly ['\ufeff'])
  let entries ← lines
  let headed ← many headedLines
  blanks
  let _ ← perhaps comment
  return (entries, headed)

/-- The table that a document describes, or none when its text is no document. -/
def Table.parse? (text : String) : Option Table := do
  let (entries, headed) ← whole documentLines text.toList
  let root ← Node.addEntries [] entries
  let document ← headed.foldlM (fun document (header, entries) =>
    match header with
    | .table key => Node.addTable document key entries
    | .tables key => Node.addToTables document key entries) root
  return Node.toTable document

end RemoteCall.Toml
