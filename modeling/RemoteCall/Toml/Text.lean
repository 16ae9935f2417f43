import RemoteCall.Text.Scan

/-! The characters of TOML documents: blanks, comments, strings and keys. -/

namespace RemoteCall.Toml

/-- A blank within a line. -/
def isBlank (char : Char) : Bool := char == ' ' || char == '\t'

/-- Neither a control character, except for the tab, nor the end of a line. -/
def isShown (char : Char) : Bool := char == '\t' || (' ' ≤ char && char != '\x7f')

/-- A hexadecimal digit, of either case. -/
def isHexDigit (char : Char) : Bool :=
  char.isDigit || ('a' ≤ char && char ≤ 'f') || ('A' ≤ char && char ≤ 'F')

/-- What a digit counts, in any base up to sixteen. -/
def digitValue (char : Char) : Nat :=
  if char.isDigit then char.toNat - '0'.toNat else char.toLower.toNat - 'a'.toNat + 10

/-- The number that a row of digits denotes in a base. -/
def rowValue (base : Nat) (row : List Char) : Nat :=
  row.foldl (fun number digit => number * base + digitValue digit) 0

open Scan

/-- Reads blanks within a line. -/
def blanks : Scan Unit := do
  let _ ← run isBlank

/-- Reads the end of a line that another may follow. -/
def lineFeed : Scan Unit :=
  exactly ['\n'] <|> exactly ['\r', '\n']

/-- Reads a comment. -/
def comment : Scan Unit := do
  exactly ['#']
  let _ ← run isShown

/-- Reads all that may follow the last word of a line, and the end of the line. -/
def lineEnd : Scan Unit := do
  blanks
  let _ ← perhaps comment
  lineFeed <|> finish

/-- Reads blanks, ends of lines and comments. -/
def gap : Scan Unit := do
  let blank : Scan Unit := do
    let _ ← someRun isBlank
  let _ ← many (blank <|> lineFeed <|> (do comment; lineFeed))

/-- Reads so many hexadecimal digits as the code of a character. -/
def charCode (digits : Nat) : Scan Char := do
  let row ← (List.replicate digits isHexDigit).mapM one
  let code := rowValue 16 row
  guard code.isValidChar
  return Char.ofNat code

/-- Reads a character that a backslash spells. -/
def escape : Scan Char := do
  exactly ['\\']
  match ← one fun _ => true with
  | 'b' => return '\x08'
  | 't' => return '\t'
  | 'n' => return '\n'
  | 'f' => return '\x0c'
  | 'r' => return '\r'
  | '"' => return '"'
  | '\\' => return '\\'
  | 'u' => charCode 4
  | 'U' => charCode 8
  | _ => failure

/-- Reads characters that stand for themselves where escapes are read. -/
def plain : Scan (List Char) :=
  someRun fun char => isShown char && char != '"' && char != '\\'

/-- Reads characters that stand for themselves where nothing else is read. -/
def verbatim : Scan (List Char) :=
  someRun fun char => isShown char && char != '\''

/-- Reads a string on one line. -/
def lineString : Scan (List Char) :=
  between '"' (plain <|> List.singleton <$> escape) <|> between '\'' verbatim
where
  between (quote : Char) (piece : Scan (List Char)) : Scan (List Char) := do
    exactly [quote]
    let pieces ← many piece
    exactly [quote]
    return pieces.flatten

/-- Reads the end of a line inside a string, which always counts as a line feed. -/
def innerLineFeed : Scan (List Char) := do
  lineFeed
  return ['\n']

/-- Reads a backslash at the end of a line, and all blanks and ends of lines up to the next word. -/
def continuation : Scan (List Char) := do
  exactly ['\\']
  blanks
  lineFeed
  let _ ← many (lineFeed <|> (do let _ ← someRun isBlank))
  return []

/--
Reads a string that may span lines, between three quotes on either side.

Inside, up to two quotes in a row stand for themselves; at the end, two may stand before the three
that close.
-/
def spanString : Scan (List Char) :=
  between '"' (plain <|> continuation <|> List.singleton <$> escape <|> innerLineFeed)
    <|> between '\'' (verbatim <|> innerLineFeed)
where
  between (quote : Char) (piece : Scan (List Char)) : Scan (List Char) := do
    exactly [quote, quote, quote]
    let _ ← perhaps lineFeed
    let quotes : Scan (List Char) := run (· == quote)
    let pieces ← many do
      let inner ← quotes
      guard (inner.length ≤ 2)
      return inner ++ (← piece)
    let closing ← quotes
    guard (3 ≤ closing.length ∧ closing.length ≤ 5)
    return pieces.flatten ++ closing.drop 3

/-- Reads a string of any kind. -/
def string : Scan String :=
  String.ofList <$> (spanString <|> lineString)

/-- Reads a key without dots. -/
def simpleKey : Scan String :=
  String.ofList <$> (lineString
    <|> someRun fun char => char.isAlphanum || char == '-' || char == '_')

/-- How many names a dotted key may have, and how deep values may nest. -/
def nestingLimit : Nat := 79

/-- The names of a dotted key: those of the tables on the way, and that of the entry itself. -/
structure Key where
  path : List String
  name : String
  deriving DecidableEq, Repr

/-- Reads a key, which may be dotted. -/
def key : Scan Key := do
  let names ← separated (exactly ['.']) do
    blanks
    let name ← simpleKey
    blanks
    return name
  guard (names.length ≤ nestingLimit)
  match names.getLast? with
  | some name => return { path := names.dropLast, name }
  | none => failure

end RemoteCall.Toml
