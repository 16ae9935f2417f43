import RemoteCall.Toml.Value

/-! Documents of one level: named sections of texts, numbers and flags, and how they are written. -/

namespace RemoteCall.Toml

/-- A value that holds no others. -/
inductive Scalar where
  | string (text : String)
  | integer (number : Int64)
  | boolean (flag : Bool)
  deriving DecidableEq, Repr

/-- Sections by their names, each with its entries. -/
abbrev Sections := List (String × List (String × Scalar))

namespace Scalar

/-- A scalar among the values of all kinds. -/
def toValue : Scalar → Value
  | .string text => .string text
  | .integer number => .integer number
  | .boolean flag => .boolean flag

/-- The length of the longest run of a character, the text before having ended in so many. -/
def longestRun (sought : Char) : (present : Nat) → List Char → Nat
  | present, [] => present
  | present, char :: text =>
    if char = sought then longestRun sought (present + 1) text
    else max present (longestRun sought 0 text)

/-- A control character that no string holds as it is. -/
def isControl (char : Char) : Bool :=
  (char < ' ' && char != '\t' && char != '\n') || char == '\x7f'

/-- The ways to quote a string. -/
inductive Quoting where
  /-- Between double quotes, with escapes. -/
  | basic
  /-- Between apostrophes, with everything as it is. -/
  | verbatim
  /-- Between three double quotes, with escapes. -/
  | longBasic
  /-- Between three apostrophes, with everything as it is. -/
  | longVerbatim
  deriving DecidableEq, Repr

/-- The first way that leaves a text as it is; one that no way leaves as it is gets escapes. -/
def Quoting.choose (text : List Char) : Quoting :=
  let isPlain := !text.any isControl
  let isOneLine := !text.contains '\n'
  let noBackslash := !text.contains '\\'
  let doubles := longestRun '"' 0 text
  let singles := longestRun '\'' 0 text
  if isPlain && noBackslash && doubles == 0 && isOneLine then .basic
  else if isPlain && singles == 0 && isOneLine then .verbatim
  else if isPlain && noBackslash && doubles ≤ 2 then .longBasic
  else if isPlain && singles ≤ 2 then .longVerbatim
  else if isOneLine then .basic
  else .longBasic

/-- The digits of a character's code in upper-case hexadecimal, four at least. -/
def codeDigits (char : Char) : List Char :=
  let digits := (Nat.toDigits 16 char.toNat).map Char.toUpper
  List.replicate (4 - digits.length) '0' ++ digits

/-- A character that is no quote as it stands between double quotes. -/
def escaped (char : Char) : List Char :=
  match char with
  | '\x08' => ['\\', 'b']
  | '\t' => ['\\', 't']
  | '\x0c' => ['\\', 'f']
  | '\r' => ['\\', 'r']
  | '\\' => ['\\', '\\']
  | _ => if isControl char then ['\\', 'u'] ++ codeDigits char else [char]

/-- A text between double quotes, of which so many may stand in a row, so many having just stood. -/
def escapeText (allowed : Nat) : (present : Nat) → List Char → List Char
  | _, [] => []
  | present, char :: text =>
    if char = '"' then
      if present < allowed then '"' :: escapeText allowed (present + 1) text
      else '\\' :: '"' :: escapeText allowed 0 text
    else escaped char ++ escapeText allowed 0 text

/-- A text in quotes; one of several lines begins on a line of its own. -/
def quote (text : String) : String :=
  let chars := text.toList
  let start := if chars.contains '\n' then "\n" else ""
  match Quoting.choose chars with
  | .basic => "\"" ++ String.ofList (escapeText 0 0 chars) ++ "\""
  | .verbatim => "'" ++ text ++ "'"
  | .longBasic => "\"\"\"" ++ start ++ String.ofList (escapeText 2 0 chars) ++ "\"\"\""
  | .longVerbatim => "'''" ++ start ++ text ++ "'''"

/-- The text of a scalar. -/
def write : Scalar → String
  | .string text => quote text
  | .integer number => toString number.toInt
  | .boolean flag => if flag then "true" else "false"

end Scalar

namespace Sections

/-- The table that sections amount to. -/
def toTable (sections : Sections) : Table :=
  sections.map fun (name, entries) =>
    (name, .table (entries.map fun (key, scalar) => (key, scalar.toValue)))

/-- The lines of a section: its header, and then its entries. -/
def writeSection (name : String) (entries : List (String × Scalar)) : String :=
  s!"[{name}]\n" ++ String.join (entries.map fun (key, scalar) => s!"{key} = {scalar.write}\n")

/-- The text of sections whose names and keys need no quotes, with a blank line between them. -/
def write (sections : Sections) : String :=
  "\n".intercalate (sections.map fun (name, entries) => writeSection name entries)

end Sections

end RemoteCall.Toml
