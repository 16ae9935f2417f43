import RemoteCall.Text.Unprintable

/-! Text between double quotes, with everything that would not show spelled out. -/

namespace RemoteCall

/-- A code point in lower-case hexadecimal between braces. -/
private def codePoint (char : Char) : String :=
  "\\u\x7b" ++ String.ofList (Nat.toDigits 16 char.toNat) ++ "\x7d"

/-- A character as it stands inside double quotes. -/
def quotedChar (char : Char) : String :=
  match char with
  | '\x00' => "\\0"
  | '\t' => "\\t"
  | '\r' => "\\r"
  | '\n' => "\\n"
  | '"' => "\\\""
  | '\\' => "\\\\"
  | _ => if isUnprintable char then codePoint char else char.toString

/-- A string between double quotes. -/
def quoted (text : String) : String :=
  "\"" ++ String.join (text.toList.map quotedChar) ++ "\""

end RemoteCall
