import Hydration.Text.Printable

/-!
# Quoted text

A text in quotes in which every character is visible: the quote, the
backslash, the tabulator, the line ends and the null character have short
escapes, and every other character that does not stand for itself is written
as its code point.
-/

namespace Hydration.Text.Quoted

/-- A character that is written as its code point. -/
def codePoint (c : Char) : String :=
  "\\u\x7b" ++ String.ofList (Nat.toDigits 16 c.toNat) ++ "\x7d"

/-- A character inside quotes. -/
def escape (c : Char) : String :=
  match c with
  | '"' => "\\\""
  | '\\' => "\\\\"
  | '\n' => "\\n"
  | '\r' => "\\r"
  | '\t' => "\\t"
  | c =>
    if c.toNat = 0 then "\\0"
    else if isPrintable c then String.singleton c
    else codePoint c

/-- A text in quotes. -/
def encode (text : String) : String := "\"" ++ String.join (text.toList.map escape) ++ "\""

end Hydration.Text.Quoted
