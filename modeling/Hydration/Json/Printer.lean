import Hydration.Json.Basic

/-!
# Printing JSON

Compact text without spaces, and text indented by two spaces per level. Only
the quote, the backslash and the control characters below the space are
escaped; members keep their order.
-/

namespace Hydration.Json

/-- The lower-case hexadecimal digits of a number, at least `width` of them. -/
def hexText (width n : Nat) : String :=
  let digits := Nat.toDigits 16 n
  String.ofList (List.replicate (width - digits.length) '0' ++ digits)

/-- A character inside a quoted string. -/
def escapeChar (c : Char) : String :=
  match c with
  | '"' => "\\\""
  | '\\' => "\\\\"
  | '\n' => "\\n"
  | '\r' => "\\r"
  | '\t' => "\\t"
  | c =>
    if c.toNat = 8 then "\\b"
    else if c.toNat = 12 then "\\f"
    else if c.toNat < 32 then "\\u" ++ hexText 4 c.toNat
    else String.singleton c

/-- A string in quotes. -/
def quote (text : String) : String := "\"" ++ String.join (text.toList.map escapeChar) ++ "\""

mutual

/-- A value as text without spaces. -/
def compact : Json → String
  | null => "null"
  | bool true => "true"
  | bool false => "false"
  | number n => n.text
  | string s => quote s
  | array items => "[" ++ compactItems items ++ "]"
  | object members => "\x7b" ++ compactMembers members ++ "\x7d"

/-- Elements separated by commas. -/
def compactItems : List Json → String
  | [] => ""
  | [item] => compact item
  | item :: rest => compact item ++ "," ++ compactItems rest

/-- Members separated by commas. -/
def compactMembers : List (String × Json) → String
  | [] => ""
  | [(key, value)] => quote key ++ ":" ++ compact value
  | (key, value) :: rest => quote key ++ ":" ++ compact value ++ "," ++ compactMembers rest

end

/-- A line break and the indentation of a level. -/
def newline (level : Nat) : String := "\n" ++ String.ofList (List.replicate (2 * level) ' ')

mutual

/-- A value as indented text, starting at the given level. -/
def prettyAt (level : Nat) : Json → String
  | array (item :: rest) =>
    "[" ++ prettyItems (level + 1) (item :: rest) ++ newline level ++ "]"
  | object (member :: rest) =>
    "\x7b" ++ prettyMembers (level + 1) (member :: rest) ++ newline level ++ "\x7d"
  | value => compact value

/-- Elements on lines of their own. -/
def prettyItems (level : Nat) : List Json → String
  | [] => ""
  | [item] => newline level ++ prettyAt level item
  | item :: rest => newline level ++ prettyAt level item ++ "," ++ prettyItems level rest

/-- Members on lines of their own. -/
def prettyMembers (level : Nat) : List (String × Json) → String
  | [] => ""
  | [(key, value)] => newline level ++ quote key ++ ": " ++ prettyAt level value
  | (key, value) :: rest =>
    newline level ++ quote key ++ ": " ++ prettyAt level value ++ "," ++ prettyMembers level rest

end

/-- A value as indented text. -/
def pretty (value : Json) : String := prettyAt 0 value

end Hydration.Json
