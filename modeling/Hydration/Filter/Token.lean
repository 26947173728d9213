import Hydration.Json.Token

/-!
# Filter tokens

The words of a filter text: names, fields after a point, variables after a
dollar sign, numbers, strings and marks. Strings and numbers are those of
JSON, except that a number may start with zeros. White space and comments,
which run from a number sign to the end of the line, separate words.
-/

namespace Hydration.Filter

/-- A word of a filter text. -/
inductive Token where
  /-- A name or keyword. -/
  | name (text : String)
  /-- A name right after a point. -/
  | field (key : String)
  /-- A name right after a dollar sign. -/
  | variableName (text : String)
  /-- A number. -/
  | number (value : Json.Number)
  /-- A string. -/
  | text (content : String)
  /-- An operator or a bracket. -/
  | mark (text : String)
  deriving DecidableEq

namespace Token

/-- Whether a character may start a name. -/
def startsName (c : Char) : Bool := c.isAlpha || c == '_'

/-- Whether a character may be inside a name. -/
def insideName (c : Char) : Bool := c.isAlphanum || c == '_'

/-- The name at the start of a text. -/
def nameAt (text : List Char) : List Char := text.takeWhile insideName

/-- Whether a name starts here. -/
def isName (text : List Char) : Bool := text.head?.any startsName

/-- The marks of two characters. -/
def longMarks : List (List Char) :=
  [['.', '.'], ['=', '='], ['!', '='], ['<', '='], ['>', '='], ['/', '/']]

/-- The marks of one character. -/
def shortMarks : List Char :=
  ['.', '[', ']', '(', ')', '\x7b', '\x7d', '|', ',', ':', ';', '+', '-', '*', '/', '%', '<',
    '>', '=', '?']

/-- The mark at the start of a text, and its length. -/
def mark? (text : List Char) : Option (Token × Nat) :=
  if text.take 2 ∈ longMarks then some (mark (String.ofList (text.take 2)), 2)
  else if text.head?.any (· ∈ shortMarks) then some (mark (String.ofList (text.take 1)), 1)
  else none

/-- The number at the start of a text, and its length. -/
def number? (text : List Char) : Option (Token × Nat) := do
  let whole := Json.Token.digits text
  let afterWhole := text.drop whole.length
  let fraction ← (Json.Token.fractionPart afterWhole).toOption
  let fractionSize := fraction.elim 0 fun digits => digits.length + 1
  let (exponent, exponentSize) ←
    (Json.Token.exponentPart (afterWhole.drop fractionSize)).toOption
  let value ← Json.Number.ofDecimal ⟨false, whole, fraction, exponent⟩
  return (number value, whole.length + fractionSize + exponentSize)

/-- The word at the start of a text that starts with neither white space nor a
comment, and its length. -/
def read? (text : List Char) : Option (Token × Nat) :=
  match text with
  | [] => none
  | '"' :: rest =>
    match Json.Token.stringContent [] 0 rest with
    | .ok (content, size) => some (Token.text content, size + 1)
    | .error _ => none
  | '$' :: rest =>
    if isName rest then
      some (variableName (String.ofList (nameAt rest)), (nameAt rest).length + 1)
    else none
  | '.' :: rest =>
    if isName rest then some (field (String.ofList (nameAt rest)), (nameAt rest).length + 1)
    else mark? ('.' :: rest)
  | c :: rest =>
    if startsName c then
      some (name (String.ofList (nameAt (c :: rest))), (nameAt (c :: rest)).length)
    else if Json.Token.isDigit c then number? (c :: rest)
    else mark? (c :: rest)

/-- Whether a character separates words. -/
def isBlank (c : Char) : Bool := Json.Token.isBlank c

/-- The words of a text, or nothing if a character starts none. -/
def ofChars? (text : List Char) : Option (List Token) :=
  match text with
  | [] => some []
  | '#' :: rest => ofChars? (rest.dropWhile (· != '\n'))
  | c :: rest =>
    if isBlank c then ofChars? rest
    else
      match read? (c :: rest) with
      | some (token, size) => (ofChars? (rest.drop (size - 1))).map (token :: ·)
      | none => none
termination_by text.length
decreasing_by
  · have := (List.dropWhile_sublist (fun x => x != '\n') (l := rest)).length_le
    simp only [List.length_cons]
    omega
  · simp
  · simp only [List.length_drop, List.length_cons]
    omega

end Token

end Hydration.Filter
