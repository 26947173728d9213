import Hydration.Json.Number

/-!
# JSON tokens

A text as a list of tokens up to its end or its first lexical fault. Each
token is read by a function that says how many characters it took, and the
rest of the text is what remains after them. A fault keeps the place in the
text: it is a token, so that a reader that stops earlier never meets it.
-/

namespace Hydration.Json

/-- What can be wrong with the text of a JSON document. -/
inductive SyntaxFault where
  /-- The text ends where a value should stand or go on. -/
  | endInValue
  /-- The text ends inside an array. -/
  | endInArray
  /-- The text ends inside an object. -/
  | endInObject
  /-- The text ends inside a string. -/
  | endInString
  /-- A key is not followed by a colon. -/
  | colonExpected
  /-- An element is followed by neither a comma nor the closing bracket. -/
  | itemSeparatorExpected
  /-- A member is followed by neither a comma nor the closing brace. -/
  | memberSeparatorExpected
  /-- A word other than `null`, `true` and `false`. -/
  | wordExpected
  /-- A character that starts no value. -/
  | valueExpected
  /-- A key that is not a string. -/
  | keyNotString
  /-- A comma before a closing bracket or brace. -/
  | trailingComma
  /-- Text after the value. -/
  | trailingText
  /-- A malformed number. -/
  | invalidNumber
  /-- A number that exceeds the doubles. -/
  | numberOutOfRange
  /-- An unknown escape or a hexadecimal escape with another character. -/
  | invalidEscape
  /-- Half of a surrogate pair. -/
  | loneSurrogate
  /-- The first half of a surrogate pair that is not followed by an escape. -/
  | unfinishedPair
  /-- A control character inside a string. -/
  | controlCharacter
  /-- More than 127 brackets are open. -/
  | tooDeep
  deriving DecidableEq

/-- The text of a syntax fault. -/
def SyntaxFault.message : SyntaxFault → String
  | endInValue => "EOF while parsing a value"
  | endInArray => "EOF while parsing a list"
  | endInObject => "EOF while parsing an object"
  | endInString => "EOF while parsing a string"
  | colonExpected => "expected `:`"
  | itemSeparatorExpected => "expected `,` or `]`"
  | memberSeparatorExpected => "expected `,` or `\x7d`"
  | wordExpected => "expected ident"
  | valueExpected => "expected value"
  | keyNotString => "key must be a string"
  | trailingComma => "trailing comma"
  | trailingText => "trailing characters"
  | invalidNumber => "invalid number"
  | numberOutOfRange => "number out of range"
  | invalidEscape => "invalid escape"
  | loneSurrogate => "lone leading surrogate in hex escape"
  | unfinishedPair => "unexpected end of hex escape"
  | controlCharacter => "control character (\\u0000-\\u001F) found while parsing a string"
  | tooDeep => "recursion limit exceeded"

/-- A token of JSON text. -/
inductive Token where
  /-- An opening bracket. -/
  | openArray
  /-- A closing bracket. -/
  | closeArray
  /-- An opening brace. -/
  | openObject
  /-- A closing brace. -/
  | closeObject
  /-- A colon. -/
  | colon
  /-- A comma. -/
  | comma
  /-- The word `null`. -/
  | null
  /-- The word `true` or `false`. -/
  | bool (value : Bool)
  /-- A number. -/
  | number (value : Number)
  /-- A string. -/
  | string (value : String)
  /-- A value that is malformed; nothing after it is read. -/
  | broken (isString : Bool) (fault : SyntaxFault)
  deriving DecidableEq

namespace Token

/-- The value of a hexadecimal digit. -/
def hexDigit? (c : Char) : Option Nat :=
  let n := c.toNat
  if 48 ≤ n ∧ n ≤ 57 then some (n - 48)
  else if 97 ≤ n ∧ n ≤ 102 then some (n - 87)
  else if 65 ≤ n ∧ n ≤ 70 then some (n - 55)
  else none

/-- The value of four hexadecimal digits. -/
def hexValue? (a b c d : Char) : Option Nat := do
  return ((← hexDigit? a) * 16 + (← hexDigit? b)) * 256
    + (← hexDigit? c) * 16 + (← hexDigit? d)

/-- The fault of a hexadecimal escape that has fewer than four characters
left: the text ends inside the string, unless they fill four bytes. -/
def shortEscape (rest : List Char) : SyntaxFault :=
  if rest.foldl (fun size c => size + c.utf8Size) 0 < 4 then .endInString else .invalidEscape

/-- The character of a simple escape. -/
def simpleEscape? (c : Char) : Option Char :=
  match c with
  | '"' => some '"'
  | '\\' => some '\\'
  | '/' => some '/'
  | 'b' => some (Char.ofNat 8)
  | 'f' => some (Char.ofNat 12)
  | 'n' => some '\n'
  | 'r' => some '\r'
  | 't' => some '\t'
  | _ => none

/-- Whether a number is the first half of a surrogate pair. -/
def isLeading (n : Nat) : Bool := decide (0xD800 ≤ n ∧ n ≤ 0xDBFF)

/-- Whether a number is the second half of a surrogate pair. -/
def isTrailing (n : Nat) : Bool := decide (0xDC00 ≤ n ∧ n ≤ 0xDFFF)

/-- The character of a surrogate pair. -/
def ofPair (leading trailing : Nat) : Char :=
  Char.ofNat ((leading - 0xD800) * 0x400 + (trailing - 0xDC00) + 0x10000)

/-- The content of a string after its opening quote, newest character first
in `content`, with the number of characters up to and with the closing quote. -/
def stringContent (content : List Char) (taken : Nat) :
    List Char → Except SyntaxFault (String × Nat)
  | [] => .error .endInString
  | '"' :: _ => .ok (String.ofList content.reverse, taken + 1)
  | '\\' :: 'u' :: a :: b :: c :: d :: rest =>
    match hexValue? a b c d with
    | none => .error .invalidEscape
    | some n =>
      if isTrailing n then .error .loneSurrogate
      else if isLeading n then
        match rest with
        | '\\' :: 'u' :: e :: f :: g :: h :: rest =>
          match hexValue? e f g h with
          | none => .error .invalidEscape
          | some m =>
            if isTrailing m then stringContent (ofPair n m :: content) (taken + 12) rest
            else .error .loneSurrogate
        | '\\' :: 'u' :: rest => .error (shortEscape rest)
        | [] => .error .endInString
        | ['\\'] => .error .endInString
        | _ => .error .unfinishedPair
      else stringContent (Char.ofNat n :: content) (taken + 6) rest
  | '\\' :: 'u' :: rest => .error (shortEscape rest)
  | '\\' :: c :: rest =>
    match simpleEscape? c with
    | some character => stringContent (character :: content) (taken + 2) rest
    | none => .error .invalidEscape
  | ['\\'] => .error .endInString
  | c :: rest =>
    if c.toNat < 32 then .error .controlCharacter
    else stringContent (c :: content) (taken + 1) rest

/-- Whether a character is a decimal digit. -/
def isDigit (c : Char) : Bool := decide (48 ≤ c.toNat ∧ c.toNat ≤ 57)

/-- The digits at the start of a text. -/
def digits (text : List Char) : List Nat := (text.takeWhile isDigit).map fun c => c.toNat - 48

/-- The fault of a number that lacks a digit at the start of a text. -/
def digitMissing : List Char → SyntaxFault
  | [] => .endInValue
  | _ => .invalidNumber

/-- The digits before the point: a zero stands alone. -/
def wholePart (text : List Char) : Except SyntaxFault (List Nat) :=
  match digits text with
  | [] => .error (digitMissing text)
  | 0 :: _ :: _ => .error .invalidNumber
  | whole => .ok whole

/-- The digits after the point, if there is one. -/
def fractionPart (text : List Char) : Except SyntaxFault (Option (List Nat)) :=
  match text with
  | '.' :: rest =>
    match digits rest with
    | [] => .error (digitMissing rest)
    | found => .ok (some found)
  | _ => .ok none

/-- An exponent from its digits, kept apart once it exceeds thirty-two bits. -/
def exponentOf (negative : Bool) (found : List Nat) : Number.Exponent :=
  let value : Nat := found.foldl (fun n d => n * 10 + d) 0
  if (value : Int) ≤ Number.maxExponent then
    .within (if negative then -(value : Int) else value)
  else .beyond negative

/-- The exponent, if there is one, with the number of characters it takes. -/
def exponentPart (text : List Char) :
    Except SyntaxFault (Option Number.Exponent × Nat) :=
  match text with
  | c :: rest =>
    if c = 'e' ∨ c = 'E' then
      let (negative, marks, rest) := match rest with
        | '+' :: rest => (false, 2, rest)
        | '-' :: rest => (true, 2, rest)
        | rest => (false, 1, rest)
      match digits rest with
      | [] => .error (digitMissing rest)
      | found => .ok (some (exponentOf negative found), marks + found.length)
    else .ok (none, 0)
  | [] => .ok (none, 0)

/-- A number and the number of characters it takes. -/
def numberContent (text : List Char) : Except SyntaxFault (Number × Nat) := do
  let negative := text.head? == some '-'
  let sign := if negative then 1 else 0
  let whole ← wholePart (text.drop sign)
  let afterWhole := sign + whole.length
  let fraction ← fractionPart (text.drop afterWhole)
  let afterFraction := afterWhole + match fraction with
    | some found => found.length + 1
    | none => 0
  let (exponent, size) ← exponentPart (text.drop afterFraction)
  match Number.ofDecimal ⟨negative, whole, fraction, exponent⟩ with
  | some found => return (found, afterFraction + size)
  | none => throw .numberOutOfRange

/-- A word whose first character has been read, and its length: the rest has
to follow. -/
def word (token : Token) : List Char → List Char → Nat → Token × Nat
  | [], _, taken => (token, taken)
  | _ :: _, [], _ => (broken false .endInValue, 0)
  | expected :: more, c :: rest, taken =>
    if c = expected then word token more rest (taken + 1) else (broken false .wordExpected, 0)

/-- The token that starts with a character, and how many of the following
characters it takes. -/
def read (c : Char) (rest : List Char) : Token × Nat :=
  match c with
  | '[' => (openArray, 0)
  | ']' => (closeArray, 0)
  | '\x7b' => (openObject, 0)
  | '\x7d' => (closeObject, 0)
  | ':' => (colon, 0)
  | ',' => (comma, 0)
  | 'n' => word null ['u', 'l', 'l'] rest 0
  | 't' => word (bool true) ['r', 'u', 'e'] rest 0
  | 'f' => word (bool false) ['a', 'l', 's', 'e'] rest 0
  | '"' =>
    match stringContent [] 0 rest with
    | .ok (text, taken) => (string text, taken)
    | .error fault => (broken true fault, 0)
  | c =>
    if c = '-' ∨ isDigit c then
      match numberContent (c :: rest) with
      | .ok (value, taken) => (number value, taken - 1)
      | .error fault => (broken false fault, 0)
    else (broken false .valueExpected, 0)

/-- Whether a token is malformed. -/
def isBroken : Token → Bool
  | broken _ _ => true
  | _ => false

/-- Whether a character may stand between tokens. -/
def isBlank (c : Char) : Bool := c = ' ' || c = '\n' || c = '\t' || c = '\r'

/-- The tokens of a text, up to the first malformed one. -/
def ofChars (text : List Char) : List Token :=
  match text with
  | [] => []
  | c :: rest =>
    if isBlank c then ofChars rest
    else
      let (token, taken) := read c rest
      if token.isBroken then [token] else token :: ofChars (rest.drop taken)
termination_by text.length
decreasing_by
  · simp
  · simp only [List.length_drop, List.length_cons]
    omega

end Token

end Hydration.Json
