import Hydration.Calendar.Format
import Hydration.Calendar.Parse
import Hydration.Text.Blank
import Hydration.Transform.Kind

/-!
# Transformed strings

A transformed string is held in the form that its interpretation gives it.
`TransformKind.parse` reads a text under an interpretation, and
`TransformKind.format` writes the canonical text of a value of the same
interpretation.
-/

namespace Hydration

/-- A string under an interpretation. -/
inductive Transformed where
  /-- A date and time with an offset. -/
  | dateTime (value : Calendar.DateTime)
  /-- A calendar date. -/
  | date (value : Calendar.Date)
  /-- A time of day. -/
  | time (value : Calendar.Time)
  /-- A universally unique identifier, as written. -/
  | uuid (text : String)
  /-- A uniform resource identifier, as written. -/
  | uri (text : String)
  /-- An integer. -/
  | integerString (value : Int64)
  /-- A truth value. -/
  | boolString (value : Bool)
  deriving DecidableEq

/-- The interpretation of a value. -/
def Transformed.kind : Transformed → TransformKind
  | dateTime _ => .dateTime
  | date _ => .date
  | time _ => .time
  | uuid _ => .uuid
  | uri _ => .uri
  | integerString _ => .integerString
  | boolString _ => .boolString

/-- Why a text is not an integer. -/
inductive IntegerFault where
  /-- The text is empty. -/
  | empty
  /-- A character is no digit. -/
  | invalidDigit
  /-- The number is above the range. -/
  | tooLarge
  /-- The number is below the range. -/
  | tooSmall
  deriving DecidableEq

/-- The text of an integer fault. -/
def IntegerFault.message : IntegerFault → String
  | empty => "cannot parse integer from empty string"
  | invalidDigit => "invalid digit found in string"
  | tooLarge => "number too large to fit in target type"
  | tooSmall => "number too small to fit in target type"

/-- Why a text is not a value of an interpretation. -/
inductive TransformFault where
  /-- Not a date or time. -/
  | calendar (fault : Calendar.Fault)
  /-- Not a universally unique identifier. -/
  | notUuid
  /-- Not a uniform resource identifier. -/
  | notUri
  /-- Not an integer. -/
  | integer (fault : IntegerFault)
  /-- Not a truth value. -/
  | notBool
  deriving DecidableEq

/-- The text of a transform fault. -/
def TransformFault.message : TransformFault → String
  | calendar fault => fault.message
  | notUuid => "expected 8-4-4-4-12 hex digits"
  | notUri => "expected `scheme:rest` without whitespace"
  | integer fault => fault.message
  | notBool => "expected `true` or `false`"

namespace Transformed

/-- Whether a character is a hexadecimal digit. -/
def isHex (c : Char) : Bool :=
  ('0' ≤ c && c ≤ '9') || ('a' ≤ c && c ≤ 'f') || ('A' ≤ c && c ≤ 'F')

/-- Whether a text follows a pattern of hexadecimal digits, for which `x`
stands, and other characters. -/
def followsPattern : List Char → List Char → Bool
  | [], [] => true
  | 'x' :: pattern, c :: rest => isHex c && followsPattern pattern rest
  | p :: pattern, c :: rest => p == c && followsPattern pattern rest
  | _, _ => false

/-- The form of a universally unique identifier. -/
def uuidPattern : String := "xxxxxxxx-xxxx-xxxx-xxxx-xxxxxxxxxxxx"

/-- Whether a text has the form of a universally unique identifier. -/
def isUuid (text : String) : Bool := followsPattern uuidPattern.toList text.toList

/-- Whether a character is an ASCII letter. -/
def isLetter (c : Char) : Bool := ('a' ≤ c && c ≤ 'z') || ('A' ≤ c && c ≤ 'Z')

/-- Whether a character may follow the first of a scheme. -/
def isSchemeChar (c : Char) : Bool :=
  isLetter c || ('0' ≤ c && c ≤ '9') || c == '+' || c == '.' || c == '-'

/-- Whether a text is a scheme, a colon and anything without white space. -/
def isUri (text : String) : Bool :=
  match text.toList with
  | [] => false
  | c :: rest =>
    isLetter c &&
      match rest.dropWhile isSchemeChar with
      | ':' :: tail => tail.all fun c => !Text.isBlank c
      | _ => false

/-- Continue an integer, checking the range digit by digit. -/
def integerDigits (negative : Bool) : Int → List Char → Except IntegerFault Int
  | value, [] => .ok value
  | value, c :: rest =>
    match Calendar.digit? c with
    | none => .error .invalidDigit
    | some d =>
      let next := if negative then value * 10 - d else value * 10 + d
      if next < -0x8000000000000000 then .error .tooSmall
      else if 0x8000000000000000 ≤ next then .error .tooLarge
      else integerDigits negative next rest

/-- The integer of a text: an optional sign and at least one digit. -/
def parseInteger (text : String) : Except IntegerFault Int64 :=
  match text.toList with
  | [] => .error .empty
  | ['+'] => .error .invalidDigit
  | ['-'] => .error .invalidDigit
  | '+' :: digits => (integerDigits false 0 digits).map Int64.ofInt
  | '-' :: digits => (integerDigits true 0 digits).map Int64.ofInt
  | digits => (integerDigits false 0 digits).map Int64.ofInt

end Transformed

namespace TransformKind

/-- The value of a text under an interpretation. -/
def parse (kind : TransformKind) (text : String) : Except TransformFault Transformed :=
  match kind with
  | dateTime => ((Calendar.DateTime.parse text).map .dateTime).mapError .calendar
  | date => ((Calendar.Date.parse text).map .date).mapError .calendar
  | time => ((Calendar.Time.parse text).map .time).mapError .calendar
  | uuid => if Transformed.isUuid text then .ok (.uuid text) else .error .notUuid
  | uri => if Transformed.isUri text then .ok (.uri text) else .error .notUri
  | integerString => ((Transformed.parseInteger text).map .integerString).mapError .integer
  | boolString =>
    if text = "true" then .ok (.boolString true)
    else if text = "false" then .ok (.boolString false)
    else .error .notBool

/-- The canonical text of a value, if it is one of the interpretation. -/
def format (kind : TransformKind) (value : Transformed) : Option String :=
  match kind, value with
  | dateTime, .dateTime stamp => some stamp.text
  | date, .date d => some d.text
  | time, .time t => some t.text
  | uuid, .uuid text => some text
  | uri, .uri text => some text
  | integerString, .integerString i => some (toString i.toInt)
  | boolString, .boolString b => some (if b then "true" else "false")
  | _, _ => none

end TransformKind

end Hydration
