import Hydration.Calendar.Basic
import Hydration.Text.Blank

/-!
# Reading dates and times

Dates and times are read from left to right, and the first fault wins. In a
date or a time of its own each number may follow white space and have fewer
digits than usual; a year may have a sign and then any number of digits. A
stamp with an offset has the fixed width of its Internet format.
-/

namespace Hydration.Calendar

/-- The value of a decimal digit. -/
def digit? (c : Char) : Option Nat :=
  if 48 ≤ c.toNat ∧ c.toNat ≤ 57 then some (c.toNat - 48) else none

/-- The digits at the start of a text, at most `limit` of them, and the rest. -/
def takeDigits : Nat → List Char → List Nat × List Char
  | 0, text => ([], text)
  | _ + 1, [] => ([], [])
  | limit + 1, c :: rest =>
    match digit? c with
    | some d => (d :: (takeDigits limit rest).1, (takeDigits limit rest).2)
    | none => ([], c :: rest)

/-- The number with the given digits. -/
def ofDigits (digits : List Nat) : Nat := digits.foldl (fun n d => n * 10 + d) 0

/-- A number of at least one and at most `limit` digits. -/
def number (limit : Nat) (text : List Char) : Except Fault (Nat × List Char) :=
  match text, takeDigits limit text with
  | [], _ => .error .tooShort
  | _, ([], _) => .error .invalid
  | _, (digits, rest) => .ok (ofDigits digits, rest)

/-- A number of one or two digits within a range, which may follow white space. -/
def readField (low high : Nat) (text : List Char) : Except Fault (Nat × List Char) := do
  let (value, rest) ← number 2 (Text.dropBlanks text)
  if low ≤ value ∧ value ≤ high then return (value, rest) else throw .outOfRange

/-- The digits of a year: up to four, or a sign and any number of them. -/
def yearDigits : List Char → Except Fault (Int × List Char)
  | '-' :: digits => do
    let (value, rest) ← number digits.length digits
    return (-(value : Int), rest)
  | '+' :: digits => do
    let (value, rest) ← number digits.length digits
    return ((value : Int), rest)
  | digits => do
    let (value, rest) ← number 4 digits
    return ((value : Int), rest)

/-- A year that thirty-two bits hold, which may follow white space. -/
def readYear (text : List Char) : Except Fault (Int × List Char) := do
  let (value, rest) ← yearDigits (Text.dropBlanks text)
  if -0x80000000 ≤ value ∧ value < 0x80000000 then return (value, rest) else throw .outOfRange

/-- A certain character. -/
def mark (expected : Char) : List Char → Except Fault (List Char)
  | [] => .error .tooShort
  | c :: rest => if c = expected then .ok rest else .error .invalid

/-- The end of the text. -/
def finish : List Char → Except Fault Unit
  | [] => .ok ()
  | _ => .error .tooLong

/-- A value that has to exist. -/
def required {α : Type} : Option α → Except Fault α
  | some value => .ok value
  | none => .error .outOfRange

/-- The date of a text: year, month and day between hyphens. -/
def Date.parse (text : String) : Except Fault Date := do
  let (y, rest) ← readYear text.toList
  let rest ← mark '-' rest
  let (m, rest) ← readField 1 12 rest
  let rest ← mark '-' rest
  let (d, rest) ← readField 1 31 rest
  finish rest
  required (Date.of? y m d)

/-- The nanoseconds after the point of a fraction; digits after the ninth are
dropped. -/
def nanoseconds (text : List Char) : Except Fault (Nat × List Char) := do
  let (value, rest) ← number 9 text
  let taken := text.length - rest.length
  return (value * Nat.pow 10 (9 - taken), rest.dropWhile fun c => (digit? c).isSome)

/-- A fraction of a second, if there is a point. -/
def readFraction : List Char → Except Fault (Nat × List Char)
  | '.' :: rest => nanoseconds rest
  | rest => .ok (0, rest)

/-- The time of a text: hour, minute and second between colons, and a fraction. -/
def Time.parse (text : String) : Except Fault Time := do
  let (h, rest) ← readField 0 23 text.toList
  let rest ← mark ':' rest
  let (m, rest) ← readField 0 59 rest
  let rest ← mark ':' rest
  let (s, rest) ← readField 0 60 rest
  let (n, rest) ← readFraction rest
  finish rest
  required (Time.of? h m s n)

/-- Exactly `count` digits at the start of a text. -/
def fixedDigits : Nat → Nat → List Char → Except Fault (Nat × List Char)
  | 0, value, text => .ok (value, text)
  | _ + 1, _, [] => .error .invalid
  | count + 1, value, c :: rest =>
    match digit? c with
    | some d => fixedDigits count (value * 10 + d) rest
    | none => .error .invalid

/-- One of certain characters within the fixed part of a stamp. -/
def fixedMark (expected : List Char) : List Char → Except Fault (List Char)
  | [] => .error .invalid
  | c :: rest => if c ∈ expected then .ok rest else .error .invalid

/-- Two digits of an offset. -/
def offsetDigits : List Char → Except Fault (Nat × Nat × List Char)
  | [] => .error .tooShort
  | [c] => if c.utf8Size < 2 then .error .tooShort else .error .invalid
  | a :: b :: rest =>
    match digit? a, digit? b with
    | some a, some b => .ok (a, b, rest)
    | _, _ => .error .invalid

/-- Whether the sign of an offset is negative. -/
def offsetSign (c : Char) : Except Fault Bool :=
  if c = '+' then .ok false
  else if c = '-' ∨ c = '−' then .ok true
  else .error .invalid

/-- The minutes of an offset: `Z`, or a sign with hours and minutes. -/
def readOffset : List Char → Except Fault (Int × List Char)
  | [] => .error .tooShort
  | 'Z' :: rest => .ok (0, rest)
  | 'z' :: rest => .ok (0, rest)
  | sign :: rest => do
    let negative ← offsetSign sign
    let (h, h', rest) ← offsetDigits rest
    let rest ← mark ':' rest
    let (m, m', rest) ← offsetDigits rest
    let minutes : Int := ((h * 10 + h') * 60 + m * 10 + m' : Nat)
    if m < 6 then return (if negative then -minutes else minutes, rest) else throw .outOfRange

/-- The date at the start of a stamp, of fixed width. -/
def fixedDate (text : List Char) : Except Fault (Date × List Char) := do
  let (y, rest) ← fixedDigits 4 0 text
  let rest ← fixedMark ['-'] rest
  let (m, rest) ← fixedDigits 2 0 rest
  let rest ← fixedMark ['-'] rest
  let (d, rest) ← fixedDigits 2 0 rest
  return (← required (Date.of? y m d), rest)

/-- The time within a stamp, of fixed width but for the fraction. -/
def fixedTime (text : List Char) : Except Fault (Time × List Char) := do
  let (h, rest) ← fixedDigits 2 0 text
  let rest ← fixedMark [':'] rest
  let (m, rest) ← fixedDigits 2 0 rest
  let rest ← fixedMark [':'] rest
  let (s, rest) ← fixedDigits 2 0 rest
  let (n, rest) ← readFraction rest
  return (← required (Time.of? h m s n), rest)

/-- A stamp: the date, a `T` or a space, the time and the offset. -/
def readStamp (text : List Char) : Except Fault DateTime := do
  let (date, rest) ← fixedDate text
  let rest ← fixedMark ['T', 't', ' '] rest
  let (time, rest) ← fixedTime rest
  let (minutes, rest) ← readOffset rest
  finish rest
  if minutes.natAbs < 24 * 60 then return ⟨date, time, minutes⟩ else throw .outOfRange

/-- The stamp of a text, which has at least nineteen bytes. -/
def DateTime.parse (text : String) : Except Fault DateTime :=
  if text.utf8ByteSize < 19 then .error .tooShort else readStamp text.toList

end Hydration.Calendar
