/-!
# Dates and times

Dates of the proleptic Gregorian calendar, times of day with nanoseconds and
leap seconds, and the two together with an offset. Each type holds valid
values only.
-/

namespace Hydration.Calendar

/-- What is wrong with the text of a date or time. -/
inductive Fault where
  /-- A character that does not belong there. -/
  | invalid
  /-- A number outside its range, or a day that the month does not have. -/
  | outOfRange
  /-- The text ends early. -/
  | tooShort
  /-- The text goes on. -/
  | tooLong
  deriving DecidableEq

/-- The text of a fault. -/
def Fault.message : Fault → String
  | invalid => "input contains invalid characters"
  | outOfRange => "input is out of range"
  | tooShort => "premature end of input"
  | tooLong => "trailing input"

/-- Whether a year has a leap day. -/
def isLeapYear (year : Int) : Bool := year % 4 == 0 && (year % 100 != 0 || year % 400 == 0)

/-- The number of days of a month; no month beyond the twelfth has any. -/
def daysIn (year : Int) (month : Nat) : Nat :=
  match month with
  | 1 | 3 | 5 | 7 | 8 | 10 | 12 => 31
  | 4 | 6 | 9 | 11 => 30
  | 2 => if isLeapYear year then 29 else 28
  | _ => 0

/-- Whether numbers are a date within the supported years. -/
def IsDate (year : Int) (month day : Nat) : Prop :=
  -262143 ≤ year ∧ year ≤ 262142 ∧ 1 ≤ day ∧ day ≤ daysIn year month

instance (year : Int) (month day : Nat) : Decidable (IsDate year month day) := by
  unfold IsDate
  infer_instance

/-- A calendar date. -/
structure Date where
  /-- The year, which may be zero or negative. -/
  year : Int
  /-- The month, from one. -/
  month : Nat
  /-- The day of the month, from one. -/
  day : Nat
  /-- The month has that day. -/
  valid : IsDate year month day
  deriving DecidableEq

/-- The date of a year, a month and a day. -/
def Date.of? (year : Int) (month day : Nat) : Option Date :=
  if h : IsDate year month day then some ⟨year, month, day, h⟩ else none

/-- Whether numbers are a time of day. -/
def IsTime (hour minute second nanosecond : Nat) : Prop :=
  hour < 24 ∧ minute < 60 ∧ second ≤ 60 ∧ nanosecond < 1000000000

instance (hour minute second nanosecond : Nat) :
    Decidable (IsTime hour minute second nanosecond) := by
  unfold IsTime
  infer_instance

/-- A time of day. Second 60 is a leap second, in any minute. -/
structure Time where
  /-- The hour. -/
  hour : Nat
  /-- The minute. -/
  minute : Nat
  /-- The second. -/
  second : Nat
  /-- The part of the second in nanoseconds. -/
  nanosecond : Nat
  /-- The parts are in range. -/
  valid : IsTime hour minute second nanosecond
  deriving DecidableEq

/-- The time of its parts. -/
def Time.of? (hour minute second nanosecond : Nat) : Option Time :=
  if h : IsTime hour minute second nanosecond then some ⟨hour, minute, second, nanosecond, h⟩
  else none

/-- A local date and time with the offset of its clock. -/
structure DateTime where
  /-- The local date. -/
  date : Date
  /-- The local time. -/
  time : Time
  /-- The minutes by which the local clock is ahead of universal time. -/
  offset : Int
  deriving DecidableEq

end Hydration.Calendar
