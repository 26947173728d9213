import Hydration.Calendar.Basic

/-!
# Writing dates and times

Years from 0 to 9999 have four digits, others a sign and at least four. A
fraction of a second has no, three, six or nine digits, whichever is the
least that shows it exactly. An offset of zero is written `Z`.
-/

namespace Hydration.Calendar

/-- A number with at least `width` digits. -/
def padded (width n : Nat) : String :=
  let digits := Nat.toDigits 10 n
  String.ofList (List.replicate (width - digits.length) '0' ++ digits)

/-- A year. -/
def yearText (year : Int) : String :=
  if 0 ≤ year ∧ year ≤ 9999 then padded 4 year.natAbs
  else (if year < 0 then "-" else "+") ++ padded 4 year.natAbs

/-- A date. -/
def Date.text (date : Date) : String :=
  yearText date.year ++ "-" ++ padded 2 date.month ++ "-" ++ padded 2 date.day

/-- A fraction of a second. -/
def fractionText (nanosecond : Nat) : String :=
  if nanosecond = 0 then ""
  else if nanosecond % 1000000 = 0 then "." ++ padded 3 (nanosecond / 1000000)
  else if nanosecond % 1000 = 0 then "." ++ padded 6 (nanosecond / 1000)
  else "." ++ padded 9 nanosecond

/-- A time of day. -/
def Time.text (time : Time) : String :=
  padded 2 time.hour ++ ":" ++ padded 2 time.minute ++ ":" ++ padded 2 time.second
    ++ fractionText time.nanosecond

/-- An offset. -/
def offsetText (offset : Int) : String :=
  if offset = 0 then "Z"
  else
    (if offset < 0 then "-" else "+") ++ padded 2 (offset.natAbs / 60) ++ ":"
      ++ padded 2 (offset.natAbs % 60)

/-- A date and time with its offset. -/
def DateTime.text (stamp : DateTime) : String :=
  stamp.date.text ++ "T" ++ stamp.time.text ++ offsetText stamp.offset

end Hydration.Calendar
