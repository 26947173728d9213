/-!
# Shortest decimal digits

The fewest decimal digits that read back as a given binary64 number. A number
is `significand * 2 ^ exponent`; the reals that round to it form an interval,
whose ends belong to it when the significand is even. The shortest form is
the first decimal grid with a point in that interval, and of the points of
that grid the one nearest to the number.
-/

namespace Hydration.Decimal

/-- A finite binary64 magnitude in exact form. -/
structure Binary where
  /-- The integer significand. -/
  significand : Nat
  /-- The power of two that scales it. -/
  exponent : Int
  /-- Whether the next smaller number is only half as far away as the next larger. -/
  halfGapBelow : Bool
  deriving DecidableEq

/-- The exact form of a finite number's magnitude. -/
def Binary.ofFloat (value : Float) : Binary :=
  let bits : Nat := value.toBits.toNat
  let fraction : Nat := bits % 0x10000000000000
  let biased : Nat := bits / 0x10000000000000 % 0x800
  if biased = 0 then ⟨fraction, -1074, false⟩
  else ⟨0x10000000000000 + fraction, (biased : Int) - 1075, fraction == 0 && biased != 1⟩

/-- Whether a number carries a minus sign, which negative zero does. -/
def isNegative (value : Float) : Bool := value.toBits.toNat / 0x8000000000000000 == 1

/-- A positive rational as numerator and denominator. -/
structure Ratio where
  /-- The numerator. -/
  numerator : Nat
  /-- The denominator, positive in every use. -/
  denominator : Nat

/-- An integer scaled by a power of two. -/
def Ratio.scaled (integer : Nat) (exponent : Int) : Ratio :=
  match exponent with
  | .ofNat e => ⟨integer * Nat.pow 2 e, 1⟩
  | .negSucc e => ⟨integer, Nat.pow 2 (e + 1)⟩

/-- A rational divided by a power of ten. -/
def Ratio.dividedByTenPow (r : Ratio) (exponent : Int) : Ratio :=
  match exponent with
  | .ofNat e => ⟨r.numerator, r.denominator * Nat.pow 10 e⟩
  | .negSucc e => ⟨r.numerator * Nat.pow 10 (e + 1), r.denominator⟩

/-- The number of decimal digits of a natural number, none for zero. -/
def digitCount (n : Nat) : Nat := if n = 0 then 0 else (Nat.toDigits 10 n).length

/-- The power of ten of a positive rational's leading digit. -/
def Ratio.leadingExponent (r : Ratio) : Int :=
  if r.denominator ≤ r.numerator then (digitCount (r.numerator / r.denominator) : Int) - 1
  else -(digitCount ((r.denominator - 1) / r.numerator) : Int)

/-- Digits with the power of ten of the last of them. -/
structure Digits where
  /-- The digits read as one natural number. -/
  coefficient : Nat
  /-- The power of ten of the last digit. -/
  exponent : Int
  deriving DecidableEq

/-- The point nearest to a number among the points of the grid of a power of
ten that read back as that number. -/
def nearestOnGrid? (b : Binary) (exponent : Int) : Option Digits :=
  let unit := (Ratio.scaled 1 (b.exponent - 2)).dividedByTenPow exponent
  let value := 4 * b.significand * unit.numerator
  let low := (4 * b.significand - (if b.halfGapBelow then 1 else 2)) * unit.numerator
  let high := (4 * b.significand + 2) * unit.numerator
  let below := value / unit.denominator
  let readsBack (coefficient : Nat) : Bool :=
    let point := coefficient * unit.denominator
    if b.significand % 2 = 0 then decide (low ≤ point ∧ point ≤ high)
    else decide (low < point ∧ point < high)
  let gapBelow := value - below * unit.denominator
  let gapAbove := (below + 1) * unit.denominator - value
  match readsBack below, readsBack (below + 1) with
  | true, true =>
    let takeBelow := gapBelow < gapAbove || (gapBelow == gapAbove && below % 2 == 0)
    some ⟨if takeBelow then below else below + 1, exponent⟩
  | true, false => some ⟨below, exponent⟩
  | false, true => some ⟨below + 1, exponent⟩
  | false, false => none

/-- The first grid with a point that reads back, from coarse to fine. -/
def firstGrid (b : Binary) (leading : Int) : Nat → Nat → Digits
  | 0, _ => ⟨b.significand, 0⟩
  | attempts + 1, places =>
    match nearestOnGrid? b (leading - places) with
    | some digits => digits
    | none => firstGrid b leading attempts (places + 1)

/-- The same number without a final zero digit, which the first grid shows
when a number lies just under a power of ten. -/
def Digits.trim (digits : Digits) : Digits :=
  if digits.coefficient ≠ 0 ∧ digits.coefficient % 10 = 0 then
    ⟨digits.coefficient / 10, digits.exponent + 1⟩
  else digits

/-- The shortest digits of a finite magnitude; seventeen always suffice. -/
def shortest (b : Binary) : Digits :=
  if b.significand = 0 then ⟨0, 0⟩
  else (firstGrid b (Ratio.scaled b.significand b.exponent).leadingExponent 18 0).trim

/-- How digits become text. -/
structure Layout where
  /-- The least exponent of a leading digit that is written positionally. -/
  lowest : Int
  /-- The greatest exponent of a leading digit that is written positionally. -/
  highest : Int
  /-- What follows an integral positional number. -/
  integralTail : String
  /-- What introduces a non-negative exponent. -/
  plusMark : String
  /-- What introduces a negative exponent. -/
  minusMark : String

/-- Digits as text in a layout. -/
def Layout.format (layout : Layout) (digits : Digits) : String :=
  let text := String.ofList (Nat.toDigits 10 digits.coefficient)
  let count := text.length
  let leading : Int := digits.exponent + count - 1
  if layout.lowest ≤ leading ∧ leading ≤ layout.highest then
    match digits.exponent with
    | .ofNat e => text ++ String.ofList (List.replicate e '0') ++ layout.integralTail
    | .negSucc e =>
      let places := e + 1
      if places < count then
        let cut := count - places
        String.ofList (text.toList.take cut) ++ "." ++ String.ofList (text.toList.drop cut)
      else "0." ++ String.ofList (List.replicate (places - count) '0') ++ text
  else
    let mantissa := match text.toList with
      | [] => text
      | [_] => text
      | d :: rest => String.ofList (d :: '.' :: rest)
    let mark := if 0 ≤ leading then layout.plusMark else layout.minusMark
    mantissa ++ mark ++ toString leading.natAbs

/-- A finite number's sign and shortest digits as text in a layout. -/
def Layout.write (layout : Layout) (value : Float) : String :=
  (if isNegative value then "-" else "") ++ layout.format (shortest (Binary.ofFloat value))

end Hydration.Decimal
