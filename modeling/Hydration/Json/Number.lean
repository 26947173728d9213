import Hydration.Decimal.Shortest

/-!
# JSON numbers

A number is an integer token of at most sixty-four bits, signed or unsigned,
or a binary64 number. `Number.ofDecimal` reads the parts of a decimal token:
a token without fraction and exponent that fits is an integer, and everything
else is the significand scaled by a power of ten in floating point. Negative
zero is a binary64 number.
-/

namespace Hydration.Json

/-- An integer that fits sixty-four bits, with or without a sign. -/
structure IntegerToken where
  /-- The integer. -/
  value : Int
  /-- It is not below the signed range. -/
  lower : -0x8000000000000000 ≤ value
  /-- It is not above the unsigned range. -/
  upper : value < 0x10000000000000000
  deriving DecidableEq

namespace IntegerToken

/-- A signed sixty-four-bit integer as a token. -/
def ofInt64 (i : Int64) : IntegerToken where
  value := i.toInt
  lower := by
    have := i.le_toInt
    omega
  upper := by
    have := i.toInt_lt
    omega

/-- An integer as a token, if it fits. -/
def ofInt? (value : Int) : Option IntegerToken :=
  if h : -0x8000000000000000 ≤ value ∧ value < 0x10000000000000000 then some ⟨value, h.1, h.2⟩ else none

/-- The signed sixty-four-bit integer of a token, if it is in that range. -/
def toInt64? (token : IntegerToken) : Option Int64 :=
  if token.value < 0x8000000000000000 then some (Int64.ofInt token.value) else none

/-- A signed integer is read back from its token. -/
@[simp] theorem toInt64?_ofInt64 (i : Int64) : (ofInt64 i).toInt64? = some i := by
  have h := i.toInt_lt
  have hlt : (ofInt64 i).value < 0x8000000000000000 := h
  unfold toInt64?
  rw [if_pos hlt]
  simp [ofInt64]

/-- A token in the signed range is the token of its integer. -/
theorem ofInt64_of_toInt64? {token : IntegerToken} {i : Int64} (h : token.toInt64? = some i) :
    ofInt64 i = token := by
  unfold toInt64? at h
  split at h
  · rename_i hlt
    cases h
    obtain ⟨v, hlo, hhi⟩ := token
    simp only [ofInt64, IntegerToken.mk.injEq]
    exact Int64.toInt_ofInt_of_le hlo hlt
  · cases h

end IntegerToken

/-- A JSON number. -/
inductive Number where
  /-- A token without fraction and exponent that fits sixty-four bits. -/
  | integer (token : IntegerToken)
  /-- Any other token, as a binary64 number. -/
  | double (value : Float)
  deriving DecidableEq

namespace Number

/-- The signed sixty-four-bit integer of a number, if it is an integer token
in that range. -/
def toInt64? : Number → Option Int64
  | integer token => token.toInt64?
  | double _ => none

/-- Whether a number is a non-negative integer token. -/
def isNonNegativeInteger : Number → Bool
  | integer token => decide (0 ≤ token.value)
  | double _ => false

/-- A signed integer as a number. -/
def ofInt64 (i : Int64) : Number := integer (IntegerToken.ofInt64 i)

/-- A signed integer is read back from its number. -/
@[simp] theorem toInt64?_ofInt64 (i : Int64) : (ofInt64 i).toInt64? = some i :=
  IntegerToken.toInt64?_ofInt64 i

/-- A number in the signed range is the number of its integer. -/
theorem ofInt64_of_toInt64? {n : Number} {i : Int64} (h : n.toInt64? = some i) :
    ofInt64 i = n := by
  cases n with
  | integer token => exact congrArg integer (IntegerToken.ofInt64_of_toInt64? h)
  | double value => cases h

/-- A natural number as a number. -/
def ofNat (n : Nat) : Number :=
  match IntegerToken.ofInt? n with
  | some token => integer token
  | none => double (Float.ofNat n)

/-- Doubles are positional for exponents from -5 to 15 and keep `.0` when
integral; other exponents are written with a sign. -/
def layout : Decimal.Layout := ⟨-5, 15, ".0", "e+", "e-"⟩

/-- The text of a number. -/
def text : Number → String
  | integer token => toString token.value
  | double value => layout.write value

/-- The powers of ten that doubles hold, exactly rounded. -/
def tenPow (exponent : Nat) : Float := Float.ofScientific 1 false exponent

/-- A significand scaled by a power of ten, one rounding per step: exponents
beyond 308 are divided off in steps of 308, and an overflow has no value. -/
def scale? (significand : Float) (exponent : Int) : Option Float :=
  step 20 significand exponent
where
  /-- Divide until the exponent is within reach of one power of ten. -/
  step : Nat → Float → Int → Option Float
    | 0, f, _ => some f
    | fuel + 1, f, exponent =>
      if exponent.natAbs ≤ 308 then
        if 0 ≤ exponent then
          let scaled := f * tenPow exponent.natAbs
          if scaled.isInf then none else some scaled
        else some (f / tenPow exponent.natAbs)
      else if f == 0 then some f
      else if 0 ≤ exponent then none
      else step fuel (f / tenPow 308) (exponent + 308)

/-- The digits of a decimal token, collected as far as sixty-four bits go. -/
structure Significand where
  /-- The digits that fit, read as a natural number. -/
  value : Nat
  /-- The power of ten that the digits left out or after the point stand for. -/
  exponent : Int

/-- Whether another digit still fits sixty-four unsigned bits. -/
def fits (significand digit : Nat) : Bool := decide (significand * 10 + digit < 0x10000000000000000)

/-- Collect the digits before the point; once one does not fit, it and the
following ones only raise the exponent. -/
def integerPart : Significand → List Nat → Significand
  | s, [] => s
  | s, d :: rest =>
    if fits s.value d then integerPart ⟨s.value * 10 + d, s.exponent⟩ rest
    else ⟨s.value, s.exponent + (rest.length + 1)⟩

/-- Collect the digits after the point; once one does not fit, it and the
following ones are dropped. -/
def fractionPart : Significand → List Nat → Significand
  | s, [] => s
  | s, d :: rest =>
    if fits s.value d then fractionPart ⟨s.value * 10 + d, s.exponent - 1⟩ rest else s

/-- An exponent, or the statement that its digits exceed thirty-two bits. -/
inductive Exponent where
  /-- An exponent within thirty-two bits. -/
  | within (value : Int)
  /-- An exponent whose digits exceed thirty-two bits. -/
  | beyond (negative : Bool)

/-- The parts of a decimal token. -/
structure DecimalToken where
  /-- Whether it starts with a minus sign. -/
  negative : Bool
  /-- The digits before the point. -/
  whole : List Nat
  /-- The digits after the point, if there is a point. -/
  fraction : Option (List Nat)
  /-- The exponent, if there is one. -/
  exponent : Option Exponent

/-- The greatest exponent that is kept apart from a larger one. -/
def maxExponent : Int := 0x7FFFFFFF

/-- A sum kept within thirty-two bits. -/
def saturate (exponent : Int) : Int := max (-0x80000000) (min exponent maxExponent)

/-- The number of a decimal token, unless it exceeds the doubles. -/
def ofDecimal (token : DecimalToken) : Option Number :=
  let signed (f : Float) : Number := double (if token.negative then -f else f)
  let whole := integerPart ⟨0, 0⟩ token.whole
  let s := match token.fraction with
    | some digits => fractionPart whole digits
    | none => whole
  let magnitude := s.value.toUInt64.toFloat
  match token.fraction, token.exponent with
  | none, none =>
    if whole.exponent = 0 then
      let value : Int := if token.negative then -(whole.value : Int) else whole.value
      match IntegerToken.ofInt? value with
      | some found =>
        if token.negative && whole.value == 0 then some (signed magnitude)
        else some (Number.integer found)
      | none => some (signed magnitude)
    else (scale? magnitude s.exponent).map signed
  | _, none => (scale? magnitude s.exponent).map signed
  | _, some (.within e) => (scale? magnitude (saturate (s.exponent + e))).map signed
  | _, some (.beyond negative) =>
    if s.value != 0 && !negative then none else some (signed 0)

end Number

end Hydration.Json
