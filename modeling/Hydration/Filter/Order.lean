import Hydration.Json.Basic

/-!
# The order of values

Null, false, true, numbers, strings, arrays and objects follow one another in
this order. Numbers are ordered by their value, with a number that is no
number below all others; strings by their characters; arrays element by
element; objects first by their sorted keys and then by the values of those
keys. Objects are therefore compared in a canonical form with sorted members.
-/

namespace Hydration.Filter

mutual

/-- A value with the members of every object sorted by key. -/
def canonical : Json → Json
  | .array items => .array (canonicalItems items)
  | .object members =>
    .object ((canonicalMembers members).mergeSort fun a b => decide (a.1 ≤ b.1))
  | value => value

/-- Elements in canonical form. -/
def canonicalItems : List Json → List Json
  | [] => []
  | item :: rest => canonical item :: canonicalItems rest

/-- Members with their values in canonical form. -/
def canonicalMembers : List (String × Json) → List (String × Json)
  | [] => []
  | (key, value) :: rest => (key, canonical value) :: canonicalMembers rest

end

/-- The order of two doubles: one that is no number is below all others. -/
def orderDoubles (a b : Float) : Ordering :=
  if a.isNaN then .lt else if b.isNaN then .gt
  else if a < b then .lt else if a == b then .eq else .gt

/-- A number as a double. -/
def toDouble : Json.Number → Float
  | .integer token =>
    match token.toInt64? with
    | some i => i.toFloat
    | none => token.value.toNat.toUInt64.toFloat
  | .double value => value

/-- The order of two numbers; integers are compared exactly. -/
def orderNumbers (a b : Json.Number) : Ordering :=
  match a.toInt64?, b.toInt64? with
  | some i, some j => Ord.compare i.toInt j.toInt
  | _, _ => orderDoubles (toDouble a) (toDouble b)

/-- The order of two strings. -/
def orderTexts (a b : String) : Ordering :=
  if a < b then .lt else if a = b then .eq else .gt

/-- The place of a value's kind in the order of kinds. -/
def rank : Json → Nat
  | .null => 0
  | .bool false => 1
  | .bool true => 2
  | .number _ => 3
  | .string _ => 4
  | .array _ => 5
  | .object _ => 6

mutual

/-- The order of two values in canonical form. -/
def orderCanonical : Json → Json → Ordering
  | .number a, .number b => orderNumbers a b
  | .string a, .string b => orderTexts a b
  | .array a, .array b => orderItems a b
  | .object a, .object b => (orderKeys a b).then (orderValues a b)
  | a, b => Ord.compare (rank a) (rank b)

/-- The order of two lists of elements. -/
def orderItems : List Json → List Json → Ordering
  | [], [] => .eq
  | [], _ => .lt
  | _, [] => .gt
  | a :: as, b :: bs => (orderCanonical a b).then (orderItems as bs)

/-- The order of the keys of two lists of members. -/
def orderKeys : List (String × Json) → List (String × Json) → Ordering
  | [], [] => .eq
  | [], _ => .lt
  | _, [] => .gt
  | (j, _) :: as, (k, _) :: bs => (orderTexts j k).then (orderKeys as bs)

/-- The order of the values of two lists of members. -/
def orderValues : List (String × Json) → List (String × Json) → Ordering
  | [], [] => .eq
  | [], _ => .lt
  | _, [] => .gt
  | (_, a) :: as, (_, b) :: bs => (orderCanonical a b).then (orderValues as bs)

end

/-- The order of two values. -/
def order (a b : Json) : Ordering := orderCanonical (canonical a) (canonical b)

/-- Whether two values are equal in the order. -/
def equal (a b : Json) : Bool := order a b == .eq

/-- Whether a value is not above another. -/
def notAbove (a b : Json) : Bool := order a b != .gt

end Hydration.Filter
