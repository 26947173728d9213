import Hydration.Filter.Access

/-!
# Arithmetic on values

Integers of sixty-four bits stay integers under addition, subtraction,
multiplication and remainder, and wrap; every other combination of numbers is
computed in doubles. Strings are concatenated, repeated and split, arrays are
concatenated and lose elements, and objects are joined. Null is neutral for
addition.
-/

namespace Hydration.Filter

/-- The remainder of two doubles with the sign of the first: exact, since the
remainder of two numbers with a common unit is a multiple of that unit. -/
def remainderOfDoubles (a b : Float) : Float :=
  if a.isNaN || b.isNaN || a.isInf || b == 0 then 0 / 0
  else if b.isInf then a
  else
    let x := Decimal.Binary.ofFloat a
    let y := Decimal.Binary.ofFloat b
    let unit := min x.exponent y.exponent
    let rest := (x.significand <<< (x.exponent - unit).toNat)
      % (y.significand <<< (y.exponent - unit).toNat)
    let magnitude := (Float.ofNat rest).scaleB unit
    if Decimal.isNegative a then -magnitude else magnitude

/-- An operator on two doubles. -/
def onDoubles (operator : Operator) (a b : Float) : Float :=
  match operator with
  | .add => a + b
  | .subtract => a - b
  | .multiply => a * b
  | .divide => a / b
  | .remainder => remainderOfDoubles a b

/-- An operator on two integers; the remainder by zero is not defined. -/
def onIntegers? (operator : Operator) (a b : Int64) : Option Json.Number :=
  match operator with
  | .add => some (.ofInt64 (a + b))
  | .subtract => some (.ofInt64 (a - b))
  | .multiply => some (.ofInt64 (a * b))
  | .divide => some (.double (a.toFloat / b.toFloat))
  | .remainder => if b = 0 then none else some (.ofInt64 (a % b))

/-- An operator on two numbers. -/
def onNumbers? (operator : Operator) (a b : Json.Number) : Option Json.Number :=
  match a.toInt64?, b.toInt64? with
  | some i, some j => onIntegers? operator i j
  | _, _ => some (.double (onDoubles operator (toDouble a) (toDouble b)))

/-- A text repeated, or null for no repetition. -/
def repeated (text : String) (times : Int) : Json :=
  if 0 < times then .string (String.join (List.replicate times.toNat text)) else .null

/-- The pieces of a text between occurrences of a separator. -/
def split (text separator : String) : List Json :=
  if text.isEmpty then []
  else if separator.isEmpty then text.toList.map fun c => .string (String.singleton c)
  else (text.splitOn separator).map .string

mutual

/-- An object joined with another, whose members win; where both have an
object, these are joined in turn. -/
def joinDeeply (members : List (String × Json)) : List (String × Json) → List (String × Json)
  | [] => members
  | (key, value) :: rest =>
    let joined := joinValue ((Entries.get? key members).getD .null) value
    joinDeeply (Entries.insert key joined members) rest

/-- A member value joined with another. -/
def joinValue (old : Json) : Json → Json
  | .object new =>
    match old with
    | .object members => .object (joinDeeply members new)
    | _ => .object new
  | new => new

end

/-- An operator on two values, if it is defined on them. -/
def operate? (operator : Operator) (left right : Json) : Option Json :=
  match operator, left, right with
  | operator, .number a, .number b => (onNumbers? operator a b).map .number
  | .add, .null, value => some value
  | .add, value, .null => some value
  | .add, .string a, .string b => some (.string (a ++ b))
  | .add, .array a, .array b => some (.array (a ++ b))
  | .add, .object a, .object b =>
    some (.object (b.foldl (fun members (key, value) => Entries.insert key value members) a))
  | .subtract, .array a, .array b =>
    some (.array (a.filter fun item => !b.any fun other => equal item other))
  | .multiply, .string text, value => (integer? value).map (repeated text)
  | .multiply, value, .string text => (integer? value).map (repeated text)
  | .multiply, .object a, .object b => some (.object (joinDeeply a b))
  | .divide, .string text, .string separator => some (.array (split text separator))
  | _, _, _ => none

/-- An operator on two values. -/
def operate (operator : Operator) (left right : Json) : Outcome :=
  match operate? operator left right with
  | some value => .ok value
  | none => .error (.notOperable operator left right)

/-- The negative of a number. -/
def negative (value : Json) : Outcome :=
  match value with
  | .number n =>
    match n.toInt64? with
    | some i => .ok (.number (.ofInt64 (-i)))
    | none => .ok (.number (.double (-(toDouble n))))
  | value => .error (.notApplicable value)

/-- Values added up in order, starting from null. -/
def total (values : List Json) : Outcome :=
  values.foldlM (operate .add) .null

/-- Whether a comparison holds. -/
def Comparison.holds (comparison : Comparison) (left right : Json) : Bool :=
  match comparison, order left right with
  | .equal, .eq | .less, .lt | .greater, .gt => true
  | .atMost, .lt | .atMost, .eq | .atLeast, .gt | .atLeast, .eq => true
  | .unequal, .lt | .unequal, .gt => true
  | _, _ => false

end Hydration.Filter
