import Hydration.Filter.Basic
import Hydration.Filter.Order

/-!
# Parts of values

Selecting members, elements and slices, and measuring values. Positions may
be negative, which counts from the end. A selection that a value does not
admit is a failure with its reason; selecting from null gives null.
-/

namespace Hydration.Filter

/-- Why a filter fails on a value. -/
inductive Failure where
  /-- A value cannot be indexed with a key. -/
  | notIndexable (value key : Json)
  /-- A value has no elements. -/
  | notIterable (value : Json)
  /-- A value has no slice between two positions. -/
  | notSliceable (value lower upper : Json)
  /-- An operator is not defined on two values. -/
  | notOperable (operator : Operator) (left right : Json)
  /-- A function is not defined on a value. -/
  | notApplicable (value : Json)
  /-- A value is no key of an object. -/
  | notAKey (value : Json)
  /-- The filter asked for the failure. -/
  | raised (value : Json)
  /-- A name is not defined. -/
  | undefined (name : String)

/-- An output or a failure in its place. -/
abbrev Outcome := Except Failure Json

/-- Whether a value counts as true: all but null and false do. -/
def isTruthy : Json → Bool
  | .null => false
  | .bool b => b
  | _ => true

/-- The signed integer that a value is. -/
def integer? : Json → Option Int
  | .number n => n.toInt64?.map Int64.toInt
  | _ => none

/-- A natural number as a value. -/
def natural (n : Nat) : Json := .number (.ofNat n)

/-- The position that an index means, if it lies inside. -/
def position? (size : Nat) (place : Int) : Option Nat :=
  let i := if place < 0 then place + size else place
  if 0 ≤ i ∧ i < size then some i.toNat else none

/-- The position at which a slice's end lies, moved inside. -/
def bound (size : Nat) (place : Int) : Nat :=
  let i := if place < 0 then place + size else place
  min i.toNat size

/-- The member or element that a key selects. -/
def select (value key : Json) : Outcome :=
  match value, key with
  | .null, _ => .ok .null
  | .object members, .string k => .ok ((Entries.get? k members).getD .null)
  | .array items, key =>
    match integer? key with
    | some place => .ok (((position? items.length place).bind (items[·]?)).getD .null)
    | none => .error (.notIndexable value key)
  | value, key => .error (.notIndexable value key)

/-- Whether a value has a key or an index. -/
def hasKey (value key : Json) : Outcome :=
  match value, key with
  | .object members, .string k => .ok (.bool (Entries.get? k members).isSome)
  | .array items, key =>
    match integer? key with
    | some place => .ok (.bool (decide (0 ≤ place ∧ place < items.length)))
    | none => .error (.notIndexable value key)
  | value, key => .error (.notIndexable value key)

/-- The elements of an array or the member values of an object. -/
def elements? : Json → Option (List Json)
  | .array items => some items
  | .object members => some (members.map Prod.snd)
  | _ => none

/-- The elements of an array. -/
def items? : Json → Option (List Json)
  | .array items => some items
  | _ => none

/-- The position that a slice's end means, or `standard` for null. -/
def sliceEnd? (size standard : Nat) : Json → Option Nat
  | .null => some standard
  | value => (integer? value).map (bound size)

/-- The part of a list between two positions. -/
def cut {α : Type} (items : List α) (lower upper : Json) : Option (List α) := do
  let start ← sliceEnd? items.length 0 lower
  let stop ← sliceEnd? items.length items.length upper
  return (items.drop start).take (stop - start)

/-- The part of an array or string between two positions. -/
def slicePart (value lower upper : Json) : Outcome :=
  let part? : Option Json := match value with
    | .null => some .null
    | .array items => (cut items lower upper).map .array
    | .string text => (cut text.toList lower upper).map fun part => .string (String.ofList part)
    | _ => none
  match part? with
  | some part => .ok part
  | none => .error (.notSliceable value lower upper)

/-- The sorted keys of an object or the indexes of an array. -/
def keys? : Json → Option (List Json)
  | .object members =>
    some (((members.map Prod.fst).mergeSort fun a b => decide (a ≤ b)).map .string)
  | .array items => some ((List.range items.length).map natural)
  | _ => none

/-- The members of an object as objects. -/
def entries? : Json → Option (List Json)
  | .object members =>
    some (members.map fun (key, value) => .object [("key", .string key), ("value", value)])
  | _ => none

/-- The number of characters, elements or members of a value, or the magnitude
of a number. -/
def length? : Json → Option Json
  | .null => some (natural 0)
  | .bool _ => none
  | .number n =>
    match n.toInt64? with
    | some i => some (.number (.ofInt64 (if i < 0 then -i else i)))
    | none => some (.number (.double (toDouble n).abs))
  | .string text => some (natural text.length)
  | .array items => some (natural items.length)
  | .object members => some (natural members.length)

/-- The name of a value's kind. -/
def typeName : Json → String
  | .null => "null"
  | .bool _ => "boolean"
  | .number _ => "number"
  | .string _ => "string"
  | .array _ => "array"
  | .object _ => "object"

mutual

/-- A value and everything inside it, outer values first. -/
def descendants : Json → List Json
  | .array items => .array items :: descendantItems items
  | .object members => .object members :: descendantMembers members
  | value => [value]

/-- The elements and everything inside them. -/
def descendantItems : List Json → List Json
  | [] => []
  | item :: rest => descendants item ++ descendantItems rest

/-- The member values and everything inside them. -/
def descendantMembers : List (String × Json) → List Json
  | [] => []
  | (_, value) :: rest => descendants value ++ descendantMembers rest

end

end Hydration.Filter
