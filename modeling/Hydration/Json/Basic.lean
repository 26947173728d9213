import Hydration.Json.Number
import Hydration.OrderedMap

/-!
# JSON values

The document type of the library. An object is the list of its members in
document order; a reader of text records a repeated key once, at its first
place and with its last value. Equality is decided through `Json.same`, for
which `Json.same_iff` is the law.
-/

namespace Hydration

/-- A JSON value. -/
inductive Json where
  /-- The null value. -/
  | null
  /-- A truth value. -/
  | bool (value : Bool)
  /-- A number. -/
  | number (value : Json.Number)
  /-- A string. -/
  | string (value : String)
  /-- An array with its elements. -/
  | array (items : List Json)
  /-- An object with its members in order. -/
  | object (members : List (String × Json))

namespace Json

instance : Inhabited Json := ⟨null⟩

/-- The kinds of JSON values. -/
inductive Kind where
  /-- The null value. -/
  | null
  /-- Truth values. -/
  | bool
  /-- Numbers. -/
  | number
  /-- Strings. -/
  | string
  /-- Arrays. -/
  | array
  /-- Objects. -/
  | object
  deriving DecidableEq

/-- The name of a kind in error texts. -/
def Kind.name : Kind → String
  | null => "null"
  | bool => "bool"
  | number => "number"
  | string => "string"
  | array => "array"
  | object => "object"

/-- The kind of a value. -/
def kind : Json → Kind
  | null => .null
  | bool _ => .bool
  | number _ => .number
  | string _ => .string
  | array _ => .array
  | object _ => .object

/-- Whether a value is null. -/
def isNull : Json → Bool
  | null => true
  | _ => false

/-- A value is null exactly when it is the null value. -/
@[simp] theorem isNull_iff (value : Json) : value.isNull = true ↔ value = null := by
  cases value <;> simp [isNull]

mutual

/-- Whether two values are equal. -/
def same : Json → Json → Bool
  | null, null => true
  | bool a, bool b => a == b
  | number a, number b => decide (a = b)
  | string a, string b => a == b
  | array a, array b => sameItems a b
  | object a, object b => sameMembers a b
  | _, _ => false

/-- Whether two lists of elements are equal. -/
def sameItems : List Json → List Json → Bool
  | [], [] => true
  | a :: as, b :: bs => same a b && sameItems as bs
  | _, _ => false

/-- Whether two lists of members are equal. -/
def sameMembers : List (String × Json) → List (String × Json) → Bool
  | [], [] => true
  | (j, a) :: as, (k, b) :: bs => j == k && same a b && sameMembers as bs
  | _, _ => false

end

mutual

/-- `same` decides equality of values. -/
theorem same_iff : ∀ a b : Json, same a b = true ↔ a = b
  | null, b => by cases b <;> simp [same]
  | bool _, b => by cases b <;> simp [same]
  | number _, b => by cases b <;> simp [same]
  | string _, b => by cases b <;> simp [same]
  | array a, b => by cases b <;> simp [same, sameItems_iff a]
  | object a, b => by cases b <;> simp [same, sameMembers_iff a]

/-- `sameItems` decides equality of element lists. -/
theorem sameItems_iff : ∀ a b : List Json, sameItems a b = true ↔ a = b
  | [], b => by cases b <;> simp [sameItems]
  | a :: as, b => by cases b <;> simp [sameItems, same_iff a, sameItems_iff as]

/-- `sameMembers` decides equality of member lists. -/
theorem sameMembers_iff : ∀ a b : List (String × Json), sameMembers a b = true ↔ a = b
  | [], b => by cases b <;> simp [sameMembers]
  | (j, a) :: as, b => by
    cases b with
    | nil => simp [sameMembers]
    | cons e bs =>
      obtain ⟨k, b⟩ := e
      simp [sameMembers, same_iff a, sameMembers_iff as, and_assoc]

end

instance : DecidableEq Json := fun a b => decidable_of_iff _ (same_iff a b)

end Json

end Hydration
