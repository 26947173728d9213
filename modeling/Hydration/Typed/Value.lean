import Hydration.Json.Basic
import Hydration.Transform.Value
import Hydration.TypeGraph.Basic

/-!
# Typed values

What dehydrating a document produces and hydrating consumes. Instances and
union values are structures over the type of their parts, so that a reader or
writer of the parts can stand in their place. The value of a union has a slot
for each kind of member; none filled means null. Equality is decided through
`TypedValue.same`, for which `TypedValue.same_iff` is the law.
-/

namespace Hydration

/-- An instance of a class: its fields by key, where nothing marks absence. -/
structure Instance (α : Type) where
  /-- The class. -/
  classId : TypeId
  /-- The fields, in declared order if the instance was read from a document. -/
  fields : List (String × Option α)

/-- The value of a present field. -/
def Instance.get? {α : Type} (object : Instance α) (key : String) : Option α :=
  (Entries.get? key object.fields).join

/-- The value of a union of several members: the filled slot tells the member. -/
structure UnionSlots (α : Type) where
  /-- The slot of truth values. -/
  bool : Option Bool
  /-- The slot of integers. -/
  integer : Option Int64
  /-- The slot of numbers, held as read. -/
  double : Option Json.Number
  /-- The slot of strings, plain or transformed. -/
  string : Option α
  /-- The slot of arrays. -/
  array : Option (List α)
  /-- The slot of instances. -/
  object : Option (Instance α)
  /-- The slot of maps. -/
  map : Option (List (String × α))
  /-- The slot of enum cases. -/
  enumCase : Option String

/-- No slot is filled, which stands for null. -/
def UnionSlots.null {α : Type} : UnionSlots α :=
  ⟨none, none, none, none, none, none, none, none⟩

/-- Whether no slot is filled. -/
def UnionSlots.isNull {α : Type} (slots : UnionSlots α) : Bool :=
  slots.bool.isNone && slots.integer.isNone && slots.double.isNone && slots.string.isNone
    && slots.array.isNone && slots.object.isNone && slots.map.isNone && slots.enumCase.isNone

/-- A value with its type. -/
inductive TypedValue where
  /-- A JSON value of no particular type. -/
  | any (value : Json)
  /-- The null value. -/
  | null
  /-- A truth value. -/
  | bool (value : Bool)
  /-- An integer. -/
  | integer (value : Int64)
  /-- A number, held as read. -/
  | double (value : Json.Number)
  /-- A plain string. -/
  | string (value : String)
  /-- A string under an interpretation. -/
  | transformed (value : Transformed)
  /-- An array. -/
  | array (items : List TypedValue)
  /-- A map with its entries in order. -/
  | map (entries : List (String × TypedValue))
  /-- An instance of a class. -/
  | object (value : Instance TypedValue)
  /-- A case of an enum. -/
  | enumCase (tag : String)
  /-- A value of a union. -/
  | union (value : UnionSlots TypedValue)

/-- An instance whose parts are typed values. -/
abbrev TypedObject := Instance TypedValue

/-- A union value whose parts are typed values. -/
abbrev UnionValue := UnionSlots TypedValue

namespace TypedValue

instance : Inhabited TypedValue := ⟨null⟩

mutual

/-- Whether two values are equal. -/
def same : TypedValue → TypedValue → Bool
  | any a, any b => decide (a = b)
  | null, null => true
  | bool a, bool b => a == b
  | integer a, integer b => decide (a = b)
  | double a, double b => decide (a = b)
  | string a, string b => a == b
  | transformed a, transformed b => decide (a = b)
  | array a, array b => sameItems a b
  | map a, map b => sameEntries a b
  | object a, object b => sameInstance a b
  | enumCase a, enumCase b => a == b
  | union a, union b => sameSlots a b
  | _, _ => false

/-- Whether two lists of elements are equal. -/
def sameItems : List TypedValue → List TypedValue → Bool
  | [], [] => true
  | a :: as, b :: bs => same a b && sameItems as bs
  | _, _ => false

/-- Whether two lists of entries are equal. -/
def sameEntries : List (String × TypedValue) → List (String × TypedValue) → Bool
  | [], [] => true
  | (j, a) :: as, (k, b) :: bs => j == k && same a b && sameEntries as bs
  | _, _ => false

/-- Whether two slots of one value are equal. -/
def sameOption : Option TypedValue → Option TypedValue → Bool
  | none, none => true
  | some a, some b => same a b
  | _, _ => false

/-- Whether two lists of fields are equal. -/
def sameFields : List (String × Option TypedValue) → List (String × Option TypedValue) → Bool
  | [], [] => true
  | (j, a) :: as, (k, b) :: bs => j == k && sameOption a b && sameFields as bs
  | _, _ => false

/-- Whether two instances are equal. -/
def sameInstance : Instance TypedValue → Instance TypedValue → Bool
  | ⟨c, fields⟩, ⟨d, others⟩ => decide (c = d) && sameFields fields others

/-- Whether two slots of elements are equal. -/
def sameArray : Option (List TypedValue) → Option (List TypedValue) → Bool
  | none, none => true
  | some a, some b => sameItems a b
  | _, _ => false

/-- Whether two slots of an instance are equal. -/
def sameObject : Option (Instance TypedValue) → Option (Instance TypedValue) → Bool
  | none, none => true
  | some a, some b => sameInstance a b
  | _, _ => false

/-- Whether two slots of entries are equal. -/
def sameMap : Option (List (String × TypedValue)) → Option (List (String × TypedValue)) → Bool
  | none, none => true
  | some a, some b => sameEntries a b
  | _, _ => false

/-- Whether two union values are equal. -/
def sameSlots : UnionSlots TypedValue → UnionSlots TypedValue → Bool
  | ⟨b, i, d, s, a, o, m, e⟩, ⟨b', i', d', s', a', o', m', e'⟩ =>
    decide (b = b') && decide (i = i') && decide (d = d') && sameOption s s'
      && sameArray a a' && sameObject o o' && sameMap m m' && decide (e = e')

end

mutual

/-- `same` decides equality of values. -/
theorem same_iff : ∀ a b : TypedValue, same a b = true ↔ a = b
  | any _, b => by cases b <;> simp [same]
  | null, b => by cases b <;> simp [same]
  | bool _, b => by cases b <;> simp [same]
  | integer _, b => by cases b <;> simp [same]
  | double _, b => by cases b <;> simp [same]
  | string _, b => by cases b <;> simp [same]
  | transformed _, b => by cases b <;> simp [same]
  | array a, b => by cases b <;> simp [same, sameItems_iff a]
  | map a, b => by cases b <;> simp [same, sameEntries_iff a]
  | object a, b => by cases b <;> simp [same, sameInstance_iff a]
  | enumCase _, b => by cases b <;> simp [same]
  | union a, b => by cases b <;> simp [same, sameSlots_iff a]

/-- `sameItems` decides equality of element lists. -/
theorem sameItems_iff : ∀ a b : List TypedValue, sameItems a b = true ↔ a = b
  | [], b => by cases b <;> simp [sameItems]
  | a :: as, b => by cases b <;> simp [sameItems, same_iff a, sameItems_iff as]

/-- `sameEntries` decides equality of entry lists. -/
theorem sameEntries_iff : ∀ a b : List (String × TypedValue), sameEntries a b = true ↔ a = b
  | [], b => by cases b <;> simp [sameEntries]
  | (j, a) :: as, b => by
    cases b with
    | nil => simp [sameEntries]
    | cons e bs =>
      obtain ⟨k, b⟩ := e
      simp [sameEntries, same_iff a, sameEntries_iff as, and_assoc]

/-- `sameOption` decides equality of slots. -/
theorem sameOption_iff : ∀ a b : Option TypedValue, sameOption a b = true ↔ a = b
  | none, b => by cases b <;> simp [sameOption]
  | some a, b => by cases b <;> simp [sameOption, same_iff a]

/-- `sameFields` decides equality of field lists. -/
theorem sameFields_iff :
    ∀ a b : List (String × Option TypedValue), sameFields a b = true ↔ a = b
  | [], b => by cases b <;> simp [sameFields]
  | (j, a) :: as, b => by
    cases b with
    | nil => simp [sameFields]
    | cons e bs =>
      obtain ⟨k, b⟩ := e
      simp [sameFields, sameOption_iff a, sameFields_iff as, and_assoc]

/-- `sameInstance` decides equality of instances. -/
theorem sameInstance_iff : ∀ a b : Instance TypedValue, sameInstance a b = true ↔ a = b
  | ⟨_, fields⟩, b => by
    cases b
    simp [sameInstance, sameFields_iff fields]

/-- `sameArray` decides equality of slots of elements. -/
theorem sameArray_iff : ∀ a b : Option (List TypedValue), sameArray a b = true ↔ a = b
  | none, b => by cases b <;> simp [sameArray]
  | some a, b => by cases b <;> simp [sameArray, sameItems_iff a]

/-- `sameObject` decides equality of slots of an instance. -/
theorem sameObject_iff : ∀ a b : Option (Instance TypedValue), sameObject a b = true ↔ a = b
  | none, b => by cases b <;> simp [sameObject]
  | some a, b => by cases b <;> simp [sameObject, sameInstance_iff a]

/-- `sameMap` decides equality of slots of entries. -/
theorem sameMap_iff :
    ∀ a b : Option (List (String × TypedValue)), sameMap a b = true ↔ a = b
  | none, b => by cases b <;> simp [sameMap]
  | some a, b => by cases b <;> simp [sameMap, sameEntries_iff a]

/-- `sameSlots` decides equality of union values. -/
theorem sameSlots_iff : ∀ a b : UnionSlots TypedValue, sameSlots a b = true ↔ a = b
  | ⟨_, _, _, s, a, o, m, _⟩, c => by
    cases c
    simp [sameSlots, sameOption_iff s, sameArray_iff a, sameObject_iff o, sameMap_iff m,
      and_assoc]

end

instance : DecidableEq TypedValue := fun a b => decidable_of_iff _ (same_iff a b)

instance : DecidableEq (Instance TypedValue) :=
  fun a b => decidable_of_iff _ (sameInstance_iff a b)

instance : DecidableEq (UnionSlots TypedValue) :=
  fun a b => decidable_of_iff _ (sameSlots_iff a b)

end TypedValue

end Hydration
