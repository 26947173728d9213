import Hydration.Proofs.Typed.Written

/-!
# What hydrating looks at

Two typed values are alike if they differ, at any depth, only in what their instances
hold besides the values of the declared keys: in the order of the keys, in further
keys, and in entries that a look-up does not find. Alike values are hydrated alike,
by every rule and at every place.
-/

namespace Hydration.Converters

variable (plan : Converters)

/-- Two typed values differ only in what instances hold besides the values of the
declared keys. -/
inductive Alike : TypedValue → TypedValue → Prop where
  /-- They do not differ. -/
  | refl (typed : TypedValue) : Alike typed typed
  /-- They differ in several places. -/
  | trans {a b c : TypedValue} (hab : Alike a b) (hbc : Alike b c) : Alike a c
  /-- Two instances of a class have the same values of its declared keys. -/
  | declared {id : TypeId} {fields fields' : List (String × Option TypedValue)}
      (h : ∀ converter, plan.classes.get? id = some converter → ∀ field ∈ converter.fields,
        (Instance.mk id fields).get? field.key = (Instance.mk id fields').get? field.key) :
      Alike (.object ⟨id, fields⟩) (.object ⟨id, fields'⟩)
  /-- They differ in a field. -/
  | field {a b : TypedValue} (h : Alike a b) (id : TypeId) (key : String)
      (front back : List (String × Option TypedValue)) :
      Alike (.object ⟨id, front ++ (key, some a) :: back⟩)
        (.object ⟨id, front ++ (key, some b) :: back⟩)
  /-- They differ in an element. -/
  | item {a b : TypedValue} (h : Alike a b) (front back : List TypedValue) :
      Alike (.array (front ++ a :: back)) (.array (front ++ b :: back))
  /-- They differ in the value of an entry. -/
  | entry {a b : TypedValue} (h : Alike a b) (key : String)
      (front back : List (String × TypedValue)) :
      Alike (.map (front ++ (key, a) :: back)) (.map (front ++ (key, b) :: back))
  /-- They differ in the slot of strings. -/
  | slotString {a b : TypedValue} (h : Alike a b) (slots : UnionValue) :
      Alike (.union { slots with string := some a }) (.union { slots with string := some b })
  /-- They differ in the slot of arrays. -/
  | slotArray {a b : List TypedValue} (h : Alike (.array a) (.array b)) (slots : UnionValue) :
      Alike (.union { slots with array := some a }) (.union { slots with array := some b })
  /-- They differ in the slot of instances. -/
  | slotObject {a b : TypedObject} (h : Alike (.object a) (.object b)) (slots : UnionValue) :
      Alike (.union { slots with object := some a }) (.union { slots with object := some b })
  /-- They differ in the slot of maps. -/
  | slotMap {a b : List (String × TypedValue)} (h : Alike (.map a) (.map b)) (slots : UnionValue) :
      Alike (.union { slots with map := some a }) (.union { slots with map := some b })

variable {plan} {plan' : Converters}

/-- Instances are written alike by every rule if they are as instances of each class. -/
theorem writeLayer_object_congr {a b : Instance Writer}
    (h : ∀ id path, plan.writeObject id a path = plan'.writeObject id b path) :
    plan.writeLayer (.object a) = plan'.writeLayer (.object b) := by
  funext rule path
  induction rule with
  | classRef id => exact h id path
  | nullable inner ih => exact ih
  | copy primitive => cases primitive <;> rfl
  | _ => rfl

/-- Union values are written alike by every rule if the codec of each union encodes them
alike. -/
theorem writeLayer_union_congr {a b : UnionSlots Writer}
    (h : ∀ id path, (plan.unionCodec id).bind (plan.encode · a path)
      = (plan'.unionCodec id).bind (plan'.encode · b path)) :
    plan.writeLayer (.union a) = plan'.writeLayer (.union b) := by
  funext rule path
  induction rule with
  | unionRef id => exact h id path
  | nullable inner ih => exact ih
  | copy primitive => cases primitive <;> rfl
  | _ => rfl

/-- An instance is written as its class and the values of the declared keys say. -/
theorem writeObject_congr {a b : Instance Writer} (hid : a.classId = b.classId)
    (h : ∀ converter, plan.classes.get? a.classId = some converter →
      ∀ field ∈ converter.fields, a.get? field.key = b.get? field.key)
    (id : TypeId) (path : Path) : plan.writeObject id a path = plan.writeObject id b path := by
  have hfields : ∀ (className : String) (fields : List FieldConverter),
      (∀ field ∈ fields, a.get? field.key = b.get? field.key) →
      plan.writeFields className a path fields = plan.writeFields className b path fields := by
    intro className fields hget
    induction fields with
    | nil => rfl
    | cons field rest ih =>
      have hfield : plan.writeField className a field path
          = plan.writeField className b field path := by
        unfold writeField
        rw [hget field List.mem_cons_self]
      rw [writeFields, writeFields, hfield,
        ih fun other hm => hget other (List.mem_cons_of_mem _ hm)]
  unfold writeObject classConverter
  cases hc : plan.classes.get? id with
  | none => rfl
  | some converter =>
    dsimp only [bind, Except.bind]
    by_cases ha : a.classId = id
    · have hb : b.classId = id := hid ▸ ha
      rw [if_pos ha, if_pos hb, hfields converter.name converter.fields (h converter (ha ▸ hc))]
    · have hb : b.classId ≠ id := hid ▸ ha
      rw [if_neg ha, if_neg hb, hid]

/-- A codec encodes the slots as their values are hydrated. -/
theorem encode_slotWriters (codec : UnionCodec) (slots : UnionValue) (path : Path) :
    plan.encode codec (plan.slotWriters slots) path
      = if let some b := slots.bool then flagOf path "bool" codec.boolean (.bool b)
        else if let some i := slots.integer then
          flagOf path "integer" codec.integer (.number (.ofInt64 i))
        else if let some n := slots.double then flagOf path "double" codec.double (.number n)
        else if let some typed := slots.string then do
          let rule ← memberOf path "string" codec.string
          plan.hydrateRule typed rule.rule path
        else if let some items := slots.array then do
          let rule ← memberOf path "array" codec.array
          plan.hydrateRule (.array items) (.array rule) path
        else if let some object := slots.object then do
          let id ← memberOf path "object" codec.classMember
          plan.hydrateRule (.object object) (.classRef id) path
        else if let some entries := slots.map then do
          let rule ← memberOf path "map" codec.map
          plan.hydrateRule (.map entries) (.map rule) path
        else if let some tag := slots.enumCase then do
          let id ← memberOf path "enum" codec.enumeration
          plan.writeCase id tag path
        else if codec.nullable then .ok .null
        else .error (.nullUnion path) := by
  obtain ⟨b, i, d, s, a, o, m, e⟩ := slots
  rw [slotWriters]
  unfold encode
  cases b <;> cases i <;> cases d <;> cases s <;> cases a <;> cases o <;> cases m <;> rfl

/-- Alike values are hydrated alike by every rule, with the same errors. -/
theorem hydrateRule_eq_of_alike {a b : TypedValue} (h : plan.Alike a b) :
    plan.hydrateRule a = plan.hydrateRule b := by
  induction h with
  | refl => rfl
  | trans _ _ ihab ihbc => exact ihab.trans ihbc
  | @declared id fields fields' h =>
    refine writeLayer_object_congr fun class' path => ?_
    refine writeObject_congr (by rw [instanceWriters, instanceWriters]) ?_ class' path
    intro converter hc field hm
    rw [instanceWriters] at hc
    rw [get?_instanceWriters, get?_instanceWriters, h converter hc field hm]
  | field _ id key front back ih =>
    unfold hydrateRule
    rw [layer, layer, instanceWriters, instanceWriters, fieldWriters_eq, fieldWriters_eq]
    simp only [List.map_append, List.map_cons, Option.map_some, ih]
  | item _ front back ih =>
    unfold hydrateRule
    rw [layer, layer, itemWriters_eq, itemWriters_eq]
    simp only [List.map_append, List.map_cons, ih]
  | entry _ key front back ih =>
    unfold hydrateRule
    rw [layer, layer, entryWriters_eq, entryWriters_eq]
    simp only [List.map_append, List.map_cons, ih]
  | slotString _ slots ih | slotArray _ slots ih | slotObject _ slots ih | slotMap _ slots ih =>
    refine writeLayer_union_congr fun id path => ?_
    simp only [encode_slotWriters, ih]

/-- Values that are like an instance are instances of its class. -/
theorem Alike.eq_object {object : TypedObject} {typed : TypedValue}
    (h : plan.Alike (.object object) typed) :
    ∃ other : TypedObject, typed = .object other ∧ other.classId = object.classId := by
  generalize htyped : TypedValue.object object = a at h
  induction h generalizing object with
  | refl => exact ⟨object, htyped.symm, rfl⟩
  | trans _ _ ihab ihbc =>
    obtain ⟨middle, rfl, hmiddle⟩ := ihab htyped
    obtain ⟨last, rfl, hlast⟩ := ihbc rfl
    exact ⟨last, rfl, hlast.trans hmiddle⟩
  | declared | field =>
    cases htyped
    exact ⟨_, rfl, rfl⟩
  | _ => cases htyped

/-- Alike instances are hydrated alike. -/
theorem hydrate_eq_of_alike {object other : TypedObject}
    (h : plan.Alike (.object object) (.object other)) :
    plan.hydrate object = plan.hydrate other := by
  obtain ⟨_, hsame, hid⟩ := h.eq_object
  cases hsame
  have hrule := congrFun (congrFun (hydrateRule_eq_of_alike h) (.classRef object.classId)) Path.top
  unfold hydrate
  rw [hid]
  exact hrule

end Hydration.Converters
