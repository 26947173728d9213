import Hydration.Proofs.Typed.Alike
import Hydration.Proofs.Typed.Equations

/-!
# Optional fields that may be null

An optional field whose rule does not convert null may as well have that rule made
nullable: null marks its absence in both cases, and every other value is read by the rule
itself. Two plans that differ in nothing else read documents alike. They write values alike
in which no such field holds null: only the nullable rule writes it.
-/

namespace Hydration

namespace TypedValue

/-- The immediate parts of a value: elements, the values of entries and of present fields,
and what the slots of a union value hold. -/
def parts : TypedValue → List TypedValue
  | array items => items
  | map entries => entries.map Prod.snd
  | object value => value.fields.filterMap Prod.snd
  | union slots =>
    slots.string.toList ++ (slots.array.map array).toList ++ (slots.object.map object).toList
      ++ (slots.map.map map).toList
  | _ => []

/-- A part is smaller than the whole. -/
theorem sizeOf_lt_of_mem_parts {part typed : TypedValue} (h : part ∈ typed.parts) :
    sizeOf part < sizeOf typed := by
  cases typed with
  | array items =>
    have hlt := List.sizeOf_lt_of_mem (show part ∈ items from h)
    rw [array.sizeOf_spec]
    omega
  | map entries =>
    obtain ⟨⟨key, value⟩, hm, rfl⟩ := List.mem_map.mp (show part ∈ entries.map Prod.snd from h)
    have hlt := List.sizeOf_lt_of_mem hm
    rw [Prod.mk.sizeOf_spec] at hlt
    rw [map.sizeOf_spec]
    dsimp only
    omega
  | object value =>
    obtain ⟨⟨key, field⟩, hm, hf⟩ :=
      List.mem_filterMap.mp (show part ∈ value.fields.filterMap Prod.snd from h)
    obtain rfl : field = some part := hf
    have hlt := List.sizeOf_lt_of_mem hm
    obtain ⟨id, fields⟩ := value
    rw [Prod.mk.sizeOf_spec, Option.some.sizeOf_spec] at hlt
    rw [object.sizeOf_spec, Instance.mk.sizeOf_spec]
    dsimp only at hlt
    omega
  | union slots =>
    obtain ⟨b, i, d, s, a, o, m, e⟩ := slots
    simp only [parts, List.mem_append, Option.mem_toList, Option.map_eq_some_iff] at h
    rw [union.sizeOf_spec, UnionSlots.mk.sizeOf_spec]
    rcases h with ((rfl | ⟨items, rfl, rfl⟩) | ⟨value, rfl, rfl⟩) | ⟨entries, rfl, rfl⟩
    · rw [Option.some.sizeOf_spec]
      omega
    · rw [Option.some.sizeOf_spec, array.sizeOf_spec]
      omega
    · rw [Option.some.sizeOf_spec, object.sizeOf_spec]
      omega
    · rw [Option.some.sizeOf_spec, map.sizeOf_spec]
      omega
  | _ => cases h

/-- What holds of a value whenever it holds of its parts holds of every value. -/
theorem inductParts {motive : TypedValue → Prop}
    (step : ∀ typed, (∀ part ∈ typed.parts, motive part) → motive typed) (typed : TypedValue) :
    motive typed :=
  step typed fun part _hp => inductParts step part
termination_by sizeOf typed
decreasing_by exact sizeOf_lt_of_mem_parts _hp

/-- A value occurs in another one, at any depth. -/
inductive Within (inner : TypedValue) : TypedValue → Prop where
  /-- It is the value. -/
  | self : Within inner inner
  /-- It occurs in a part of the value. -/
  | part {part typed : TypedValue} (hm : part ∈ typed.parts) (h : Within inner part) :
      Within inner typed

/-- None of certain fields, given by class and key, holds null in an instance that occurs in
a value. -/
def NullFree (fields : TypeId → String → Prop) (typed : TypedValue) : Prop :=
  ∀ object : TypedObject, Within (.object object) typed →
    ∀ key, fields object.classId key → object.get? key ≠ some .null

/-- None of the fields holds null in the value itself, if it is an instance, nor in a part. -/
theorem nullFree_iff {fields : TypeId → String → Prop} {typed : TypedValue} :
    typed.NullFree fields
      ↔ (∀ object : TypedObject, typed = .object object →
          ∀ key, fields object.classId key → object.get? key ≠ some .null)
        ∧ ∀ part ∈ typed.parts, part.NullFree fields := by
  constructor
  · intro h
    refine ⟨?_, fun part hm object hw => h object (.part hm hw)⟩
    rintro object rfl
    exact h object .self
  · rintro ⟨hself, hparts⟩ object hw
    cases hw with
    | self => exact hself object rfl
    | part hm hw => exact hparts _ hm object hw

/-- A value that is no instance and has no parts holds no null in a field. -/
theorem nullFree_of_parts_eq_nil {fields : TypeId → String → Prop} {typed : TypedValue}
    (hobject : ∀ object, typed ≠ .object object) (hparts : typed.parts = []) :
    typed.NullFree fields := by
  refine nullFree_iff.mpr ⟨fun object heq => absurd heq (hobject object), fun part hm => ?_⟩
  rw [hparts] at hm
  cases hm

end TypedValue

/-- A source is read under a nullable rule as under the rule itself, unless it says that it
is null. -/
def Source.Truthful (source : Source) : Prop :=
  source.isNull = false → ∀ rule path, source.read (.nullable rule) path = source.read rule path

/-- A view whose sources are truthful. -/
def View.TruthfulParts : View → Prop
  | .object members => ∀ member ∈ members, member.2.Truthful
  | _ => True

/-- The values of certain fields of an instance are written under a nullable rule as under
the rule itself. -/
def Instance.PresentAt (fields : TypeId → String → Prop) (object : Instance Writer) : Prop :=
  ∀ key, fields object.classId key → ∀ write, object.get? key = some write →
    ∀ rule path, write (.nullable rule) path = write rule path

namespace Converters

/-- The conversions of one field in two plans: they are equal, or the field is relaxed. It is
optional, its rule does not convert null, and the second plan has that rule made nullable. -/
inductive FieldRelaxed (plan : Converters) (relaxed : String → Prop) :
    FieldConverter → FieldConverter → Prop where
  /-- The conversions are equal. -/
  | same (field : FieldConverter) : FieldRelaxed plan relaxed field field
  /-- The field is relaxed. -/
  | nullable {key : String} {rule : Rule} (hk : relaxed key)
      (ha : plan.acceptsNull rule = false) :
      FieldRelaxed plan relaxed ⟨key, true, rule⟩ ⟨key, true, .nullable rule⟩

/-- A relaxed field keeps its key. -/
theorem FieldRelaxed.key_eq {plan : Converters} {relaxed : String → Prop}
    {field field' : FieldConverter} (h : plan.FieldRelaxed relaxed field field') :
    field.key = field'.key := by
  cases h <;> rfl

/-- The converters of one class in two plans: they differ in relaxed fields only. -/
structure ClassRelaxed (plan : Converters) (relaxed : String → Prop)
    (converter converter' : ClassConverter) : Prop where
  /-- The names are equal. -/
  name : converter.name = converter'.name
  /-- The fields are equal or relaxed. -/
  fields : List.Forall₂ (plan.FieldRelaxed relaxed) converter.fields converter'.fields

/-- Two plans differ in relaxed fields only, which are given by class and key. -/
structure Relaxed (relaxed : TypeId → String → Prop) (plan plan' : Converters) : Prop where
  /-- The classes have converters that differ in relaxed fields only. -/
  classes : ∀ id, Option.Rel (plan.ClassRelaxed (relaxed id)) (plan.classes.get? id)
    (plan'.classes.get? id)
  /-- The enums have the same converters. -/
  enums : ∀ id, plan.enums.get? id = plan'.enums.get? id
  /-- The unions have the same codecs. -/
  unions : ∀ id, plan.unions.get? id = plan'.unions.get? id

/-- A member that is not null is read by the rule itself. -/
theorem truthful_sourceOf (plan : Converters) (value : Json) :
    (plan.sourceOf value).Truthful := by
  intro hnull rule path
  refine dehydrateRule_nullable ?_ rule path
  cases value with
  | null => cases hnull
  | _ => nofun

/-- The view of a value shows its parts as they are. -/
theorem truthfulParts_view (plan : Converters) (value : Json) :
    (plan.view value).TruthfulParts := by
  cases value with
  | object members =>
    rw [view, memberSources_eq]
    intro member hm
    obtain ⟨entry, -, rfl⟩ := List.mem_map.mp hm
    exact plan.truthful_sourceOf entry.2
  | _ => trivial

/-- An instance without nulls in certain fields writes them by their rules. -/
theorem presentAt_instanceWriters {plan : Converters} {fields : TypeId → String → Prop}
    {object : TypedObject}
    (h : ∀ key, fields object.classId key → object.get? key ≠ some .null) :
    (plan.instanceWriters object).PresentAt fields := by
  intro key hk write hw
  rw [get?_instanceWriters, Option.map_eq_some_iff] at hw
  obtain ⟨typed, hg, rfl⟩ := hw
  refine hydrateRule_nullable ?_
  rintro rfl
  obtain ⟨id, entries⟩ := object
  rw [instanceWriters] at hk
  exact h key hk hg

namespace Relaxed

variable {plan plan' : Converters} {relaxed : TypeId → String → Prop}
  (h : plan.Relaxed relaxed plan')
include h

/-- The same rules accept null in both plans. -/
theorem acceptsNull_eq (rule : Rule) : plan.acceptsNull rule = plan'.acceptsNull rule := by
  cases rule <;> simp only [acceptsNull, h.unions]

theorem enumConverter_eq (id : TypeId) : plan.enumConverter id = plan'.enumConverter id := by
  simp only [enumConverter, h.enums]

theorem unionCodec_eq (id : TypeId) : plan.unionCodec id = plan'.unionCodec id := by
  simp only [unionCodec, h.unions]

/-- The plans have converters for the same classes. -/
theorem mem_classes_iff (id : TypeId) : id ∈ plan.classes.keys ↔ id ∈ plan'.classes.keys := by
  have hrel := h.classes id
  rw [OrderedMap.mem_keys_iff, OrderedMap.mem_keys_iff]
  generalize plan.classes.get? id = found at hrel ⊢
  generalize plan'.classes.get? id = found' at hrel ⊢
  cases hrel with
  | none => simp
  | some => simp

/-! ## Dehydrating -/

/-- Null marks the absence of a relaxed field whether or not its rule is nullable. -/
theorem readField_eq {fields : String → Prop} {field field' : FieldConverter}
    (hf : plan.FieldRelaxed fields field field') (className : String)
    {members : List (String × Source)} (hm : ∀ member ∈ members, member.2.Truthful)
    (path : Path) :
    plan.readField className members field path
      = plan'.readField className members field' path := by
  cases hf with
  | same => simp only [readField, h.acceptsNull_eq]
  | @nullable key rule _ ha =>
    have hinner : rule.isNullable = false := by
      cases rule with
      | nullable => cases ha
      | _ => rfl
    have houter : (Rule.nullable rule).isNullable = true := rfl
    unfold readField
    cases hg : Entries.get? key members with
    | none => rfl
    | some source =>
      have hread : source.Truthful := hm (key, source) (Entries.mem_of_get? hg)
      cases hnull : source.isNull with
      | true => simp [hnull, hinner, houter, ha]
      | false => simp only [hnull, Bool.false_and, Bool.false_eq_true, if_false, hread hnull]

/-- Relaxed fields are read as before. -/
theorem readFields_eq {relaxed : String → Prop} {fields fields' : List FieldConverter}
    (hf : List.Forall₂ (plan.FieldRelaxed relaxed) fields fields') (className : String)
    {members : List (String × Source)} (hm : ∀ member ∈ members, member.2.Truthful)
    (path : Path) :
    plan.readFields className members path fields
      = plan'.readFields className members path fields' := by
  induction hf with
  | nil => rfl
  | cons hfield _ ih =>
    simp only [readFields, h.readField_eq hfield className hm path, ih, hfield.key_eq]

/-- Both plans have a converter for a class or none of them has. -/
theorem classConverter_eq (id : TypeId) :
    (plan.classConverter id = .error (.missingConverter id)
        ∧ plan'.classConverter id = .error (.missingConverter id))
      ∨ ∃ converter converter', plan.classConverter id = .ok converter
        ∧ plan'.classConverter id = .ok converter'
        ∧ plan.ClassRelaxed (relaxed id) converter converter' := by
  have hrel := h.classes id
  unfold classConverter
  generalize plan.classes.get? id = found at hrel ⊢
  generalize plan'.classes.get? id = found' at hrel ⊢
  cases hrel with
  | none => exact Or.inl ⟨rfl, rfl⟩
  | some hc => exact Or.inr ⟨_, _, rfl, rfl, hc⟩

/-- An object with relaxed fields is read as before. -/
theorem readObject_eq (id : TypeId) {view : View} (hv : view.TruthfulParts) (path : Path) :
    plan.readObject id view path = plan'.readObject id view path := by
  unfold readObject
  rcases h.classConverter_eq id with ⟨hc, hc'⟩ | ⟨converter, converter', hc, hc', hclass⟩
  · rw [hc, hc']
    rfl
  · rw [hc, hc']
    cases view with
    | object members =>
      simp only [bind, Except.bind, hclass.name,
        h.readFields_eq hclass.fields converter'.name hv path]
    | _ => simp only [bind, Except.bind, hclass.name]

theorem decodeString_eq (codec : UnionCodec) (text : String) (path : Path) :
    plan.decodeString codec text path = plan'.decodeString codec text path := by
  simp only [decodeString, enumMember, h.enumConverter_eq]

/-- A value is decoded as before. -/
theorem decode_eq (codec : UnionCodec) {view : View} (hv : view.TruthfulParts) (path : Path) :
    plan.decode codec view path = plan'.decode codec view path := by
  cases view with
  | string text => exact h.decodeString_eq codec text path
  | object members => simp only [decode, h.readObject_eq _ hv]
  | _ => simp only [decode]

/-- One layer is read alike by every rule. -/
theorem readView_eq (value : Json) {view : View} (hv : view.TruthfulParts) :
    plan.readView value view = plan'.readView value view := by
  funext rule path
  induction rule with
  | enumRef id => simp only [readView, h.enumConverter_eq]
  | classRef id => simp only [readView, h.readObject_eq id hv]
  | nullable inner ih => cases view <;> simp only [readView, ih]
  | unionRef id => simp only [readView, h.unionCodec_eq, h.decode_eq _ hv]
  | _ => simp only [readView]

/-- A document is viewed alike, and so it is dehydrated alike by every rule. -/
theorem view_eq (value : Json) : plan.view value = plan'.view value := by
  induction value using Json.inductParts with
  | step value ih =>
    have hread : ∀ part ∈ value.parts, plan.dehydrateRule part = plan'.dehydrateRule part := by
      intro part hm
      rw [dehydrateRule, dehydrateRule, ih part hm,
        h.readView_eq part (plan'.truthfulParts_view part)]
    cases value with
    | array items =>
      rw [view, view, itemReaders_eq, itemReaders_eq]
      exact congrArg View.array (List.map_congr_left hread)
    | object members =>
      rw [view, view, memberSources_eq, memberSources_eq]
      refine congrArg View.object (List.map_congr_left fun member hm => ?_)
      rw [sourceOf, sourceOf, hread member.2 (List.mem_map_of_mem hm)]
    | _ => rw [view, view]

/-- Documents are dehydrated alike, to the same typed value or with the same error. -/
theorem dehydrate_eq (id : TypeId) (value : Json) :
    plan.dehydrate id value = plan'.dehydrate id value := by
  rw [dehydrate, dehydrate, h.view_eq, h.readObject_eq id (plan'.truthfulParts_view value)]

/-! ## Hydrating -/

theorem writeCase_eq (id : TypeId) (tag : String) (path : Path) :
    plan.writeCase id tag path = plan'.writeCase id tag path := by
  simp only [writeCase, h.enumConverter_eq]

/-- A relaxed field that does not hold null is written by its rule, and an absent one is
left out. -/
theorem writeField_eq {object : Instance Writer} (ho : object.PresentAt relaxed)
    {field field' : FieldConverter}
    (hf : plan.FieldRelaxed (relaxed object.classId) field field') (className : String)
    (path : Path) :
    plan.writeField className object field path
      = plan'.writeField className object field' path := by
  cases hf with
  | same => simp only [writeField, h.acceptsNull_eq]
  | @nullable key rule hk =>
    unfold writeField
    cases hg : object.get? key with
    | none => rfl
    | some write => simp only [ho key hk write hg]

/-- Relaxed fields that are present are written as before. -/
theorem writeFields_eq {object : Instance Writer} (ho : object.PresentAt relaxed)
    {fields fields' : List FieldConverter}
    (hf : List.Forall₂ (plan.FieldRelaxed (relaxed object.classId)) fields fields')
    (className : String) (path : Path) :
    plan.writeFields className object path fields
      = plan'.writeFields className object path fields' := by
  induction hf with
  | nil => rfl
  | cons hfield _ ih =>
    simp only [writeFields, h.writeField_eq ho hfield className path, ih, hfield.key_eq]

/-- An object whose relaxed fields are present is written as before. -/
theorem writeObject_eq {object : Instance Writer} (ho : object.PresentAt relaxed) (id : TypeId)
    (path : Path) : plan.writeObject id object path = plan'.writeObject id object path := by
  unfold writeObject
  rcases h.classConverter_eq id with ⟨hc, hc'⟩ | ⟨converter, converter', hc, hc', hclass⟩
  · rw [hc, hc']
    rfl
  · rw [hc, hc']
    dsimp only [bind, Except.bind]
    by_cases hid : object.classId = id
    · subst hid
      rw [if_pos rfl, if_pos rfl, hclass.name, h.writeFields_eq ho hclass.fields]
    · rw [if_neg hid, if_neg hid, hclass.name]
      have hrel := h.classes object.classId
      generalize plan.classes.get? object.classId = found at hrel ⊢
      generalize plan'.classes.get? object.classId = found' at hrel ⊢
      cases hrel with
      | none => rfl
      | some hother => simp only [hother.name]

/-- A layer that is neither an instance nor a union value is written alike by every rule. -/
theorem writeLayer_eq {layer : Layer} (ho : ∀ object, layer ≠ .object object)
    (hu : ∀ slots, layer ≠ .union slots) : plan.writeLayer layer = plan'.writeLayer layer := by
  funext rule path
  induction rule with
  | nullable inner ih => cases layer <;> simp only [writeLayer, ih]
  | _ =>
    cases layer with
    | object object => exact absurd rfl (ho object)
    | union slots => exact absurd rfl (hu slots)
    | _ => simp only [writeLayer, h.writeCase_eq]

/-- A codec encodes slots alike if their values are hydrated alike. -/
theorem encode_eq {slots : UnionValue}
    (hparts : ∀ part ∈ (TypedValue.union slots).parts,
      plan.hydrateRule part = plan'.hydrateRule part) (codec : UnionCodec) (path : Path) :
    plan.encode codec (plan.slotWriters slots) path
      = plan'.encode codec (plan'.slotWriters slots) path := by
  obtain ⟨b, i, d, s, a, o, m, e⟩ := slots
  simp only [TypedValue.parts, List.forall_mem_append, Option.mem_toList, Option.map_eq_some_iff]
    at hparts
  obtain ⟨⟨⟨hstring, harray⟩, hobject⟩, hmap⟩ := hparts
  rw [encode_slotWriters, encode_slotWriters]
  cases b <;> cases i <;> cases d <;> try rfl
  cases s with
  | some typed => simp only [hstring typed rfl]
  | none =>
    cases a with
    | some items => simp only [harray _ ⟨items, rfl, rfl⟩]
    | none =>
      cases o with
      | some value => simp only [hobject _ ⟨value, rfl, rfl⟩]
      | none =>
        cases m with
        | some entries => simp only [hmap _ ⟨entries, rfl, rfl⟩]
        | none => simp only [h.writeCase_eq]

/-- Values in which no relaxed field holds null are hydrated alike by every rule. -/
theorem hydrateRule_eq {typed : TypedValue} (hfree : typed.NullFree relaxed) :
    plan.hydrateRule typed = plan'.hydrateRule typed := by
  induction typed using TypedValue.inductParts with
  | step typed ih =>
    have hparts : ∀ part ∈ typed.parts, plan.hydrateRule part = plan'.hydrateRule part :=
      fun part hm => ih part hm ((TypedValue.nullFree_iff.mp hfree).2 part hm)
    unfold hydrateRule
    cases typed with
    | array items =>
      rw [layer, layer, itemWriters_eq, itemWriters_eq,
        List.map_congr_left (show ∀ item ∈ items, _ from hparts)]
      exact h.writeLayer_eq (fun _ hl => by cases hl) (fun _ hl => by cases hl)
    | map entries =>
      have hentries : ∀ entry ∈ entries,
          (entry.1, plan.hydrateRule entry.2) = (entry.1, plan'.hydrateRule entry.2) :=
        fun entry hm => congrArg _ (hparts entry.2 (List.mem_map_of_mem hm))
      rw [layer, layer, entryWriters_eq, entryWriters_eq, List.map_congr_left hentries]
      exact h.writeLayer_eq (fun _ hl => by cases hl) (fun _ hl => by cases hl)
    | object object =>
      have hwriters : plan.instanceWriters object = plan'.instanceWriters object := by
        obtain ⟨id, fields⟩ := object
        rw [instanceWriters, instanceWriters, fieldWriters_eq, fieldWriters_eq]
        refine congrArg (Instance.mk id) (List.map_congr_left fun field hm => ?_)
        obtain ⟨key, value⟩ := field
        cases value with
        | none => rfl
        | some typed =>
          have htyped := hparts typed (List.mem_filterMap.mpr ⟨_, hm, rfl⟩)
          simp only [Option.map_some, htyped]
      rw [layer, layer, ← hwriters]
      exact writeLayer_object_congr
        (h.writeObject_eq (presentAt_instanceWriters (hfree object .self)))
    | union slots =>
      rw [layer, layer]
      refine writeLayer_union_congr fun id path => ?_
      simp only [h.unionCodec_eq, h.encode_eq hparts]
    | _ =>
      rw [layer, layer]
      exact h.writeLayer_eq (fun _ hl => by cases hl) (fun _ hl => by cases hl)

/-- Instances in which no relaxed field holds null are hydrated alike, to the same document
or with the same error. -/
theorem hydrate_eq {object : TypedObject} (hfree : (TypedValue.object object).NullFree relaxed) :
    plan.hydrate object = plan'.hydrate object := by
  have hrule := congrFun (congrFun (h.hydrateRule_eq hfree) (.classRef object.classId)) Path.top
  exact hrule

end Relaxed

end Converters

end Hydration
