import Hydration.Proofs.Typed.Alike
import Hydration.Proofs.Typed.Conformance
import Hydration.Proofs.Typed.Visits

/-!
# What hydrating writes can be read

Whatever a typed value holds, if it is hydrated then the result is dehydrated, and
its instances have declared keys in declared order, with no required key missing.
Two conditions remain: transformed values are those of texts, and no map is written
for a union that has a class member, since it would be taken for an instance.
-/

namespace Hydration

namespace Converters

variable (plan : Converters)

/-- Writing a typed value by a rule goes on by another rule, at the same value or
a part. -/
inductive Descends : Rule → TypedValue → Rule → TypedValue → Prop where
  /-- To the value of a declared field. -/
  | field {object : TypedObject} {converter : ClassConverter} {field : FieldConverter}
      {typed : TypedValue} (hc : plan.classes.get? object.classId = some converter)
      (hf : field ∈ converter.fields) (hg : object.get? field.key = some typed) :
      Descends (.classRef object.classId) (.object object) field.rule typed
  /-- To an element of an array. -/
  | item {rule : Rule} {items : List TypedValue} {item : TypedValue} (hi : item ∈ items) :
      Descends (.array rule) (.array items) rule item
  /-- To the value of an entry of a map. -/
  | entry {rule : Rule} {entries : List (String × TypedValue)} {entry : String × TypedValue}
      (he : entry ∈ entries) : Descends (.map rule) (.map entries) rule entry.2
  /-- To what is made nullable. -/
  | present {rule : Rule} {typed : TypedValue} (ht : typed ≠ .null) :
      Descends (.nullable rule) typed rule typed
  /-- To the slot of strings. -/
  | unionString {id : TypeId} {codec : UnionCodec} {rule : StringRule} {slots : UnionValue}
      {typed : TypedValue} (hu : plan.unions.get? id = some codec)
      (hslot : slots.string = some typed) (hs : codec.string = some rule) :
      Descends (.unionRef id) (.union slots) rule.rule typed
  /-- To the slot of arrays. -/
  | unionArray {id : TypeId} {codec : UnionCodec} {rule : Rule} {slots : UnionValue}
      {items : List TypedValue} (hu : plan.unions.get? id = some codec)
      (hslot : slots.array = some items) (ha : codec.array = some rule) :
      Descends (.unionRef id) (.union slots) (.array rule) (.array items)
  /-- To the slot of instances. -/
  | unionObject {id member : TypeId} {codec : UnionCodec} {slots : UnionValue}
      {object : TypedObject} (hu : plan.unions.get? id = some codec)
      (hslot : slots.object = some object) (hm : codec.classMember = some member) :
      Descends (.unionRef id) (.union slots) (.classRef member) (.object object)
  /-- To the slot of maps. -/
  | unionMap {id : TypeId} {codec : UnionCodec} {rule : Rule} {slots : UnionValue}
      {entries : List (String × TypedValue)} (hu : plan.unions.get? id = some codec)
      (hslot : slots.map = some entries) (hm : codec.map = some rule) :
      Descends (.unionRef id) (.union slots) (.map rule) (.map entries)

/-- A typed value under a rule holds another one under a rule. -/
inductive Holds : Rule → TypedValue → Rule → TypedValue → Prop where
  /-- The value itself. -/
  | here (rule : Rule) (typed : TypedValue) : Holds rule typed rule typed
  /-- What is held where the writing goes on. -/
  | descend {rule next last : Rule} {typed part inner : TypedValue}
      (hd : plan.Descends rule typed next part) (hh : Holds next part last inner) :
      Holds rule typed last inner

/-- Transformed values are those of texts, and no map is written for a union with a
class member. -/
structure Parsed (rule : Rule) (typed : TypedValue) : Prop where
  /-- A transformed value came from a text of its interpretation. -/
  transformed : ∀ kind x, plan.Holds rule typed (.transformed kind) (.transformed x) →
    ∃ text, x.kind.parse text = .ok x
  /-- The first filled slot is that of maps only if the union has no class member. -/
  map : ∀ id codec slots, plan.Holds rule typed (.unionRef id) (.union slots) →
    plan.unions.get? id = some codec → slots.filled.head? = some .map →
    codec.classMember = none

/-- The members of an instance: declared keys in declared order, and every required
one. -/
def HasDeclaredKeys (id : TypeId) (members : List (String × Json)) : Prop :=
  ∃ converter, plan.classes.get? id = some converter
    ∧ (members.map Prod.fst).Sublist (converter.fields.map FieldConverter.key)
    ∧ ∀ field ∈ converter.fields, field.optional = false → field.key ∈ members.map Prod.fst

/-- Wherever a value is read as an instance of a class, it has the declared keys. -/
def Tidy (rule : Rule) (value : Json) : Prop :=
  ∀ steps id members, plan.Visits .free rule value steps (.classRef id) (.object members) →
    plan.HasDeclaredKeys id members

/-- A value is read, with the declared keys in all instances. -/
def Readable (rule : Rule) (value : Json) : Prop :=
  (∃ typed, plan.Reads rule value typed) ∧ plan.Tidy rule value

variable {plan}

/-- What holds where the writing goes on holds of the whole. -/
theorem Parsed.of_descends {rule next : Rule} {typed part : TypedValue}
    (h : plan.Parsed rule typed) (hd : plan.Descends rule typed next part) :
    plan.Parsed next part where
  transformed kind x hh := h.transformed kind x (.descend hd hh)
  map id codec slots hh := h.map id codec slots (.descend hd hh)

/-- What holds of a value, and wherever the writing goes on, holds of the whole. -/
theorem parsed_of_descends {rule : Rule} {typed : TypedValue}
    (htransformed : ∀ kind x, rule = .transformed kind → typed = .transformed x →
      ∃ text, x.kind.parse text = .ok x)
    (hmap : ∀ id codec slots, rule = .unionRef id → typed = .union slots →
      plan.unions.get? id = some codec → slots.filled.head? = some .map → codec.classMember = none)
    (hpart : ∀ next part, plan.Descends rule typed next part → plan.Parsed next part) :
    plan.Parsed rule typed where
  transformed kind x hh := by
    cases hh with
    | here => exact htransformed kind x rfl rfl
    | descend hd hh => exact (hpart _ _ hd).transformed kind x hh
  map id codec slots hh := by
    cases hh with
    | here => exact hmap id codec slots rfl rfl
    | descend hd hh => exact (hpart _ _ hd).map id codec slots hh

/-- The value of a field is smaller than the instance. -/
theorem sizeOf_lt_of_get? {object : TypedObject} {key : String} {typed : TypedValue}
    (h : object.get? key = some typed) : sizeOf typed < sizeOf (TypedValue.object object) := by
  obtain ⟨id, fields⟩ := object
  have hmem : (key, some typed) ∈ fields := Entries.mem_of_get? (Option.join_eq_some_iff.mp h)
  have hlt := List.sizeOf_lt_of_mem hmem
  rw [Prod.mk.sizeOf_spec, Option.some.sizeOf_spec] at hlt
  rw [TypedValue.object.sizeOf_spec, Instance.mk.sizeOf_spec]
  omega

/-- From an instance the writing goes on at the value of a declared field. -/
theorem Descends.exists_field {id : TypeId} {object : TypedObject} {next : Rule}
    {part : TypedValue} (h : plan.Descends (.classRef id) (.object object) next part) :
    ∃ converter field, plan.classes.get? object.classId = some converter
      ∧ field ∈ converter.fields ∧ object.get? field.key = some part ∧ next = field.rule := by
  cases h with
  | field hc hf hg => exact ⟨_, _, hc, hf, hg, rfl⟩

/-- The writing goes on at a smaller value, or by a rule of smaller rank. -/
theorem Descends.smaller {rule next : Rule} {typed part : TypedValue}
    (h : plan.Descends rule typed next part) :
    sizeOf part < sizeOf typed ∨ part = typed ∧ next.rank < rule.rank := by
  cases h with
  | field _ _ hg => exact Or.inl (sizeOf_lt_of_get? hg)
  | item hi =>
    have hlt := List.sizeOf_lt_of_mem hi
    rw [TypedValue.array.sizeOf_spec]
    omega
  | @entry _ _ entry he =>
    have hlt := List.sizeOf_lt_of_mem he
    obtain ⟨key, value⟩ := entry
    rw [Prod.mk.sizeOf_spec] at hlt
    rw [TypedValue.map.sizeOf_spec]
    dsimp only
    omega
  | present => exact Or.inr ⟨rfl, Nat.lt_succ_self _⟩
  | @unionString _ _ _ slots _ _ hslot | @unionArray _ _ _ slots _ _ hslot
  | @unionObject _ _ _ slots _ _ hslot | @unionMap _ _ _ slots _ _ hslot =>
    obtain ⟨b, i, d, s, a, o, m, e⟩ := slots
    subst hslot
    simp only [TypedValue.union.sizeOf_spec, UnionSlots.mk.sizeOf_spec, Option.some.sizeOf_spec,
      TypedValue.array.sizeOf_spec, TypedValue.object.sizeOf_spec, TypedValue.map.sizeOf_spec]
    omega

/-- What holds of a typed value and a rule whenever it holds wherever the writing
goes on holds always. -/
theorem descends_induct {motive : Rule → TypedValue → Prop}
    (step : ∀ rule typed, (∀ next part, plan.Descends rule typed next part →
      motive next part) → motive rule typed) (rule : Rule) (typed : TypedValue) :
    motive rule typed := by
  induction hsize : sizeOf typed using Nat.strongRecOn generalizing rule typed with
  | ind size ihs =>
    induction hrank : rule.rank using Nat.strongRecOn generalizing rule with
    | ind rank ihr =>
      refine step rule typed fun next part hd => ?_
      rcases hd.smaller with hlt | ⟨rfl, hlt⟩
      · exact ihs (sizeOf part) (hsize ▸ hlt) next part rfl
      · exact ihr next.rank (hrank ▸ hlt) next rfl

/-- A value is tidy if it is where the reading goes on, and if it has the declared
keys as an instance. -/
theorem tidy_of_enters {rule : Rule} {value : Json}
    (hself : ∀ id members, rule = .classRef id → value = .object members →
      plan.HasDeclaredKeys id members)
    (hpart : ∀ steps next part, plan.Enters .free rule value steps next part →
      plan.Tidy next part) : plan.Tidy rule value := by
  intro steps id members hv
  cases hv with
  | here => exact hself id members rfl rfl
  | enter he hv => exact hpart _ _ _ he _ _ _ hv

/-- A value that is no object and has no parts is tidy. -/
theorem tidy_of_scalar {rule : Rule} {value : Json} (ho : ∀ members, value ≠ .object members)
    (hparts : value.parts = []) : plan.Tidy rule value :=
  fun _ _ members hv => absurd (hv.eq_of_parts_eq_nil hparts).symm (ho members)

/-- A value that is no object and has no parts is readable if it is read. -/
theorem readable_of_scalar {rule : Rule} {value : Json} {typed : TypedValue}
    (h : plan.ValueLayer plan.Reads rule value typed)
    (ho : ∀ members, value ≠ .object members) (hparts : value.parts = []) :
    plan.Readable rule value := ⟨⟨typed, reads_iff.mpr h⟩, tidy_of_scalar ho hparts⟩

/-- The members that are written are those of declared fields in declared order. -/
theorem keys_written_sublist (fields : List FieldConverter)
    (written : FieldConverter → Option Json) :
    ((fields.filterMap fun field => (written field).map fun value =>
      (field.key, value)).map Prod.fst).Sublist (fields.map FieldConverter.key) := by
  induction fields with
  | nil => exact List.Sublist.slnil
  | cons field rest ih =>
    rw [List.filterMap_cons, List.map_cons]
    cases written field with
    | none => exact ih.cons _
    | some value => exact ih.cons_cons _

/-- What is written for a field is read back, and its instances are tidy. -/
theorem exists_fieldLayer_of_written {W : PartWriting} {object : TypedObject}
    {field : FieldConverter} {written : Option Json} {members : List (String × Json)}
    (h : plan.FieldWritten W object field written)
    (hg : Entries.get? field.key members = written)
    (hread : ∀ typed value, object.get? field.key = some typed → W field.rule typed value →
      ∃ read, plan.Reads field.rule value read) :
    ∃ read, plan.FieldLayer plan.Reads members field read := by
  cases h with
  | skipped _ ho => exact ⟨none, .missing hg ho⟩
  | @present typed value ht hw =>
    by_cases hd : value = .null ∧ plan.dropsNull field = true
    · obtain ⟨rfl, hd⟩ := hd
      exact ⟨none, .dropped hg hd⟩
    · obtain ⟨read, hr⟩ := hread typed value ht hw
      exact ⟨some read, .present hg (fun hv => Bool.eq_false_iff.mpr fun h => hd ⟨hv, h⟩) hr⟩
  | null _ ha =>
    by_cases hd : plan.dropsNull field = true
    · exact ⟨none, .dropped hg hd⟩
    · obtain ⟨read, hr⟩ := reads_null ha
      exact ⟨some read, .present hg (fun _ => Bool.eq_false_iff.mpr hd) hr⟩

/-- What is written for an instance is readable if what is written for its fields is. -/
theorem readable_object (hn : plan.DistinctKeys) {W : PartWriting} {object : TypedObject}
    {converter : ClassConverter} {written : FieldConverter → Option Json}
    (hc : plan.classes.get? object.classId = some converter)
    (hf : ∀ field ∈ converter.fields, plan.FieldWritten W object field (written field))
    (hread : ∀ field ∈ converter.fields, ∀ typed value, object.get? field.key = some typed →
      W field.rule typed value → plan.Readable field.rule value) :
    plan.Readable (.classRef object.classId) (.object (converter.fields.filterMap fun field =>
      (written field).map fun value => (field.key, value))) := by
  have hget : ∀ field ∈ converter.fields, Entries.get? field.key
      (converter.fields.filterMap fun field => (written field).map fun value =>
        (field.key, value)) = written field :=
    fun field hm => get?_written (hn _ _ hc) hm written
  constructor
  · have hfields : ∀ field ∈ converter.fields, ∃ entry : String × Option TypedValue,
        entry.1 = field.key ∧ plan.FieldLayer plan.Reads (converter.fields.filterMap fun field =>
          (written field).map fun value => (field.key, value)) field entry.2 := by
      intro field hm
      obtain ⟨read, hr⟩ := exists_fieldLayer_of_written (hf field hm) (hget field hm)
        fun typed value ht hw => (hread field hm typed value ht hw).1
      exact ⟨(field.key, read), rfl, hr⟩
    obtain ⟨entries, hentries⟩ := exists_forall₂ hfields
    exact ⟨_, reads_iff.mpr (.object (.intro hc hentries))⟩
  · refine tidy_of_enters (fun id members hrule hvalue => ?_) fun steps next part he => ?_
    · cases hrule
      cases hvalue
      refine ⟨converter, hc, keys_written_sublist _ _, fun field hm ho => ?_⟩
      by_contra hmissing
      have hnone := (hget field hm).symm.trans (Entries.get?_eq_none_iff.mpr hmissing)
      cases hnone ▸ hf field hm with
      | skipped _ ho' => cases ho.symm.trans ho'
    · cases he with
      | @field _ _ _ front back field _ hc' hs _ hg =>
        cases hc.symm.trans hc'
        have hm : field ∈ converter.fields := hs ▸ by simp
        have hsome := (hget field hm).symm.trans hg
        cases hsome ▸ hf field hm with
        | present ht hw => exact (hread field hm _ _ ht hw).2
        | null => exact tidy_of_scalar nofun rfl

/-- An array is readable if its items are. -/
theorem readable_array {rule : Rule} {items : List Json}
    (h : ∀ item ∈ items, plan.Readable rule item) :
    plan.Readable (.array rule) (.array items) := by
  obtain ⟨typed, htyped⟩ := exists_forall₂ fun item hm => (h item hm).1
  refine ⟨⟨_, reads_iff.mpr (.array htyped)⟩, tidy_of_enters nofun fun steps next part he => ?_⟩
  cases he with
  | item => exact (h part (by simp)).2

/-- An object is readable under a map if its values are. -/
theorem readable_map {rule : Rule} {members : List (String × Json)}
    (h : ∀ member ∈ members, plan.Readable rule member.2) :
    plan.Readable (.map rule) (.object members) := by
  have hentries : ∀ member ∈ members, ∃ entry : String × TypedValue,
      entry.1 = member.1 ∧ plan.Reads rule member.2 entry.2 := by
    intro member hm
    obtain ⟨typed, htyped⟩ := (h member hm).1
    exact ⟨(member.1, typed), rfl, htyped⟩
  obtain ⟨entries, hread⟩ := exists_forall₂ hentries
  refine ⟨⟨_, reads_iff.mpr (.map hread)⟩, tidy_of_enters nofun fun steps next part he => ?_⟩
  cases he with
  | @entry _ front back member => exact (h member (by simp)).2

/-- What is readable is so under a nullable rule. -/
theorem readable_nullable {rule : Rule} {value : Json} (h : plan.Readable rule value) :
    plan.Readable (.nullable rule) value := by
  obtain ⟨⟨typed, hread⟩, htidy⟩ := h
  by_cases hv : value = .null
  · subst hv
    exact readable_of_scalar (.absent rule) nofun rfl
  · refine ⟨⟨typed, reads_iff.mpr (.present hv hread)⟩,
      tidy_of_enters nofun fun steps next part he => ?_⟩
    cases he with
    | present => exact htidy

section Union

variable (hp : plan.Closed) {id : TypeId} {codec : UnionCodec}
  (hu : plan.unions.get? id = some codec)
include hp hu

/-- A text that the string member reads is readable in the union, be it a case. -/
theorem readable_unionString {rule : StringRule} {value : Json}
    (hs : codec.string = some rule) (h : plan.Readable rule.rule value) :
    plan.Readable (.unionRef id) value := by
  obtain ⟨⟨read, hread⟩, -⟩ := h
  obtain ⟨text, typed, rfl, ht⟩ :
      ∃ text typed, value = .string text ∧ TextLayer rule text typed := by
    cases rule with
    | plain =>
      cases reads_iff.mp hread with
      | string text => exact ⟨text, _, rfl, .plain text⟩
    | transformed kind =>
      cases reads_iff.mp hread with
      | transformed hparse => exact ⟨_, _, rfl, .transformed hparse⟩
  cases hc : plan.isCaseOf codec text with
  | true => exact readable_of_scalar (.union hu (.enumCase hc)) nofun rfl
  | false =>
    have he : ∀ member, codec.enumeration = some member →
        ∃ converter, plan.enums.get? member = some converter :=
      fun member hm => OrderedMap.mem_keys_iff.mp (hp.enumerations id codec hu member hm)
    exact readable_of_scalar (.union hu (.string he hc hs ht)) nofun rfl

omit hp

/-- An array is readable in a union if it is so under the array member. -/
theorem readable_unionArray {rule : Rule} {value : Json}
    (ha : codec.array = some rule) (h : plan.Readable (.array rule) value) :
    plan.Readable (.unionRef id) value := by
  obtain ⟨⟨read, hread⟩, htidy⟩ := h
  cases reads_iff.mp hread with
  | array hitems =>
    refine ⟨⟨_, reads_iff.mpr (.union hu (.array ha hitems))⟩, ?_⟩
    refine tidy_of_enters nofun fun steps next part he => ?_
    cases he with
    | unionArray hu' ha' =>
      cases hu.symm.trans hu'
      cases ha.symm.trans ha'
      exact htidy

/-- An object is readable in a union if it is so under the class member. -/
theorem readable_unionObject {member : TypeId} {value : Json}
    (hm : codec.classMember = some member) (h : plan.Readable (.classRef member) value) :
    plan.Readable (.unionRef id) value := by
  obtain ⟨⟨read, hread⟩, htidy⟩ := h
  cases reads_iff.mp hread with
  | object ho =>
    obtain ⟨members, rfl⟩ := ho.eq_object
    refine ⟨⟨_, reads_iff.mpr (.union hu (.object hm ho))⟩, ?_⟩
    refine tidy_of_enters nofun fun steps next part he => ?_
    cases he with
    | unionObject hu' hm' =>
      cases hu.symm.trans hu'
      cases hm.symm.trans hm'
      exact htidy
    | unionMap hu' hn =>
      cases hu.symm.trans hu'
      cases hm.symm.trans hn

/-- Without a class member an object is readable in a union if it is so under the map member. -/
theorem readable_unionMap {rule : Rule} {value : Json} (hn : codec.classMember = none)
    (hm : codec.map = some rule) (h : plan.Readable (.map rule) value) :
    plan.Readable (.unionRef id) value := by
  obtain ⟨⟨read, hread⟩, htidy⟩ := h
  cases reads_iff.mp hread with
  | map hentries =>
    refine ⟨⟨_, reads_iff.mpr (.union hu (.map hn hm hentries))⟩, ?_⟩
    refine tidy_of_enters nofun fun steps next part he => ?_
    cases he with
    | unionObject hu' hm' =>
      cases hu.symm.trans hu'
      cases hn.symm.trans hm'
    | unionMap hu' _ hm' =>
      cases hu.symm.trans hu'
      cases hm.symm.trans hm'
      exact htidy

/-- A number of the number member is read, be it by the integer member. -/
theorem readable_unionDouble (n : Json.Number) (hd : codec.double = true) :
    plan.Readable (.unionRef id) (.number n) := by
  by_cases hi : codec.integer = true → n.toInt64? = none
  · exact readable_of_scalar (.union hu (.double hi hd)) nofun rfl
  · obtain ⟨hinteger, htoken⟩ := Classical.not_imp.mp hi
    obtain ⟨i, hi⟩ := Option.ne_none_iff_exists'.mp htoken
    exact readable_of_scalar (.union hu (.integer hinteger hi)) nofun rfl

end Union

/-- A transformed value that came from a text is written as a text of the
interpretation. -/
theorem exists_parsed_of_format {kind : TransformKind} {x : Transformed} {text : String}
    (hx : ∃ source, x.kind.parse source = .ok x) (hf : kind.format x = some text) :
    kind.parse text = .ok x := by
  obtain ⟨source, hsource⟩ := hx
  have hkind : x.kind = kind := by
    cases kind <;> cases x <;> first | rfl | cases hf
  rw [hkind] at hsource
  obtain ⟨hcanonical, hparse⟩ := TransformKind.canonical_of_parse hsource
  cases hf.symm.trans hcanonical
  exact hparse

/-- What is written for a parsed value is readable. -/
theorem readable_of_wrote (hp : plan.Closed) (hn : plan.DistinctKeys) {rule : Rule}
    {typed : TypedValue} {value : Json} (h : plan.Wrote rule typed value)
    (hx : plan.Parsed rule typed) : plan.Readable rule value := by
  induction rule, typed using @descends_induct plan generalizing value with
  | step rule typed ih =>
    have hpart : ∀ {next part value}, plan.Descends rule typed next part →
        plan.Wrote next part value → plan.Readable next value :=
      fun hd hw => ih _ _ hd hw (hx.of_descends hd)
    cases writeLayer_of_wrote h with
    | any value =>
      refine ⟨⟨_, reads_iff.mpr (.any value)⟩, tidy_of_enters nofun fun _ _ _ he => ?_⟩
      cases he
    | null => exact readable_of_scalar .null nofun rfl
    | bool b => exact readable_of_scalar (.bool b) nofun rfl
    | integer i => exact readable_of_scalar (.integer (Json.Number.toInt64?_ofInt64 i)) nofun rfl
    | double n => exact readable_of_scalar (.double n) nofun rfl
    | string text => exact readable_of_scalar (.string text) nofun rfl
    | @transformed kind x text hf =>
      have hparse := exists_parsed_of_format (hx.transformed kind x (.here _ _)) hf
      exact readable_of_scalar (.transformed hparse) nofun rfl
    | enumCase he hc => exact readable_of_scalar (.enumCase he hc) nofun rfl
    | object hc hf =>
      exact readable_object hn hc hf fun field hm typed value ht hw => hpart (.field hc hm ht) hw
    | array hitems =>
      refine readable_array fun item hm => ?_
      obtain ⟨part, hmem, hw⟩ := exists_of_forall₂_right hitems hm
      exact hpart (.item hmem) hw
    | map hentries =>
      refine readable_map fun member hm => ?_
      obtain ⟨entry, hmem, -, hw⟩ := exists_of_forall₂_right hentries hm
      exact hpart (.entry hmem) hw
    | absent rule => exact readable_of_scalar (.absent rule) nofun rfl
    | present ht hw => exact readable_nullable (hpart (.present ht) hw)
    | @union id codec slots value hu hw =>
      cases hw with
      | bool b hb => exact readable_of_scalar (.union hu (.bool b hb)) nofun rfl
      | integer i hi =>
        have hinteger := Json.Number.toInt64?_ofInt64 i
        exact readable_of_scalar (.union hu (.integer hi hinteger)) nofun rfl
      | double n hd => exact readable_unionDouble hu n hd
      | string hslot hs hw =>
        exact readable_unionString hp hu hs (hpart (.unionString hu hslot hs) hw)
      | array hslot ha hw => exact readable_unionArray hu ha (hpart (.unionArray hu hslot ha) hw)
      | object hslot hm hw =>
        exact readable_unionObject hu hm (hpart (.unionObject hu hslot hm) hw)
      | map hslot hfirst hm hw =>
        have hnone := hx.map id codec slots (.here _ _) hu hfirst
        exact readable_unionMap hu hnone hm (hpart (.unionMap hu hslot hm) hw)
      | enumCase hc => exact readable_of_scalar (.union hu (.enumCase hc)) nofun rfl
      | null hnull => exact readable_of_scalar (.union hu (.null hnull)) nofun rfl

/-- Whatever an instance holds, further keys, keys in another order, several filled
slots or absent values, its document is dehydrated by its class, with the declared
keys of the classes in declared order and every required one, if transformed values
are those of texts and no map takes the place of an instance. Nothing but the values
of declared keys is looked at. -/
theorem readable_of_hydrate {graph : TypeGraph} {entries : List TypeId} {routing : UnionRouting}
    (h : build graph entries routing = .ok plan) (object : TypedObject) :
    (∀ value, plan.hydrate object = .ok value →
      plan.Parsed (.classRef object.classId) (.object object) →
      (∃ typed, plan.dehydrate object.classId value = .ok typed)
        ∧ plan.Tidy (.classRef object.classId) value)
    ∧ ∀ other, plan.Alike (.object object) (.object other) →
      plan.hydrate object = plan.hydrate other := by
  refine ⟨fun value hv hx => ?_, fun other ha => hydrate_eq_of_alike ha⟩
  obtain ⟨⟨typed, hread⟩, htidy⟩ := readable_of_wrote (closed_of_faithful (faithful_of_build h))
    (distinctKeys_of_build h) (wrote_of_hydrate hv) hx
  obtain ⟨read, rfl⟩ : ∃ read, typed = .object read := by
    cases reads_iff.mp hread
    exact ⟨_, rfl⟩
  exact ⟨⟨read, dehydrate_eq_ok.mpr hread⟩, htidy⟩

/-- A box with a further key, the keys in another order and two filled slots. -/
def ladenBox : TypedObject :=
  ⟨⟨6⟩, [("note", none), ("x", some (.bool true)), ("v", some (.union { UnionSlots.null with
    string := some (.transformed (.integerString 7)), enumCase := some "5" }))]⟩

/-- The values of a laden box are those of texts. -/
theorem parsed_ladenBox : boxPlan.Parsed (.classRef ⟨6⟩) (.object ladenBox) := by
  refine parsed_of_descends (fun _ _ hrule => nomatch hrule) (fun _ _ _ hrule => nomatch hrule)
    fun next part hd => ?_
  obtain ⟨converter, field, hc, hm, hg, rfl⟩ := hd.exists_field
  cases hc
  rcases List.mem_cons.mp hm with rfl | hm
  · cases hg
    refine parsed_of_descends (fun _ _ hrule => nomatch hrule) ?_ fun next part hd => ?_
    · rintro id codec slots - hslots - hfirst
      cases hslots
      cases hfirst
    · cases hd with
      | unionString hu hslot hs =>
        cases hu
        cases hs
        cases hslot
        refine parsed_of_descends ?_ (fun _ _ _ hrule => nomatch hrule) fun _ _ hd => nomatch hd
        rintro kind x - hx
        cases hx
        exact ⟨"7", rfl⟩
      | unionArray _ hslot | unionObject _ hslot | unionMap _ hslot => cases hslot
  · obtain rfl := List.mem_singleton.mp hm
    cases hg

/-- The first filled slot of a laden box is what its document has. -/
theorem readable_of_hydrate_box :
    boxPlan.hydrate ladenBox = .ok (.object [("v", .string "7")])
      ∧ (∃ typed, boxPlan.dehydrate ⟨6⟩ (.object [("v", .string "7")]) = .ok typed)
      ∧ boxPlan.Tidy (.classRef ⟨6⟩) (.object [("v", .string "7")]) := by
  have hbuild : build boxGraph [⟨6⟩] .codec = .ok boxPlan := rfl
  have hwritten : boxPlan.hydrate ladenBox = .ok (.object [("v", .string "7")]) := rfl
  exact ⟨hwritten, (readable_of_hydrate hbuild ladenBox).1 _ hwritten parsed_ladenBox⟩

end Converters

end Hydration
