import Hydration.Proofs.Typed.NormalForm

/-!
# Documents come back in normal form

What was dehydrated is hydrated to the normal form of the document, and the
normal form is dehydrated again. Both follow by induction on the reading of the
document.
-/

namespace Hydration.Converters

variable {plan : Converters} {R : PartReading}

/-- Only null is read as null. -/
theorem eq_null_of_reads_null {rule : Rule} {value : Json} (h : plan.Reads rule value .null) :
    value = .null := by
  induction rule with
  | copy primitive =>
    cases reads_iff.mp h with
    | null => rfl
  | nullable inner ih =>
    cases reads_iff.mp h with
    | absent => rfl
    | present _ hr => exact ih hr
  | _ => cases reads_iff.mp h

/-- Cases of the enum member are those of its converter. -/
theorem isCaseOf_iff {codec : UnionCodec} {text : String} :
    plan.isCaseOf codec text = true ↔ ∃ id converter, codec.enumeration = some id
      ∧ plan.enums.get? id = some converter ∧ converter.cases.contains text = true := by
  unfold isCaseOf
  cases codec.enumeration with
  | none => simp [isMemberCase]
  | some id => cases he : plan.enums.get? id <;> simp [isMemberCase, he]

/-- The keys of an instance that was read are those of its class. -/
theorem keys_of_fieldLayers {members : List (String × Json)} {fields : List FieldConverter}
    {entries : List (String × Option TypedValue)}
    (h : List.Forall₂ (fun field entry =>
      entry.1 = field.key ∧ plan.FieldLayer R members field entry.2) fields entries) :
    entries.map Prod.fst = fields.map FieldConverter.key := by
  induction h with
  | nil => rfl
  | cons hentry _ ih => rw [List.map_cons, List.map_cons, ih, hentry.1]

/-- With distinct keys, each field of an instance was read for itself. -/
theorem fieldLayer_of_mem {members : List (String × Json)} {fields : List FieldConverter}
    {entries : List (String × Option TypedValue)} (hn : (fields.map FieldConverter.key).Nodup)
    (h : List.Forall₂ (fun field entry =>
      entry.1 = field.key ∧ plan.FieldLayer R members field entry.2) fields entries)
    {field : FieldConverter} (hf : field ∈ fields) (id : TypeId) :
    plan.FieldLayer R members field ((Instance.mk id entries).get? field.key) := by
  obtain ⟨entry, hm, hkey, hfield⟩ := exists_of_forall₂_left h hf
  have hnodup : (entries.map Prod.fst).Nodup := by
    rw [keys_of_fieldLayers h]
    exact hn
  have hmem : (field.key, entry.2) ∈ entries := hkey ▸ hm
  have hget : Entries.get? field.key entries = some entry.2 := Entries.get?_of_mem hnodup hmem
  have hjoin : (Instance.mk id entries).get? field.key = entry.2 := by
    rw [Instance.get?, hget, Option.join_some]
  rw [hjoin]
  exact hfield

/-- A null that the normal form leaves out marks absence. -/
theorem dropsNull_of_omitsNull {field : FieldConverter} (h : plan.omitsNull field = true) :
    field.optional = true ∧ plan.dropsNull field = true := by
  unfold omitsNull at h
  unfold dropsNull
  cases ho : field.optional <;> simp_all

/-- A null that marks absence is left out or belongs to a required nullable field. -/
theorem omitsNull_or_required {field : FieldConverter} (h : plan.dropsNull field = true) :
    field.optional = true ∧ plan.omitsNull field = true
      ∨ field.optional = false ∧ field.rule.isNullable = true := by
  unfold dropsNull at h
  unfold omitsNull
  cases ho : field.optional <;> simp_all

/-- A nullable rule converts null. -/
theorem acceptsNull_of_isNullable {rule : Rule} (h : rule.isNullable = true) :
    plan.acceptsNull rule = true := by
  cases rule with
  | nullable inner => rfl
  | _ => cases h

/-- The normal form of null at a field that keeps it is null. -/
theorem normalizeMember_of_kept_null {members : List (String × Json)} {field : FieldConverter}
    (hg : Entries.get? field.key members = some .null) (ho : field.optional = false) :
    plan.normalizeMember members field = some .null := by
  have hkept : ¬(Json.null = .null ∧ plan.omitsNull field = true) := by
    rintro ⟨-, homits⟩
    cases ho.symm.trans (dropsNull_of_omitsNull homits).1
  rw [normalizeMember_of_some hg, if_neg hkept]
  rfl

/-- A value that does not mark absence is kept in its normal form. -/
theorem normalizeMember_of_present {members : List (String × Json)} {field : FieldConverter}
    {value : Json} (hg : Entries.get? field.key members = some value)
    (hd : value = .null → plan.dropsNull field = false) :
    plan.normalizeMember members field = some (plan.normalize value field.rule) := by
  have hkept : ¬(value = .null ∧ plan.omitsNull field = true) := by
    rintro ⟨hv, homits⟩
    cases (hd hv).symm.trans (dropsNull_of_omitsNull homits).2
  rw [normalizeMember_of_some hg, if_neg hkept]

/-- A null that marks absence of an optional field is left out. -/
theorem normalizeMember_of_dropped {members : List (String × Json)} {field : FieldConverter}
    (hg : Entries.get? field.key members = some .null) (homits : plan.omitsNull field = true) :
    plan.normalizeMember members field = none := by
  rw [normalizeMember_of_some hg, if_pos ⟨rfl, homits⟩]

/-- A value is read as a typed value that is written as its normal form. -/
def ReadsWritten (plan : Converters) (rule : Rule) (value : Json) (typed : TypedValue) : Prop :=
  plan.Reads rule value typed ∧ plan.Writes rule typed (plan.normalize value rule)

/-- A value is read, and its normal form is read too. -/
def ReadsAgain (plan : Converters) (rule : Rule) (value : Json) (typed : TypedValue) : Prop :=
  plan.Reads rule value typed ∧ ∃ again, plan.Reads rule (plan.normalize value rule) again

/-- An array is written as its normal form if its elements are. -/
theorem writes_array {rule : Rule} {items : List Json} {typed : List TypedValue}
    (h : List.Forall₂ (plan.ReadsWritten rule) items typed) :
    plan.Writes (.array rule) (.array typed) (plan.normalize (.array items) (.array rule)) := by
  rw [normalize_array]
  refine .array (List.forall₂_map_right_iff.mpr (List.Forall₂.flip (h.imp fun _ _ hpart => ?_)))
  exact hpart.2

/-- A map is written as its normal form if its values are. -/
theorem writes_map {rule : Rule} {members : List (String × Json)}
    {typed : List (String × TypedValue)}
    (h : List.Forall₂ (fun member entry => entry.1 = member.1
      ∧ plan.ReadsWritten rule member.2 entry.2) members typed) :
    plan.Writes (.map rule) (.map typed) (plan.normalize (.object members) (.map rule)) := by
  rw [normalize_map]
  refine .map (List.forall₂_map_right_iff.mpr (List.Forall₂.flip (h.imp fun _ _ hpart => ?_)))
  exact ⟨hpart.1.symm, hpart.2.2⟩

/-- The normal forms of elements are read if the elements are read again. -/
theorem reads_items {rule : Rule} {items : List Json} {typed : List TypedValue}
    (h : List.Forall₂ (plan.ReadsAgain rule) items typed) :
    ∃ again, List.Forall₂ (plan.Reads rule)
      (items.map fun item => plan.normalize item rule) again := by
  refine exists_forall₂ fun part hp => ?_
  obtain ⟨item, hi, rfl⟩ := List.mem_map.mp hp
  obtain ⟨t, -, -, hagain⟩ := exists_of_forall₂_left h hi
  exact hagain

/-- The normal forms of entries are read if their values are read again. -/
theorem reads_entries {rule : Rule} {members : List (String × Json)}
    {typed : List (String × TypedValue)}
    (h : List.Forall₂ (fun member entry => entry.1 = member.1
      ∧ plan.ReadsAgain rule member.2 entry.2) members typed) :
    ∃ again, List.Forall₂ (fun (member : String × Json) (entry : String × TypedValue) =>
      entry.1 = member.1 ∧ plan.Reads rule member.2 entry.2)
      (members.map fun member => (member.1, plan.normalize member.2 rule)) again := by
  refine exists_forall₂ fun part hp => ?_
  obtain ⟨member, hm, rfl⟩ := List.mem_map.mp hp
  obtain ⟨entry, -, -, -, again, hagain⟩ := exists_of_forall₂_left h hm
  exact ⟨(member.1, again), rfl, hagain⟩

section DistinctKeys

variable (hn : plan.DistinctKeys)
include hn

/-- An instance is written as its normal form if its fields are. -/
theorem writes_object {id : TypeId} {value : Json} {object : TypedObject}
    (h : plan.ObjectLayer plan.ReadsWritten id value object) :
    plan.Writes (.classRef id) (.object object) (plan.normalize value (.classRef id)) := by
  obtain ⟨hc, hf⟩ := h
  rename_i converter members entries
  rw [normalize_classRef hc]
  have hfields : ∀ field ∈ converter.fields,
      plan.FieldWrites ⟨id, entries⟩ field (plan.normalizeMember members field) := by
    intro field hmem
    have hfield := fieldLayer_of_mem (hn id converter hc) hf hmem id
    generalize hget : (Instance.mk id entries).get? field.key = typed at hfield
    cases hfield with
    | missing hg ho =>
      rw [normalizeMember_of_none hg]
      exact .skipped hget ho
    | dropped hg hd =>
      rcases omitsNull_or_required hd with ⟨ho, homits⟩ | ⟨ho, hnullable⟩
      · rw [normalizeMember_of_dropped hg homits]
        exact .skipped hget ho
      · rw [normalizeMember_of_kept_null hg ho]
        exact .null hget ho (acceptsNull_of_isNullable hnullable)
    | present hg hd hr =>
      rw [normalizeMember_of_present hg hd]
      exact .present hget hr.2
  exact Writes.object hc hfields

/-- What was read is written as the normal form. -/
theorem writes_normalize {rule : Rule} {value : Json} {typed : TypedValue}
    (h : plan.Reads rule value typed) : plan.Writes rule typed (plan.normalize value rule) := by
  refine Reads.induct (fun rule value typed hlayer => ?_) h
  cases hlayer with
  | any =>
    rw [normalize_copy]
    exact .any value
  | null => exact .null
  | bool b => exact .bool b
  | integer htoken =>
    rw [normalize_copy, ← Json.Number.ofInt64_of_toInt64? htoken]
    exact .integer _
  | double n => exact .double n
  | string text => exact .string text
  | transformed hp => exact .transformed (TransformKind.canonical_of_parse hp).1
  | enumCase he hc => exact .enumCase he hc
  | object ho => exact writes_object hn ho
  | array hr => exact writes_array hr
  | map hr => exact writes_map hr
  | absent inner => exact .absent inner
  | present hv hr =>
    rw [normalize_nullable]
    refine .present (fun ht => hv ?_) hr.2
    exact eq_null_of_reads_null (ht ▸ hr.1)
  | union hu hlayer =>
    refine .union hu fun path => ?_
    cases hlayer with
    | null hnull => exact encode_null hnull
    | bool b hb => exact encode_bool hb
    | integer hi htoken =>
      have hnumber := Json.Number.ofInt64_of_toInt64? htoken
      rw [encode_integer hi, hnumber]
      rfl
    | double hi hd => exact encode_double hd
    | enumCase hcase =>
      obtain ⟨member, converter, hm, he, hc⟩ := isCaseOf_iff.mp hcase
      rw [normalize_union_case hu hcase]
      exact encode_enumCase hm he hc
    | string he hcase hs ht =>
      rw [normalize_union_string hu hcase hs]
      refine encode_string hs ?_
      cases ht with
      | plain => exact .string _
      | transformed hp => exact .transformed (TransformKind.canonical_of_parse hp).1
    | array ha hr =>
      rw [normalize_union_array hu ha]
      exact encode_array ha (writes_array hr)
    | object hm ho =>
      rw [normalize_union_object hu hm]
      exact encode_object hm (writes_object hn ho)
    | map hm hmap hr =>
      rw [normalize_union_map hu hm hmap]
      exact encode_map hmap (writes_map hr)

/-- The normal form of an instance is read if those of its fields are. -/
theorem reads_normalize_object {id : TypeId} {value : Json} {object : TypedObject}
    (h : plan.ObjectLayer plan.ReadsAgain id value object) :
    ∃ members again, plan.normalize value (.classRef id) = .object members
      ∧ plan.ObjectLayer plan.Reads id (.object members) again := by
  obtain ⟨hc, hf⟩ := h
  rename_i converter members entries
  have hnodup := hn id converter hc
  rw [normalize_classRef hc]
  have hfields : ∀ field ∈ converter.fields, ∃ entry : String × Option TypedValue,
      entry.1 = field.key ∧ plan.FieldLayer plan.Reads
        (converter.fields.filterMap fun other =>
          (plan.normalizeMember members other).map fun value => (other.key, value))
        field entry.2 := by
    intro field hmem
    have hget := get?_written hnodup hmem (plan.normalizeMember members)
    have hfield := fieldLayer_of_mem hnodup hf hmem id
    generalize (Instance.mk id entries).get? field.key = typed at hfield
    cases hfield with
    | missing hg ho =>
      rw [normalizeMember_of_none hg] at hget
      exact ⟨(field.key, none), rfl, .missing hget ho⟩
    | dropped hg hd =>
      rcases omitsNull_or_required hd with ⟨ho, homits⟩ | ⟨ho, -⟩
      · rw [normalizeMember_of_dropped hg homits] at hget
        exact ⟨(field.key, none), rfl, .missing hget ho⟩
      · rw [normalizeMember_of_kept_null hg ho] at hget
        exact ⟨(field.key, none), rfl, .dropped hget hd⟩
    | present hg hd hr =>
      rw [normalizeMember_of_present hg hd] at hget
      obtain ⟨-, again, hread⟩ := hr
      exact ⟨(field.key, some again), rfl,
        .present hget (fun hnull => hd (normalize_eq_null.mp hnull)) hread⟩
  obtain ⟨again, hagain⟩ := exists_forall₂ hfields
  exact ⟨_, ⟨id, again⟩, rfl, .intro hc hagain⟩

/-- The normal form of what was read is read. -/
theorem reads_normalize {rule : Rule} {value : Json} {typed : TypedValue}
    (h : plan.Reads rule value typed) : ∃ again, plan.Reads rule (plan.normalize value rule) again := by
  refine Reads.induct (fun rule value typed hlayer => ?_) h
  simp only [reads_iff]
  cases hlayer with
  | any =>
    rw [normalize_copy]
    exact ⟨_, .any value⟩
  | null => exact ⟨_, .null⟩
  | bool b => exact ⟨_, .bool b⟩
  | integer htoken => exact ⟨_, .integer htoken⟩
  | double n => exact ⟨_, .double n⟩
  | string text => exact ⟨_, .string text⟩
  | transformed hp => exact ⟨_, .transformed (TransformKind.canonical_of_parse hp).2⟩
  | enumCase he hc => exact ⟨_, .enumCase he hc⟩
  | object ho =>
    obtain ⟨members, again, heq, hagain⟩ := reads_normalize_object hn ho
    rw [heq]
    exact ⟨_, .object hagain⟩
  | array hr =>
    obtain ⟨again, hagain⟩ := reads_items hr
    rw [normalize_array]
    exact ⟨_, .array hagain⟩
  | map hr =>
    obtain ⟨again, hagain⟩ := reads_entries hr
    rw [normalize_map]
    exact ⟨_, .map hagain⟩
  | absent inner => exact ⟨_, .absent inner⟩
  | present hv hr =>
    obtain ⟨-, again, hagain⟩ := hr
    rw [normalize_nullable]
    exact ⟨again, .present (fun hnull => hv (normalize_eq_null.mp hnull)) hagain⟩
  | union hu hlayer =>
    cases hlayer with
    | null hnull => exact ⟨_, .union hu (.null hnull)⟩
    | bool b hb => exact ⟨_, .union hu (.bool b hb)⟩
    | integer hi htoken => exact ⟨_, .union hu (.integer hi htoken)⟩
    | double hi hd => exact ⟨_, .union hu (.double hi hd)⟩
    | enumCase hcase =>
      rw [normalize_union_case hu hcase]
      exact ⟨_, .union hu (.enumCase hcase)⟩
    | @string rule text typed he hcase hs ht =>
      rw [normalize_union_string hu hcase hs]
      -- The canonical text may be a case of the enum member although the text is none.
      cases hagain : plan.isCaseOf _ (rule.canonical text) with
      | true => exact ⟨_, .union hu (.enumCase hagain)⟩
      | false =>
        cases ht with
        | plain => exact ⟨_, .union hu (.string he hagain hs (.plain text))⟩
        | transformed hp =>
          have hread := (TransformKind.canonical_of_parse hp).2
          exact ⟨_, .union hu (.string he hagain hs (.transformed hread))⟩
    | array ha hr =>
      obtain ⟨again, hagain⟩ := reads_items hr
      rw [normalize_union_array hu ha, normalize_array]
      exact ⟨_, .union hu (.array ha hagain)⟩
    | object hm ho =>
      obtain ⟨members, again, heq, hagain⟩ := reads_normalize_object hn ho
      rw [normalize_union_object hu hm, heq]
      exact ⟨_, .union hu (.object hm hagain)⟩
    | map hm hmap hr =>
      obtain ⟨again, hagain⟩ := reads_entries hr
      rw [normalize_union_map hu hm hmap, normalize_map]
      exact ⟨_, .union hu (.map hm hmap hagain)⟩

end DistinctKeys

/-- Where keys are distinct, what was dehydrated is hydrated to the normal form. -/
theorem hydrate_eq_normalForm (hn : plan.DistinctKeys) {id : TypeId} {value : Json}
    {typed : TypedObject} (h : plan.dehydrate id value = .ok typed) :
    plan.hydrate typed = .ok (plan.normalForm id value) := by
  have hread := dehydrate_eq_ok.mp h
  have hwrite := writes_normalize hn hread
  have hid : typed.classId = id := by
    cases reads_iff.mp hread with
    | object ho => exact ho.classId_eq
  exact hydrate_eq_ok (hid.symm ▸ hwrite)

/-- A built plan has distinct keys. -/
theorem distinctKeys_of_build {graph : TypeGraph} {entries : List TypeId} {routing : UnionRouting}
    (h : build graph entries routing = .ok plan) : plan.DistinctKeys :=
  fun _ _ hc => (faithful_of_build h).nodup_keys hc

/-- Hydrating what was dehydrated gives the normal form of the document, and
the normal form is dehydrated and hydrated to itself. -/
theorem dehydrate_hydrate {graph : TypeGraph} {entries : List TypeId} {routing : UnionRouting}
    (h : build graph entries routing = .ok plan) {id : TypeId} {value : Json}
    {typed : TypedObject} (hd : plan.dehydrate id value = .ok typed) :
    plan.hydrate typed = .ok (plan.normalForm id value)
      ∧ ∃ again, plan.dehydrate id (plan.normalForm id value) = .ok again
        ∧ plan.hydrate again = .ok (plan.normalForm id value) := by
  have hn := distinctKeys_of_build h
  refine ⟨hydrate_eq_normalForm hn hd, ?_⟩
  obtain ⟨read, hread⟩ := reads_normalize hn (dehydrate_eq_ok.mp hd)
  obtain ⟨again, rfl⟩ : ∃ again, read = .object again := by
    cases reads_iff.mp hread
    exact ⟨_, rfl⟩
  have hagain : plan.dehydrate id (plan.normalForm id value) = .ok again :=
    dehydrate_eq_ok.mpr hread
  have hsame : plan.normalForm id (plan.normalForm id value) = plan.normalForm id value :=
    normalize_normalize hn value (.classRef id)
  refine ⟨again, hagain, ?_⟩
  rw [hydrate_eq_normalForm hn hagain, hsame]

/-- A box holds a case of an enum or the text of an integer, and it may have a
note, which may be null. -/
def boxGraph : TypeGraph where
  types := [
    .enumType ⟨"Digit", ⟨["5"], by decide⟩⟩,
    .transformed (.known .integerString),
    .union ⟨[⟨0⟩, ⟨1⟩], by decide⟩,
    .string,
    .null,
    .union ⟨[⟨4⟩, ⟨3⟩], by decide⟩,
    .classType ⟨"Box", ⟨[("v", ⟨⟨2⟩, false⟩), ("note", ⟨⟨5⟩, true⟩)], by decide⟩⟩]
  topLevels := OrderedMap.empty
  sound := by decide

/-- The codec of what a box holds. -/
def boxCodec : UnionCodec :=
  { UnionCodec.blank ⟨2⟩ with
    enumeration := some ⟨0⟩, string := some (.transformed .integerString) }

/-- The plan for boxes. -/
def boxPlan : Converters where
  entries := [⟨6⟩]
  classes := ⟨[(⟨6⟩, ⟨⟨6⟩, "Box", [⟨"v", false, .unionRef ⟨2⟩⟩,
    ⟨"note", true, .nullable (.copy .string)⟩]⟩)], by decide⟩
  enums := ⟨[(⟨0⟩, ⟨⟨0⟩, "Digit", ⟨["5"], by decide⟩⟩)], by decide⟩
  unions := ⟨[(⟨2⟩, boxCodec)], by decide⟩

/-- A box that holds the text of an integer and has no note. -/
def boxOf (i : Int64) : TypedObject :=
  ⟨⟨6⟩, [("v", some (.union { UnionSlots.null with
    string := some (.transformed (.integerString i)) })), ("note", none)]⟩

/-- A null note is left out, and a zero before the digits of an integer too. -/
theorem dehydrate_hydrate_box :
    boxPlan.normalForm ⟨6⟩ (.object [("x", .null), ("note", .null), ("v", .string "07")])
        = .object [("v", .string "7")]
      ∧ boxPlan.hydrate (boxOf 7)
        = .ok (boxPlan.normalForm ⟨6⟩ (.object [("x", .null), ("note", .null), ("v", .string "07")]))
      ∧ ∃ again, boxPlan.dehydrate ⟨6⟩ (boxPlan.normalForm ⟨6⟩
          (.object [("x", .null), ("note", .null), ("v", .string "07")])) = .ok again
        ∧ boxPlan.hydrate again = .ok (boxPlan.normalForm ⟨6⟩
          (.object [("x", .null), ("note", .null), ("v", .string "07")])) := by
  have hbuild : build boxGraph [⟨6⟩] .codec = .ok boxPlan := rfl
  exact ⟨rfl, dehydrate_hydrate hbuild rfl⟩

end Hydration.Converters
