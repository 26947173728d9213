import Hydration.Proofs.Typed.Canonical

/-!
# Texts that belong to another member

Hydrating writes a transformed string in its canonical text. In a union that
text may be a case of the enum member although the text that was read is none;
dehydrating the result then fills the slot of the enum member. Nothing else
keeps the result of dehydrating from being dehydrated to itself.
-/

namespace Hydration.Converters

variable (plan : Converters)

/-- Somewhere in a typed value, the string slot of a union value is hydrated to
a case of the enum member. -/
inductive Shadowed : Rule → TypedValue → Prop where
  /-- In a field. -/
  | field {object : TypedObject} {converter : ClassConverter} {field : FieldConverter}
      {typed : TypedValue} (hc : plan.classes.get? object.classId = some converter)
      (hf : field ∈ converter.fields) (hg : object.get? field.key = some typed)
      (h : Shadowed field.rule typed) : Shadowed (.classRef object.classId) (.object object)
  /-- In an element. -/
  | item {rule : Rule} {items : List TypedValue} {item : TypedValue} (hi : item ∈ items)
      (h : Shadowed rule item) : Shadowed (.array rule) (.array items)
  /-- In the value of an entry. -/
  | entry {rule : Rule} {entries : List (String × TypedValue)} {entry : String × TypedValue}
      (he : entry ∈ entries) (h : Shadowed rule entry.2) : Shadowed (.map rule) (.map entries)
  /-- In a value of a nullable type. -/
  | nullable {rule : Rule} {typed : TypedValue} (h : Shadowed rule typed) :
      Shadowed (.nullable rule) typed
  /-- In a string slot. -/
  | string {id : TypeId} {codec : UnionCodec} {rule : StringRule} {slots : UnionValue}
      {typed : TypedValue} {text : String} (hu : plan.unions.get? id = some codec)
      (hr : codec.string = some rule) (hs : slots.string = some typed)
      (hw : plan.Writes rule.rule typed (.string text)) (hc : plan.isCaseOf codec text = true) :
      Shadowed (.unionRef id) (.union slots)
  /-- In an array slot. -/
  | array {id : TypeId} {codec : UnionCodec} {rule : Rule} {slots : UnionValue}
      {items : List TypedValue} (hu : plan.unions.get? id = some codec)
      (hr : codec.array = some rule) (hs : slots.array = some items)
      (h : Shadowed (.array rule) (.array items)) : Shadowed (.unionRef id) (.union slots)
  /-- In the slot of instances. -/
  | object {id : TypeId} {codec : UnionCodec} {slots : UnionValue} {object : TypedObject}
      (hu : plan.unions.get? id = some codec) (hs : slots.object = some object)
      (h : Shadowed (.classRef object.classId) (.object object)) :
      Shadowed (.unionRef id) (.union slots)
  /-- In the slot of maps. -/
  | map {id : TypeId} {codec : UnionCodec} {rule : Rule} {slots : UnionValue}
      {entries : List (String × TypedValue)} (hu : plan.unions.get? id = some codec)
      (hr : codec.map = some rule) (hs : slots.map = some entries)
      (h : Shadowed (.map rule) (.map entries)) : Shadowed (.unionRef id) (.union slots)

variable {plan}

/-- Null is shadowed nowhere. -/
theorem Shadowed.ne_null {rule : Rule} {typed : TypedValue} (h : plan.Shadowed rule typed) :
    typed ≠ .null := by
  induction h with
  | nullable _ ih => exact ih
  | _ =>
    intro heq
    cases heq

/-- A value is read as a typed value that is canonical if it is shadowed nowhere. -/
def ReadsUnshadowed (plan : Converters) (rule : Rule) (value : Json) (typed : TypedValue) : Prop :=
  plan.Reads rule value typed ∧ (¬plan.Shadowed rule typed → plan.Canonical rule typed)

/-- What was read from a text is canonical. -/
theorem canonical_of_textLayer {rule : StringRule} {text : String} {typed : TypedValue}
    (h : TextLayer rule text typed) : plan.Canonical rule.rule typed := by
  cases h with
  | plain => exact .string text
  | transformed hp =>
    obtain ⟨hf, hread⟩ := TransformKind.canonical_of_parse hp
    exact .transformed hf hread

/-- The elements of an array are canonical if none is shadowed. -/
theorem canonical_array {rule : Rule} {items : List Json} {typed : List TypedValue}
    (h : List.Forall₂ (plan.ReadsUnshadowed rule) items typed)
    (hshadow : ¬plan.Shadowed (.array rule) (.array typed)) :
    plan.Canonical (.array rule) (.array typed) := by
  refine .array fun item hi => ?_
  obtain ⟨part, -, -, hpart⟩ := exists_of_forall₂_right h hi
  exact hpart fun hitem => hshadow (.item hi hitem)

/-- The values of a map are canonical if none is shadowed. -/
theorem canonical_map {rule : Rule} {members : List (String × Json)}
    {typed : List (String × TypedValue)}
    (h : List.Forall₂ (fun member entry => entry.1 = member.1
      ∧ plan.ReadsUnshadowed rule member.2 entry.2) members typed)
    (hshadow : ¬plan.Shadowed (.map rule) (.map typed)) :
    plan.Canonical (.map rule) (.map typed) := by
  refine .map fun entry he => ?_
  obtain ⟨part, -, -, -, hpart⟩ := exists_of_forall₂_right h he
  exact hpart fun hentry => hshadow (.entry he hentry)

/-- An instance is canonical if no field is shadowed. -/
theorem canonical_object (hn : plan.DistinctKeys) {id : TypeId} {value : Json}
    {object : TypedObject} (h : plan.ObjectLayer plan.ReadsUnshadowed id value object)
    (hshadow : ¬plan.Shadowed (.classRef id) (.object object)) :
    object.classId = id ∧ plan.Canonical (.classRef object.classId) (.object object) := by
  obtain ⟨hc, hf⟩ := h
  rename_i converter members entries
  have hfield : ∀ field ∈ converter.fields, plan.FieldLayer plan.ReadsUnshadowed members field
      ((Instance.mk id entries).get? field.key) :=
    fun field hmem => fieldLayer_of_mem (hn id converter hc) hf hmem id
  refine ⟨rfl, .object hc (keys_of_fieldLayers hf) (fun field hmem hnone => ?_)
    (fun field hmem hnullable hnull => ?_) fun field hmem typed hsome => ?_⟩
  · have hread := hfield field hmem
    rw [hnone] at hread
    cases hread with
    | missing _ ho => exact Or.inl ho
    | dropped _ hd => exact (omitsNull_or_required hd).imp And.left And.right
  · have hread := hfield field hmem
    rw [hnull] at hread
    cases hread with
    | present _ hd hr =>
      have hdrops : plan.dropsNull field = true := by rw [dropsNull, hnullable, Bool.true_or]
      cases (hd (eq_null_of_reads_null hr.1)).symm.trans hdrops
  · have hread := hfield field hmem
    rw [hsome] at hread
    cases hread with
    | present _ _ hr => exact hr.2 fun hinner => hshadow (.field hc hmem hsome hinner)

/-- What was read is canonical if it is shadowed nowhere. -/
theorem canonical_of_reads (hn : plan.DistinctKeys) {rule : Rule} {value : Json}
    {typed : TypedValue} (h : plan.Reads rule value typed) :
    ¬plan.Shadowed rule typed → plan.Canonical rule typed := by
  refine Reads.induct (fun rule value typed hlayer => ?_) h
  intro hshadow
  cases hlayer with
  | any => exact .any value
  | null => exact .null
  | bool b => exact .bool b
  | integer => exact .integer _
  | double n => exact .double n
  | string text => exact .string text
  | transformed hp => exact canonical_of_textLayer (.transformed hp)
  | enumCase he hc => exact .enumCase he hc
  | object ho =>
    obtain ⟨rfl, hcanonical⟩ := canonical_object hn ho hshadow
    exact hcanonical
  | array hr => exact canonical_array hr hshadow
  | map hr => exact canonical_map hr hshadow
  | absent inner => exact .absent inner
  | present hv hr =>
    refine .present (hr.2 fun hinner => hshadow (.nullable hinner)) ?_
    rintro rfl rfl
    cases reads_iff.mp hr.1
    exact hv rfl
  | union hu hlayer =>
    cases hlayer with
    | null hnull => exact .unionNull hu hnull
    | bool b hb => exact .unionBool hu hb b
    | integer hi => exact .unionInteger hu hi _
    | double hi hd => exact .unionDouble hu hd hi
    | enumCase hc => exact .unionEnum hu hc
    | string he hc hs ht =>
      refine .unionString hu hs (canonical_of_textLayer ht) fun written hw => ?_
      rw [Bool.eq_false_iff]
      exact fun hcase => hshadow (.string hu hs rfl hw hcase)
    | array ha hr =>
      exact .unionArray hu ha (canonical_array hr fun hinner => hshadow (.array hu ha rfl hinner))
    | object hm ho =>
      have hid := ho.classId_eq
      subst hid
      have hcanonical := canonical_object hn ho fun hinner => hshadow (.object hu rfl hinner)
      exact .unionObject hu hm hcanonical.2
    | map hc hm hr =>
      exact .unionMap hu hc hm (canonical_map hr fun hinner => hshadow (.map hu hm rfl hinner))

/-- A value that is its own normal form is not read as a shadowed value: down to the shadowed slot
its parts are their own normal forms too. -/
theorem Shadowed.normalize_ne (hn : plan.DistinctKeys) {rule : Rule} {typed : TypedValue}
    (h : plan.Shadowed rule typed) {value : Json} (hr : plan.Reads rule value typed) :
    plan.normalize value rule ≠ value := by
  intro hnormal
  induction h generalizing value with
  | @field object converter field typed hc hf hg _ ih =>
    obtain ⟨id, entries⟩ := object
    cases reads_iff.mp hr with
    | object ho =>
      cases ho with
      | @intro converter' members _ hc' hfields =>
        cases hc.symm.trans hc'
        have hnodup := hn id converter hc
        have hread := fieldLayer_of_mem hnodup hfields hf id
        rw [hg] at hread
        rw [normalize_classRef hc] at hnormal
        have hfound := get?_written hnodup hf (plan.normalizeMember members)
        rw [Json.object.inj hnormal] at hfound
        cases hread with
        | present hget hd hr' =>
          rw [normalizeMember_of_present hget hd, hget] at hfound
          exact ih hr' (Option.some.inj hfound).symm
  | @item rule items item hi _ ih =>
    cases reads_iff.mp hr with
    | array hitems =>
      obtain ⟨part, hpart, hread⟩ := exists_of_forall₂_right hitems hi
      rw [normalize_array] at hnormal
      have hitem := List.map_inj_left.mp ((Json.array.inj hnormal).trans (List.map_id' _).symm)
      exact ih hread (hitem part hpart)
  | @entry rule entries entry he _ ih =>
    cases reads_iff.mp hr with
    | map hentries =>
      obtain ⟨member, hm, -, hread⟩ := exists_of_forall₂_right hentries he
      rw [normalize_map] at hnormal
      have hmember := List.map_inj_left.mp ((Json.object.inj hnormal).trans (List.map_id' _).symm)
      exact ih hread (congrArg Prod.snd (hmember member hm))
  | nullable h ih =>
    cases reads_iff.mp hr with
    | absent => exact h.ne_null rfl
    | present _ hread =>
      rw [normalize_nullable] at hnormal
      exact ih hread hnormal
  | @string id codec rule slots typed text hu hrule hs hw hcase =>
    cases reads_iff.mp hr with
    | union hu' hlayer =>
      cases hu.symm.trans hu'
      cases hlayer with
      | @string rule' text' typed' he hc hrule' ht =>
        cases hrule.symm.trans hrule'
        cases hs
        rw [normalize_union_string hu hc hrule] at hnormal
        have hsame : rule.canonical text' = text' := Json.string.inj hnormal
        have hwritten : plan.Writes rule.rule typed (.string (rule.canonical text')) := by
          cases ht with
          | plain => exact .string text'
          | transformed hp => exact .transformed (TransformKind.canonical_of_parse hp).1
        have htext := (hw Path.top).symm.trans (hwritten Path.top)
        rw [hsame] at htext
        cases htext
        cases hc.symm.trans hcase
      | _ => cases hs
  | @array id codec rule slots items hu hrule hs _ ih =>
    cases reads_iff.mp hr with
    | union hu' hlayer =>
      cases hu.symm.trans hu'
      cases hlayer with
      | array hrule' hitems =>
        cases hrule.symm.trans hrule'
        cases hs
        rw [normalize_union_array hu hrule] at hnormal
        exact ih (reads_iff.mpr (.array hitems)) hnormal
      | _ => cases hs
  | @object id codec slots object hu hs _ ih =>
    cases reads_iff.mp hr with
    | union hu' hlayer =>
      cases hu.symm.trans hu'
      cases hlayer with
      | @object member members typed hm ho =>
        cases hs
        have hid := ho.classId_eq
        subst hid
        rw [normalize_union_object hu hm] at hnormal
        exact ih (reads_iff.mpr (.object ho)) hnormal
      | _ => cases hs
  | @map id codec rule slots entries hu hrule hs _ ih =>
    cases reads_iff.mp hr with
    | union hu' hlayer =>
      cases hu.symm.trans hu'
      cases hlayer with
      | map hc hrule' hentries =>
        cases hrule.symm.trans hrule'
        cases hs
        rw [normalize_union_map hu hc hrule] at hnormal
        exact ih (reads_iff.mpr (.map hentries)) hnormal
      | _ => cases hs

/-- What was dehydrated is dehydrated to itself after hydrating it, unless a
string slot was hydrated to a case of the enum member. -/
theorem dehydrate_again_iff {graph : TypeGraph} {entries : List TypeId} {routing : UnionRouting}
    (h : build graph entries routing = .ok plan) {id : TypeId} {value again : Json}
    {typed : TypedObject} (hd : plan.dehydrate id value = .ok typed)
    (hh : plan.hydrate typed = .ok again) :
    plan.dehydrate id again = .ok typed ↔ ¬plan.Shadowed (.classRef id) (.object typed) := by
  have hp := faithful_of_build h
  have hn := distinctKeys_of_build h
  constructor
  · intro hagain hshadow
    have hnormal : plan.normalForm id again = again :=
      Except.ok.inj ((hydrate_eq_normalForm hn hagain).symm.trans hh)
    exact hshadow.normalize_ne hn (dehydrate_eq_ok.mp hagain) hnormal
  · intro hshadow
    have hcanonical := canonical_of_reads hn (dehydrate_eq_ok.mp hd) hshadow
    obtain ⟨written, hw, hr⟩ := exists_hydrated hp hcanonical
    cases hh.symm.trans hw
    exact hr

/-- A box that holds seven is dehydrated to itself, and one that holds the case
of the enum is not. -/
theorem dehydrate_again_box :
    ¬boxPlan.Shadowed (.classRef ⟨6⟩) (.object (boxOf 7))
      ∧ boxPlan.Shadowed (.classRef ⟨6⟩) (.object (boxOf 5)) := by
  have hbuild : build boxGraph [⟨6⟩] .codec = .ok boxPlan := rfl
  have hseven : boxPlan.dehydrate ⟨6⟩ (.object [("v", .string "07")]) = .ok (boxOf 7) := rfl
  have hfive : boxPlan.dehydrate ⟨6⟩ (.object [("v", .string "05")]) = .ok (boxOf 5) := rfl
  refine ⟨(dehydrate_again_iff hbuild hseven rfl).mp rfl, ?_⟩
  by_contra hshadow
  have hagain := (dehydrate_again_iff hbuild hfive rfl).mpr hshadow
  cases hagain

/-- What was dehydrated from the text of an integer with a zero before it is
hydrated to the case of an enum, and dehydrated to another value. -/
theorem not_dehydrate_again :
    ∃ (graph : TypeGraph) (entries : List TypeId) (plan : Converters) (id : TypeId)
        (value again : Json) (typed : TypedObject),
      build graph entries .codec = .ok plan ∧ plan.dehydrate id value = .ok typed
        ∧ plan.hydrate typed = .ok again ∧ plan.dehydrate id again ≠ .ok typed := by
  refine ⟨boxGraph, [⟨6⟩], boxPlan, ⟨6⟩, .object [("v", .string "05")],
    .object [("v", .string "5")], boxOf 5, rfl, rfl, rfl, fun hagain => ?_⟩
  cases hagain

end Hydration.Converters
