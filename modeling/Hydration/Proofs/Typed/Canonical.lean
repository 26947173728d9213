import Hydration.Proofs.Typed.RoundTrip
import Mathlib.Tactic.Choose

/-!
# Canonical typed values come back

A typed value is canonical for a rule if it has the variant that the rule asks
for and marks absence in the one way in which dehydrating does. Hydrating a
canonical instance succeeds, and dehydrating the result gives the same instance.
-/

namespace Hydration.Converters

variable (plan : Converters)

/-- Typed values that dehydrating gives for the documents they are hydrated to. -/
inductive Canonical : Rule → TypedValue → Prop where
  /-- Every value. -/
  | any (value : Json) : Canonical (.copy .any) (.any value)
  /-- Null. -/
  | null : Canonical (.copy .null) .null
  /-- A truth value. -/
  | bool (b : Bool) : Canonical (.copy .bool) (.bool b)
  /-- An integer. -/
  | integer (i : Int64) : Canonical (.copy .integer) (.integer i)
  /-- A number. -/
  | double (n : Json.Number) : Canonical (.copy .double) (.double n)
  /-- A string. -/
  | string (text : String) : Canonical (.copy .string) (.string text)
  /-- A value of the interpretation that its text is read as. -/
  | transformed {kind : TransformKind} {value : Transformed} {text : String}
      (hf : kind.format value = some text) (hp : kind.parse text = .ok value) :
      Canonical (.transformed kind) (.transformed value)
  /-- A case of an enum. -/
  | enumCase {id : TypeId} {converter : EnumConverter} {tag : String}
      (he : plan.enums.get? id = some converter) (hc : converter.cases.contains tag = true) :
      Canonical (.enumRef id) (.enumCase tag)
  /-- An instance with the declared keys in declared order. A required field is
  absent only under a nullable rule, and under such a rule no field is present
  with null. -/
  | object {object : TypedObject} {converter : ClassConverter}
      (hc : plan.classes.get? object.classId = some converter)
      (hk : object.fields.map Prod.fst = converter.fields.map FieldConverter.key)
      (ha : ∀ field ∈ converter.fields, object.get? field.key = none →
        field.optional = true ∨ field.rule.isNullable = true)
      (hn : ∀ field ∈ converter.fields, field.rule.isNullable = true →
        object.get? field.key ≠ some .null)
      (hf : ∀ field ∈ converter.fields, ∀ typed, object.get? field.key = some typed →
        Canonical field.rule typed) : Canonical (.classRef object.classId) (.object object)
  /-- An array of canonical elements. -/
  | array {rule : Rule} {items : List TypedValue} (h : ∀ item ∈ items, Canonical rule item) :
      Canonical (.array rule) (.array items)
  /-- A map of canonical values. -/
  | map {rule : Rule} {entries : List (String × TypedValue)}
      (h : ∀ entry ∈ entries, Canonical rule entry.2) : Canonical (.map rule) (.map entries)
  /-- Null of a nullable type. -/
  | absent (rule : Rule) : Canonical (.nullable rule) .null
  /-- Any other value of a nullable type, but no null of no particular type. -/
  | present {rule : Rule} {typed : TypedValue} (h : Canonical rule typed)
      (ha : rule = .copy .any → typed ≠ .any .null) : Canonical (.nullable rule) typed
  /-- No slot is filled if null is a member. -/
  | unionNull {id : TypeId} {codec : UnionCodec} (hu : plan.unions.get? id = some codec)
      (hn : codec.nullable = true) : Canonical (.unionRef id) (.union UnionSlots.null)
  /-- The slot of truth values. -/
  | unionBool {id : TypeId} {codec : UnionCodec} (hu : plan.unions.get? id = some codec)
      (hb : codec.boolean = true) (b : Bool) :
      Canonical (.unionRef id) (.union { UnionSlots.null with bool := some b })
  /-- The slot of integers. -/
  | unionInteger {id : TypeId} {codec : UnionCodec} (hu : plan.unions.get? id = some codec)
      (hi : codec.integer = true) (i : Int64) :
      Canonical (.unionRef id) (.union { UnionSlots.null with integer := some i })
  /-- The slot of numbers, unless the number belongs to the integer member. -/
  | unionDouble {id : TypeId} {codec : UnionCodec} {n : Json.Number}
      (hu : plan.unions.get? id = some codec) (hd : codec.double = true)
      (hi : codec.integer = true → n.toInt64? = none) :
      Canonical (.unionRef id) (.union { UnionSlots.null with double := some n })
  /-- The slot of strings, unless the text belongs to the enum member. -/
  | unionString {id : TypeId} {codec : UnionCodec} {rule : StringRule} {typed : TypedValue}
      (hu : plan.unions.get? id = some codec) (hs : codec.string = some rule)
      (h : Canonical rule.rule typed)
      (hc : ∀ text, plan.Writes rule.rule typed (.string text) → plan.isCaseOf codec text = false) :
      Canonical (.unionRef id) (.union { UnionSlots.null with string := some typed })
  /-- The slot of enum cases. -/
  | unionEnum {id : TypeId} {codec : UnionCodec} {tag : String}
      (hu : plan.unions.get? id = some codec) (hc : plan.isCaseOf codec tag = true) :
      Canonical (.unionRef id) (.union { UnionSlots.null with enumCase := some tag })
  /-- The slot of arrays. -/
  | unionArray {id : TypeId} {codec : UnionCodec} {rule : Rule} {items : List TypedValue}
      (hu : plan.unions.get? id = some codec) (ha : codec.array = some rule)
      (h : Canonical (.array rule) (.array items)) :
      Canonical (.unionRef id) (.union { UnionSlots.null with array := some items })
  /-- The slot of instances. -/
  | unionObject {id : TypeId} {codec : UnionCodec} {object : TypedObject}
      (hu : plan.unions.get? id = some codec) (hm : codec.classMember = some object.classId)
      (h : Canonical (.classRef object.classId) (.object object)) :
      Canonical (.unionRef id) (.union { UnionSlots.null with object := some object })
  /-- The slot of maps, unless there is a class member. -/
  | unionMap {id : TypeId} {codec : UnionCodec} {rule : Rule}
      {entries : List (String × TypedValue)} (hu : plan.unions.get? id = some codec)
      (hc : codec.classMember = none) (hm : codec.map = some rule)
      (h : Canonical (.map rule) (.map entries)) :
      Canonical (.unionRef id) (.union { UnionSlots.null with map := some entries })

variable {plan}

/-- A rule that reads null converts null. -/
theorem acceptsNull_of_reads_null {rule : Rule} {typed : TypedValue}
    (h : plan.Reads rule .null typed) : plan.acceptsNull rule = true := by
  cases reads_iff.mp h with
  | any => rfl
  | null => rfl
  | object ho => cases ho
  | absent => rfl
  | present hv => exact absurd rfl hv
  | union hu hlayer =>
    cases hlayer with
    | null hn =>
      rw [acceptsNull, hu]
      exact hn

/-- The instances with given keys, field by field. -/
theorem forall₂_fields {fields : List FieldConverter} {object : TypedObject}
    {P : FieldConverter → Option TypedValue → Prop} (hn : (fields.map FieldConverter.key).Nodup)
    (hk : object.fields.map Prod.fst = fields.map FieldConverter.key)
    (h : ∀ field ∈ fields, P field (object.get? field.key)) :
    List.Forall₂ (fun field entry => entry.1 = field.key ∧ P field entry.2)
      fields object.fields := by
  have hkeys : List.Forall₂ (fun field entry => field.key = entry.1) fields object.fields := by
    have heq : List.Forall₂ (· = ·) (fields.map FieldConverter.key)
        (object.fields.map Prod.fst) := by
      rw [List.forall₂_eq_eq_eq, hk]
    exact List.forall₂_map_right_iff.mp (List.forall₂_map_left_iff.mp heq)
  refine forall₂_imp_of_mem hkeys fun field hf entry hm hkey => ⟨hkey.symm, ?_⟩
  have hnodup : (object.fields.map Prod.fst).Nodup := hk ▸ hn
  have hmem : (field.key, entry.2) ∈ object.fields := hkey ▸ hm
  have hget : object.get? field.key = entry.2 := by
    rw [Instance.get?, Entries.get?_of_mem hnodup hmem, Option.join_some]
  exact hget ▸ h field hf

/-- A canonical field is written so that it is read back. -/
theorem exists_written_field {object : TypedObject} {field : FieldConverter}
    (ha : object.get? field.key = none → field.optional = true ∨ field.rule.isNullable = true)
    (hn : field.rule.isNullable = true → object.get? field.key ≠ some .null)
    (hf : ∀ typed, object.get? field.key = some typed →
      ∃ value, plan.Writes field.rule typed value ∧ plan.Reads field.rule value typed) :
    ∃ written, plan.FieldWrites object field written
      ∧ ∀ members, Entries.get? field.key members = written →
        plan.FieldLayer plan.Reads members field (object.get? field.key) := by
  cases hget : object.get? field.key with
  | none =>
    cases ho : field.optional with
    | true => exact ⟨none, .skipped hget ho, fun members hg => .missing hg ho⟩
    | false =>
      have hnullable : field.rule.isNullable = true := by
        rcases ha hget with h | h
        · cases ho.symm.trans h
        · exact h
      have hdrops : plan.dropsNull field = true := by
        rw [dropsNull, hnullable, Bool.true_or]
      exact ⟨some .null, .null hget ho (acceptsNull_of_isNullable hnullable),
        fun members hg => .dropped hg hdrops⟩
  | some typed =>
    obtain ⟨value, hw, hr⟩ := hf typed hget
    refine ⟨some value, .present hget hw, fun members hg => .present hg (fun hv => ?_) hr⟩
    subst hv
    have hnullable : field.rule.isNullable = false := by
      cases hrule : field.rule with
      | nullable inner =>
        rw [hrule] at hr hn
        have htyped : typed = .null := by
          cases reads_iff.mp hr with
          | absent => rfl
          | present hv => exact absurd rfl hv
        exact absurd (htyped ▸ hget) (hn rfl)
      | _ => rfl
    rw [dropsNull, hnullable, acceptsNull_of_reads_null hr, Bool.false_or, Bool.not_true,
      Bool.and_false]

/-- A canonical value of a type's rule is written so that it is read back. -/
theorem exists_written {graph : TypeGraph} (hp : plan.Faithful graph) {rule : Rule}
    {typed : TypedValue} (h : plan.Canonical rule typed) {type : TypeId}
    (hr : Plan.RuleOf graph plan.Records type rule) :
    ∃ value, plan.Writes rule typed value ∧ plan.Reads rule value typed := by
  -- The type of the rule is needed where the rule is nullable: it rules out null.
  induction h generalizing type with
  | any value => exact ⟨value, .any value, reads_iff.mpr (.any value)⟩
  | null => exact ⟨.null, .null, reads_iff.mpr .null⟩
  | bool b => exact ⟨.bool b, .bool b, reads_iff.mpr (.bool b)⟩
  | integer i =>
    have htoken := Json.Number.toInt64?_ofInt64 i
    exact ⟨.number (.ofInt64 i), .integer i, reads_iff.mpr (.integer htoken)⟩
  | double n => exact ⟨.number n, .double n, reads_iff.mpr (.double n)⟩
  | string text => exact ⟨.string text, .string text, reads_iff.mpr (.string text)⟩
  | @transformed kind value text hf hparse =>
    exact ⟨.string text, .transformed hf, reads_iff.mpr (.transformed hparse)⟩
  | @enumCase id converter tag he hc =>
    exact ⟨.string tag, .enumCase he hc, reads_iff.mpr (.enumCase he hc)⟩
  | @object object converter hc hk ha hn hf ih =>
    have hnodup := hp.nodup_keys hc
    have hfield : ∀ field ∈ converter.fields, ∃ written, plan.FieldWrites object field written
        ∧ ∀ members, Entries.get? field.key members = written →
          plan.FieldLayer plan.Reads members field (object.get? field.key) := by
      intro field hmem
      obtain ⟨fieldType, hrule⟩ := hp.rule_of_field hc hmem
      exact exists_written_field (ha field hmem) (hn field hmem)
        fun typed hget => ih field hmem typed hget hrule
    choose! written hwrites hreads using hfield
    refine ⟨_, Writes.object hc hwrites, reads_iff.mpr (.object ?_)⟩
    refine .intro hc (forall₂_fields hnodup hk fun field hmem => ?_)
    exact hreads field hmem _ (get?_written hnodup hmem written)
  | array _ ih =>
    obtain ⟨items, hitems⟩ := hr.array_items
    obtain ⟨values, hvalues⟩ := exists_forall₂ fun item hi => ih item hi hitems
    refine ⟨.array values, .array (hvalues.imp fun _ _ hv => hv.1), reads_iff.mpr (.array ?_)⟩
    exact List.Forall₂.flip (hvalues.imp fun _ _ hv => hv.2)
  | @map rule entries _ ih =>
    obtain ⟨inner, hinner⟩ := hr.map_values
    have hentry : ∀ entry ∈ entries, ∃ member : String × Json, member.1 = entry.1
        ∧ plan.Writes rule entry.2 member.2 ∧ plan.Reads rule member.2 entry.2 := by
      intro entry hm
      obtain ⟨value, hvalue⟩ := ih entry hm hinner
      exact ⟨(entry.1, value), rfl, hvalue⟩
    obtain ⟨members, hmembers⟩ := exists_forall₂ hentry
    refine ⟨.object members, .map (hmembers.imp fun _ _ hm => ⟨hm.1, hm.2.1⟩),
      reads_iff.mpr (.map ?_)⟩
    exact List.Forall₂.flip (hmembers.imp fun _ _ hm => ⟨hm.1.symm, hm.2.2⟩)
  | absent rule => exact ⟨.null, .absent rule, reads_iff.mpr (.absent rule)⟩
  | @present rule typed _ hany ih =>
    obtain ⟨member, hmember, hnull, hunion⟩ := hr.nullable_inner
    obtain ⟨value, hw, hread⟩ := ih hmember
    have hvalue : value ≠ .null := by
      rintro rfl
      have haccepts := acceptsNull_of_reads_null hread
      by_cases hrule : rule = .copy .any
      · subst hrule
        cases reads_iff.mp hread
        exact hany rfl rfl
      · cases haccepts.symm.trans (hmember.not_acceptsNull hnull hunion hrule)
    have htyped : typed ≠ .null := by
      rintro rfl
      exact hvalue (eq_null_of_reads_null hread)
    exact ⟨value, .present htyped hw, reads_iff.mpr (.present hvalue hread)⟩
  | unionNull hu hn =>
    exact ⟨.null, .union hu fun _ => encode_null hn, reads_iff.mpr (.union hu (.null hn))⟩
  | unionBool hu hb b =>
    exact ⟨.bool b, .union hu fun _ => encode_bool hb, reads_iff.mpr (.union hu (.bool b hb))⟩
  | unionInteger hu hi i =>
    have htoken := Json.Number.toInt64?_ofInt64 i
    exact ⟨.number (.ofInt64 i), .union hu fun _ => encode_integer hi,
      reads_iff.mpr (.union hu (.integer hi htoken))⟩
  | @unionDouble id codec n hu hd hi =>
    exact ⟨.number n, .union hu fun _ => encode_double hd,
      reads_iff.mpr (.union hu (.double hi hd))⟩
  | @unionString id codec rule typed hu hs _ hc ih =>
    obtain ⟨-, -, hcodec⟩ := hp.unions id codec hu
    have he := hp.exists_enumeration hu
    cases rule with
    | plain =>
      obtain ⟨member, -, ht⟩ := hcodec.plain_iff.mp hs
      obtain ⟨value, hw, hread⟩ := ih (.string ht)
      cases reads_iff.mp hread with
      | string text =>
        exact ⟨.string text, .union hu fun _ => encode_string hs hw,
          reads_iff.mpr (.union hu (.string he (hc text hw) hs (.plain text)))⟩
    | transformed kind =>
      obtain ⟨member, -, ht⟩ := hcodec.transformed_iff.mp hs
      obtain ⟨value, hw, hread⟩ := ih (.transformed ht)
      cases reads_iff.mp hread with
      | transformed hparse =>
        exact ⟨_, .union hu fun _ => encode_string hs hw,
          reads_iff.mpr (.union hu (.string he (hc _ hw) hs (.transformed hparse)))⟩
  | @unionEnum id codec tag hu hc =>
    obtain ⟨member, converter, hm, hfound, hcase⟩ := isCaseOf_iff.mp hc
    exact ⟨.string tag, .union hu fun _ => encode_enumCase hm hfound hcase,
      reads_iff.mpr (.union hu (.enumCase hc))⟩
  | @unionArray id codec rule items hu ha _ ih =>
    obtain ⟨-, -, hcodec⟩ := hp.unions id codec hu
    obtain ⟨member, -, inner, ht, hinner⟩ := hcodec.array_member ha
    obtain ⟨value, hw, hread⟩ := ih (.array ht hinner)
    refine ⟨value, .union hu fun _ => encode_array ha hw, ?_⟩
    cases reads_iff.mp hread with
    | array hitems => exact reads_iff.mpr (.union hu (.array ha hitems))
  | @unionObject id codec object hu hm _ ih =>
    obtain ⟨-, -, hcodec⟩ := hp.unions id codec hu
    obtain ⟨hmem, shape, ht⟩ := hcodec.classMember_iff.mp hm
    obtain ⟨value, hw, hread⟩ := ih (.classRef ht (hcodec.known_of_member (Or.inl hm)))
    refine ⟨value, .union hu fun _ => encode_object hm hw, ?_⟩
    cases reads_iff.mp hread with
    | object ho =>
      obtain ⟨members, rfl⟩ := ho.eq_object
      exact reads_iff.mpr (.union hu (.object hm ho))
  | @unionMap id codec rule entries hu hc hm _ ih =>
    obtain ⟨-, -, hcodec⟩ := hp.unions id codec hu
    obtain ⟨member, -, inner, ht, hinner⟩ := hcodec.map_member hm
    obtain ⟨value, hw, hread⟩ := ih (.map ht hinner)
    refine ⟨value, .union hu fun _ => encode_map hm hw, ?_⟩
    cases reads_iff.mp hread with
    | map hentries => exact reads_iff.mpr (.union hu (.map hc hm hentries))

/-- A canonical instance is hydrated so that dehydrating gives it back. -/
theorem exists_hydrated {graph : TypeGraph} (hp : plan.Faithful graph) {id : TypeId}
    {object : TypedObject} (hc : plan.Canonical (.classRef id) (.object object)) :
    ∃ value, plan.hydrate object = .ok value ∧ plan.dehydrate id value = .ok object := by
  cases hc with
  | object hconverter hk ha hn hf =>
    obtain ⟨ht, hfields⟩ := hp.classes _ _ hconverter
    have hrecords : plan.Records object.classId :=
      Or.inl (OrderedMap.mem_keys_iff.mpr ⟨_, hconverter⟩)
    obtain ⟨value, hw, hread⟩ := exists_written hp (.object hconverter hk ha hn hf)
      (.classRef ht hrecords)
    exact ⟨value, hydrate_eq_ok hw, dehydrate_eq_ok.mpr hread⟩

/-- Where a plan was built, a canonical instance of a class is hydrated, and
dehydrating the result gives it back. -/
theorem hydrate_dehydrate {graph : TypeGraph} {entries : List TypeId} {routing : UnionRouting}
    (h : build graph entries routing = .ok plan) {id : TypeId} {object : TypedObject}
    (hc : plan.Canonical (.classRef id) (.object object)) :
    ∃ value, plan.hydrate object = .ok value ∧ plan.dehydrate id value = .ok object :=
  exists_hydrated (faithful_of_build h) hc

/-- A box that holds an integer other than the case of the enum comes back. -/
theorem hydrate_dehydrate_box :
    boxPlan.Canonical (.classRef ⟨6⟩) (.object (boxOf 7))
      ∧ ∃ value, boxPlan.hydrate (boxOf 7) = .ok value
        ∧ boxPlan.dehydrate ⟨6⟩ value = .ok (boxOf 7) := by
  have hbuild : build boxGraph [⟨6⟩] .codec = .ok boxPlan := rfl
  have hinteger : boxPlan.Canonical (.transformed .integerString)
      (.transformed (.integerString 7)) := .transformed rfl rfl
  have hslot : boxPlan.Canonical (.unionRef ⟨2⟩) (.union { UnionSlots.null with
      string := some (.transformed (.integerString 7)) }) := by
    have hunion : boxPlan.unions.get? ⟨2⟩ = some boxCodec := rfl
    refine .unionString hunion rfl hinteger fun text hw => ?_
    cases hw Path.top
    rfl
  have hbox : boxPlan.Canonical (.classRef ⟨6⟩) (.object (boxOf 7)) := by
    have hclass : boxPlan.classes.get? (boxOf 7).classId = some ⟨⟨6⟩, "Box",
        [⟨"v", false, .unionRef ⟨2⟩⟩, ⟨"note", true, .nullable (.copy .string)⟩]⟩ := rfl
    refine .object hclass rfl ?_ ?_ ?_
    · intro field hmem _
      rcases List.mem_cons.mp hmem with rfl | hmem
      · contradiction
      · obtain rfl := List.mem_singleton.mp hmem
        exact Or.inl rfl
    · intro field hmem hnullable
      rcases List.mem_cons.mp hmem with rfl | hmem
      · contradiction
      · obtain rfl := List.mem_singleton.mp hmem
        exact fun hnull => by cases hnull
    · intro field hmem typed hget
      rcases List.mem_cons.mp hmem with rfl | hmem
      · cases hget
        exact hslot
      · obtain rfl := List.mem_singleton.mp hmem
        cases hget
  exact ⟨hbox, hydrate_dehydrate hbuild hbox⟩

end Hydration.Converters
