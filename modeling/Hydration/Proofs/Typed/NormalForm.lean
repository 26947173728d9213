import Hydration.Proofs.Plan.Faithful
import Hydration.Proofs.Transform.Canonical
import Hydration.Proofs.Typed.Reads
import Hydration.Proofs.Typed.Writes

/-!
# Normal forms

Hydrating what was dehydrated gives the normal form of the document: instances
keep their declared members in declared order without the nulls that mark
absence, transformed strings have their canonical texts, and everything else is
as it was. The normal form is its own normal form, and it dehydrates again.
-/

namespace Hydration

/-- The text that takes the place of a text under the rule of a string member. -/
def StringRule.canonical : StringRule → String → String
  | plain, text => text
  | transformed kind, text => kind.canonical text

/-- What becomes of the members of an object. -/
inductive ObjectForm where
  /-- They stay as they are. -/
  | verbatim
  /-- They are fields of an instance. -/
  | fields (fields : List FieldConverter)
  /-- They are entries of a map. -/
  | entries (rule : Rule)

namespace Converters

/-- Whether the normal form leaves out null at a field. -/
def omitsNull (plan : Converters) (field : FieldConverter) : Bool :=
  field.optional && (field.rule.isNullable || !plan.acceptsNull field.rule)

/-- The text that takes the place of a text under a rule. -/
def canonicalText (plan : Converters) (text : String) : Rule → String
  | .transformed kind => kind.canonical text
  | .nullable inner => canonicalText plan text inner
  | .unionRef id =>
    match plan.unions.get? id with
    | some codec =>
      if plan.isCaseOf codec text then text
      else
        match codec.string with
        | some rule => rule.canonical text
        | none => text
    | none => text
  | _ => text

/-- The rule of the elements of an array under a rule. -/
def itemRule? (plan : Converters) : Rule → Option Rule
  | .array items => some items
  | .nullable inner => itemRule? plan inner
  | .unionRef id => (plan.unions.get? id).bind UnionCodec.array
  | _ => none

/-- What becomes of the members of an instance. -/
def classForm (plan : Converters) (id : TypeId) : ObjectForm :=
  match plan.classes.get? id with
  | some converter => .fields converter.fields
  | none => .verbatim

/-- What becomes of the members of an object under a rule. -/
def objectForm (plan : Converters) : Rule → ObjectForm
  | .classRef id => plan.classForm id
  | .map values => .entries values
  | .nullable inner => objectForm plan inner
  | .unionRef id =>
    match plan.unions.get? id with
    | some codec =>
      match codec.classMember, codec.map with
      | some id, _ => plan.classForm id
      | none, some rule => .entries rule
      | none, none => .verbatim
    | none => .verbatim
  | _ => .verbatim

mutual

/-- The normal form of a value under a rule. -/
def normalize (plan : Converters) : Json → Rule → Json
  | .string text, rule => .string (plan.canonicalText text rule)
  | .array items, rule =>
    match plan.itemRule? rule with
    | some inner => .array (normalizeItems plan items inner)
    | none => .array items
  | .object members, rule =>
    match plan.objectForm rule with
    | .verbatim => .object members
    | .fields fields =>
      .object (fields.filterMap fun field =>
        (normalizeMember plan members field).map fun value => (field.key, value))
    | .entries inner => .object (normalizeEntries plan members inner)
  | value, _ => value

/-- The normal forms of elements. -/
def normalizeItems (plan : Converters) : List Json → Rule → List Json
  | [], _ => []
  | item :: rest, rule => normalize plan item rule :: normalizeItems plan rest rule

/-- The entries of a map with the normal forms of their values. -/
def normalizeEntries (plan : Converters) : List (String × Json) → Rule → List (String × Json)
  | [], _ => []
  | (key, value) :: rest, rule =>
    (key, normalize plan value rule) :: normalizeEntries plan rest rule

/-- The normal form of the member for a field, unless it is left out. -/
def normalizeMember (plan : Converters) : List (String × Json) → FieldConverter → Option Json
  | [], _ => none
  | (key, value) :: rest, field =>
    if key = field.key then
      if value.isNull && plan.omitsNull field then none
      else some (normalize plan value field.rule)
    else normalizeMember plan rest field

end

/-- The normal form of a document of a class. -/
def normalForm (plan : Converters) (id : TypeId) (value : Json) : Json :=
  plan.normalize value (.classRef id)

variable {plan : Converters}

/-- The normal form of a string is a string. -/
theorem normalize_text (text : String) (rule : Rule) :
    plan.normalize (.string text) rule = .string (plan.canonicalText text rule) := rfl

/-- The normal form of an array, by the rule of its elements. -/
theorem normalize_elements (items : List Json) (rule : Rule) :
    plan.normalize (.array items) rule
      = match plan.itemRule? rule with
        | some inner => .array (plan.normalizeItems items inner)
        | none => .array items := rfl

/-- The normal form of an object, by what becomes of its members. -/
theorem normalize_members (members : List (String × Json)) (rule : Rule) :
    plan.normalize (.object members) rule
      = match plan.objectForm rule with
        | .verbatim => .object members
        | .fields fields =>
          .object (fields.filterMap fun field =>
            (plan.normalizeMember members field).map fun value => (field.key, value))
        | .entries inner => .object (plan.normalizeEntries members inner) := rfl

theorem normalizeItems_eq (items : List Json) (rule : Rule) :
    plan.normalizeItems items rule = items.map fun item => plan.normalize item rule := by
  induction items with
  | nil => rfl
  | cons item rest ih => rw [normalizeItems, ih, List.map_cons]

theorem normalizeEntries_eq (members : List (String × Json)) (rule : Rule) :
    plan.normalizeEntries members rule
      = members.map fun member => (member.1, plan.normalize member.2 rule) := by
  induction members with
  | nil => rfl
  | cons member rest ih =>
    obtain ⟨key, value⟩ := member
    rw [normalizeEntries, ih, List.map_cons]

/-- A field without a member has no normal form. -/
theorem normalizeMember_of_none {members : List (String × Json)} {field : FieldConverter}
    (hg : Entries.get? field.key members = none) : plan.normalizeMember members field = none := by
  induction members with
  | nil => rfl
  | cons member rest ih =>
    obtain ⟨key, value⟩ := member
    by_cases hk : key = field.key
    · rw [Entries.get?, if_pos hk] at hg
      cases hg
    · rw [Entries.get?, if_neg hk] at hg
      rw [normalizeMember, if_neg hk, ih hg]

/-- A field with a member has the normal form of its value, unless it omits null. -/
theorem normalizeMember_of_some {members : List (String × Json)} {field : FieldConverter}
    {value : Json} (hg : Entries.get? field.key members = some value) :
    plan.normalizeMember members field
      = if value = .null ∧ plan.omitsNull field = true then none
        else some (plan.normalize value field.rule) := by
  induction members with
  | nil => cases hg
  | cons member rest ih =>
    obtain ⟨key, found⟩ := member
    by_cases hk : key = field.key
    · rw [Entries.get?, if_pos hk] at hg
      cases hg
      rw [normalizeMember, if_pos hk]
      by_cases hv : value = .null <;> cases plan.omitsNull field <;> simp [hv, Json.isNull]
    · rw [Entries.get?, if_neg hk] at hg
      rw [normalizeMember, if_neg hk, ih hg]

/-- A copied value is its normal form. -/
theorem normalize_copy (value : Json) (primitive : Primitive) :
    plan.normalize value (.copy primitive) = value := by
  cases value <;> rfl

/-- A nullable rule has the normal forms of its inner rule. -/
theorem normalize_nullable (value : Json) (rule : Rule) :
    plan.normalize value (.nullable rule) = plan.normalize value rule := by
  cases value with
  | string text => rw [normalize_text, normalize_text, canonicalText]
  | array items => rw [normalize_elements, normalize_elements, itemRule?]
  | object members => rw [normalize_members, normalize_members, objectForm]
  | _ => rfl

/-- The items of an array are normalized one by one. -/
theorem normalize_array (items : List Json) (rule : Rule) :
    plan.normalize (.array items) (.array rule)
      = .array (items.map fun item => plan.normalize item rule) := by
  rw [normalize_elements, itemRule?]
  exact congrArg Json.array (normalizeItems_eq items rule)

/-- The values of a map are normalized one by one. -/
theorem normalize_map (members : List (String × Json)) (rule : Rule) :
    plan.normalize (.object members) (.map rule)
      = .object (members.map fun member => (member.1, plan.normalize member.2 rule)) := by
  rw [normalize_members, objectForm]
  exact congrArg Json.object (normalizeEntries_eq members rule)

/-- An object of a class has its declared members left, in the order of the fields. -/
theorem normalize_classRef {id : TypeId} {converter : ClassConverter}
    (hc : plan.classes.get? id = some converter) (members : List (String × Json)) :
    plan.normalize (.object members) (.classRef id)
      = .object (converter.fields.filterMap fun field =>
          (plan.normalizeMember members field).map fun value => (field.key, value)) := by
  rw [normalize_members, objectForm, classForm, hc]

variable {id : TypeId} {codec : UnionCodec}

/-- A case of the enum member is its normal form. -/
theorem normalize_union_case (hu : plan.unions.get? id = some codec) {text : String}
    (hc : plan.isCaseOf codec text = true) :
    plan.normalize (.string text) (.unionRef id) = .string text := by
  rw [normalize_text, canonicalText, hu]
  dsimp only
  rw [if_pos hc]

/-- A string in a union is made canonical by the string member. -/
theorem normalize_union_string (hu : plan.unions.get? id = some codec) {text : String}
    {rule : StringRule} (hc : plan.isCaseOf codec text = false) (hs : codec.string = some rule) :
    plan.normalize (.string text) (.unionRef id) = .string (rule.canonical text) := by
  rw [normalize_text, canonicalText, hu]
  dsimp only
  rw [if_neg (by rw [hc]; exact Bool.false_ne_true), hs]

/-- An array in a union is normalized by the array member. -/
theorem normalize_union_array (hu : plan.unions.get? id = some codec) {rule : Rule}
    (ha : codec.array = some rule) (items : List Json) :
    plan.normalize (.array items) (.unionRef id) = plan.normalize (.array items) (.array rule) := by
  rw [normalize_elements, normalize_elements, itemRule?, itemRule?, hu, Option.bind_some, ha]

/-- An object in a union is normalized by the class member if there is one. -/
theorem normalize_union_object (hu : plan.unions.get? id = some codec) {member : TypeId}
    (hc : codec.classMember = some member) (members : List (String × Json)) :
    plan.normalize (.object members) (.unionRef id)
      = plan.normalize (.object members) (.classRef member) := by
  rw [normalize_members, normalize_members, objectForm, objectForm, hu]
  dsimp only
  rw [hc]

/-- An object in a union without a class member is normalized by the map member. -/
theorem normalize_union_map (hu : plan.unions.get? id = some codec) {rule : Rule}
    (hc : codec.classMember = none) (hm : codec.map = some rule) (members : List (String × Json)) :
    plan.normalize (.object members) (.unionRef id)
      = plan.normalize (.object members) (.map rule) := by
  rw [normalize_members, normalize_members, objectForm, objectForm, hu]
  dsimp only
  rw [hc, hm]

/-- Only null has the normal form null. -/
theorem normalize_eq_null {value : Json} {rule : Rule} :
    plan.normalize value rule = .null ↔ value = .null := by
  constructor
  · intro h
    cases value with
    | null => rfl
    | string text =>
      rw [normalize_text] at h
      cases h
    | array items =>
      rw [normalize_elements] at h
      split at h <;> cases h
    | object members =>
      rw [normalize_members] at h
      split at h <;> cases h
    | _ => cases h
  · rintro rfl
    rfl

/-- The keys of every class are distinct. -/
def DistinctKeys (plan : Converters) : Prop :=
  ∀ id converter, plan.classes.get? id = some converter →
    (converter.fields.map FieldConverter.key).Nodup

/-- A field finds the member that was written for it. -/
theorem get?_written {fields : List FieldConverter} (hn : (fields.map FieldConverter.key).Nodup)
    {field : FieldConverter} (hf : field ∈ fields) (written : FieldConverter → Option Json) :
    Entries.get? field.key (fields.filterMap fun other =>
      (written other).map fun value => (other.key, value)) = written field := by
  induction fields with
  | nil => cases hf
  | cons first rest ih =>
    rw [List.map_cons, List.nodup_cons] at hn
    rcases List.mem_cons.mp hf with rfl | hf
    · cases hw : written field with
      | some value =>
        rw [List.filterMap_cons_some (by rw [hw, Option.map_some]), Entries.get?, if_pos rfl]
      | none =>
        rw [List.filterMap_cons_none (by rw [hw, Option.map_none]), Entries.get?_eq_none_iff]
        intro hm
        obtain ⟨member, hmem, hkey⟩ := List.mem_map.mp hm
        obtain ⟨other, hother, hvalue⟩ := List.mem_filterMap.mp hmem
        obtain ⟨value, -, rfl⟩ := Option.map_eq_some_iff.mp hvalue
        exact hn.1 (hkey ▸ List.mem_map_of_mem hother)
    · have hne : first.key ≠ field.key := by
        intro heq
        exact hn.1 (heq ▸ List.mem_map_of_mem hf)
      cases hw : written first with
      | some value =>
        rw [List.filterMap_cons_some (by rw [hw, Option.map_some]), Entries.get?, if_neg hne]
        exact ih hn.2 hf
      | none =>
        rw [List.filterMap_cons_none (by rw [hw, Option.map_none])]
        exact ih hn.2 hf

/-- A canonical text is canonical already. -/
theorem canonical_canonical (rule : StringRule) (text : String) :
    rule.canonical (rule.canonical text) = rule.canonical text := by
  cases rule with
  | plain => rfl
  | transformed kind => exact kind.canonical_canonical text

theorem canonicalText_canonicalText (text : String) (rule : Rule) :
    plan.canonicalText (plan.canonicalText text rule) rule = plan.canonicalText text rule := by
  induction rule with
  | transformed kind => exact canonical_canonical (.transformed kind) text
  | nullable inner ih => exact ih
  | unionRef id =>
    cases hu : plan.unions.get? id with
    | none => simp only [canonicalText, hu]
    | some codec =>
      by_cases hc : plan.isCaseOf codec text = true
      · simp only [canonicalText, hu, hc, if_true]
      · cases hs : codec.string with
        | none => simp only [canonicalText, hu, hs, ite_self]
        | some rule =>
          have htext : plan.canonicalText text (.unionRef id) = rule.canonical text := by
            simp only [canonicalText, hu, hc, hs]
            exact if_neg Bool.false_ne_true
          rw [htext]
          simp only [canonicalText, hu, hs, canonical_canonical, ite_self]
  | _ => rfl

/-- Instances have the fields of a class. -/
theorem class_of_objectForm {rule : Rule} {fields : List FieldConverter}
    (h : plan.objectForm rule = .fields fields) :
    ∃ id converter, plan.classes.get? id = some converter ∧ converter.fields = fields := by
  have hclass : ∀ {id : TypeId}, plan.classForm id = .fields fields →
      ∃ id converter, plan.classes.get? id = some converter ∧ converter.fields = fields := by
    intro id hform
    unfold classForm at hform
    split at hform
    · rename_i converter hc
      cases hform
      exact ⟨id, converter, hc, rfl⟩
    · cases hform
  induction rule with
  | classRef id => exact hclass h
  | nullable inner ih => exact ih h
  | unionRef id =>
    unfold objectForm at h
    split at h
    · split at h
      · exact hclass h
      · cases h
      · cases h
    · cases h
  | _ => cases h

/-- The member that was written for a field is its own normal form if its value
is. -/
theorem normalizeMember_written {fields : List FieldConverter}
    (hn : (fields.map FieldConverter.key).Nodup) {field : FieldConverter} (hf : field ∈ fields)
    {members : List (String × Json)}
    (hvalue : ∀ value, Entries.get? field.key members = some value →
      plan.normalize (plan.normalize value field.rule) field.rule
        = plan.normalize value field.rule) :
    plan.normalizeMember (fields.filterMap fun other =>
        (plan.normalizeMember members other).map fun value => (other.key, value)) field
      = plan.normalizeMember members field := by
  have hfound := get?_written hn hf (plan.normalizeMember members)
  cases hg : Entries.get? field.key members with
  | none =>
    rw [normalizeMember_of_none hg] at hfound ⊢
    exact normalizeMember_of_none hfound
  | some value =>
    have hmember : plan.normalizeMember members field
        = if value = .null ∧ plan.omitsNull field = true then none
          else some (plan.normalize value field.rule) := normalizeMember_of_some hg
    split at hmember
    · rw [hmember] at hfound ⊢
      exact normalizeMember_of_none hfound
    · rename_i hkept
      have hkept' : ¬(plan.normalize value field.rule = .null ∧ plan.omitsNull field = true) :=
        fun h => hkept ⟨normalize_eq_null.mp h.1, h.2⟩
      rw [hmember] at hfound ⊢
      rw [normalizeMember_of_some hfound, if_neg hkept', hvalue value hg]

/-- The normal form is its own normal form. -/
theorem normalize_normalize (hn : plan.DistinctKeys) (value : Json) (rule : Rule) :
    plan.normalize (plan.normalize value rule) rule = plan.normalize value rule := by
  induction value using Json.inductParts generalizing rule with
  | step value ih =>
    cases value with
    | string text =>
      rw [normalize_text, normalize_text, canonicalText_canonicalText]
    | array items =>
      cases hr : plan.itemRule? rule with
      | none => simp only [normalize_elements, hr]
      | some inner =>
        have hitems : plan.normalize (.array items) rule
            = .array (items.map fun item => plan.normalize item inner) := by
          simp only [normalize_elements, hr, normalizeItems_eq]
        rw [hitems]
        simp only [normalize_elements, hr, normalizeItems_eq, List.map_map]
        refine congrArg Json.array (List.map_congr_left fun item hi => ?_)
        exact ih item hi inner
    | object members =>
      cases hform : plan.objectForm rule with
      | verbatim => simp only [normalize_members, hform]
      | entries inner =>
        have hentries : plan.normalize (.object members) rule
            = .object (members.map fun member => (member.1, plan.normalize member.2 inner)) := by
          simp only [normalize_members, hform, normalizeEntries_eq]
        rw [hentries]
        simp only [normalize_members, hform, normalizeEntries_eq, List.map_map]
        refine congrArg Json.object (List.map_congr_left fun member hm => ?_)
        exact congrArg (Prod.mk member.1) (ih member.2 (List.mem_map_of_mem hm) inner)
      | fields fields =>
        obtain ⟨id, converter, hc, hfields⟩ := class_of_objectForm hform
        have hnodup : (fields.map FieldConverter.key).Nodup := hfields ▸ hn id converter hc
        have hobject : plan.normalize (.object members) rule
            = .object (fields.filterMap fun field =>
                (plan.normalizeMember members field).map fun value => (field.key, value)) := by
          simp only [normalize_members, hform]
        rw [hobject]
        simp only [normalize_members, hform]
        refine congrArg Json.object (List.filterMap_congr fun field hf => ?_)
        rw [normalizeMember_written hnodup hf fun value hg =>
          ih value (List.mem_map_of_mem (Entries.mem_of_get? hg)) field.rule]
    | _ => rfl

end Converters

end Hydration
