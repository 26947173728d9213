import Hydration.Proofs.Typed.RoundTrip

/-!
# What dehydrating gives is well typed

`WellTyped plan rule value typed` says that a typed value, read from a JSON
value, is one of a rule at every depth: instances have the declared keys of the
class that the rule names, absence is marked only where it may be, and a union
value fills one slot, that of a declared member, or none for null. The JSON
value is there for null alone; what else was read does not matter. Whatever
dehydrating gives is well typed.
-/

namespace Hydration

/-- The kinds of the filled slots of a union value, in the order in which they
are looked at for writing. -/
def UnionSlots.filled {α : Type} (slots : UnionSlots α) : List TypeKind :=
  (if slots.bool.isSome then [TypeKind.bool] else [])
    ++ (if slots.integer.isSome then [TypeKind.integer] else [])
    ++ (if slots.double.isSome then [TypeKind.double] else [])
    ++ (if slots.string.isSome then [TypeKind.string] else [])
    ++ (if slots.array.isSome then [TypeKind.array] else [])
    ++ (if slots.object.isSome then [TypeKind.classKind] else [])
    ++ (if slots.map.isSome then [TypeKind.map] else [])
    ++ (if slots.enumCase.isSome then [TypeKind.enumKind] else [])

namespace Converters

variable (plan : Converters)

/-- The slots of a union value fit a codec and the JSON value that it was read from. -/
structure SlotsFit (codec : UnionCodec) (value : Json) (slots : UnionValue) : Prop where
  /-- No slot is filled exactly for null. -/
  none_iff : slots.filled = [] ↔ value = .null
  /-- Null is a member if it was read. -/
  nullable : value = .null → codec.nullable = true
  /-- Of any other value one slot is filled, and it is that of a member. -/
  one : value ≠ .null → ∃ kind ∈ codec.memberKinds, slots.filled = [kind]
  /-- The slot of maps is filled only if there is no class member. -/
  map : slots.map.isSome = true → codec.classMember = none
  /-- The tag in the slot of enums is a case of the enum member. -/
  enumCase : ∀ tag, slots.enumCase = some tag → ∃ id converter, codec.enumeration = some id
    ∧ plan.enums.get? id = some converter ∧ converter.cases.contains tag = true

/-- A typed value is one of a rule, read from a JSON value. -/
inductive WellTyped : Rule → Json → TypedValue → Prop where
  /-- A JSON value of no particular type. -/
  | any (value inner : Json) : WellTyped (.copy .any) value (.any inner)
  /-- Null. -/
  | null (value : Json) : WellTyped (.copy .null) value .null
  /-- A truth value. -/
  | bool (value : Json) (b : Bool) : WellTyped (.copy .bool) value (.bool b)
  /-- An integer. -/
  | integer (value : Json) (i : Int64) : WellTyped (.copy .integer) value (.integer i)
  /-- A number. -/
  | double (value : Json) (n : Json.Number) : WellTyped (.copy .double) value (.double n)
  /-- A string. -/
  | string (value : Json) (text : String) : WellTyped (.copy .string) value (.string text)
  /-- A string of the interpretation that the rule names. -/
  | transformed {kind : TransformKind} (value : Json) {parsed : Transformed}
      (hk : parsed.kind = kind) : WellTyped (.transformed kind) value (.transformed parsed)
  /-- A case of the enum that the rule names. -/
  | enumCase {id : TypeId} {converter : EnumConverter} (value : Json) {tag : String}
      (he : plan.enums.get? id = some converter) (hc : converter.cases.contains tag = true) :
      WellTyped (.enumRef id) value (.enumCase tag)
  /-- An instance of the class that the rule names, with the declared keys in
  declared order. A field is absent only if it is optional or nullable, and a
  nullable field is not present with null. -/
  | object {id : TypeId} {converter : ClassConverter} {members : List (String × Json)}
      {object : TypedObject} (hid : object.classId = id)
      (hc : plan.classes.get? id = some converter)
      (hk : object.fields.map Prod.fst = converter.fields.map FieldConverter.key)
      (ha : ∀ field ∈ converter.fields, object.get? field.key = none →
        field.optional = true ∨ field.rule.isNullable = true)
      (hn : ∀ field ∈ converter.fields, field.rule.isNullable = true →
        object.get? field.key ≠ some .null)
      (hs : ∀ field ∈ converter.fields, ∀ typed, object.get? field.key = some typed →
        ∃ value, Entries.get? field.key members = some value)
      (hf : ∀ field ∈ converter.fields, ∀ typed, object.get? field.key = some typed →
        ∀ value, Entries.get? field.key members = some value →
        WellTyped field.rule value typed) :
      WellTyped (.classRef id) (.object members) (.object object)
  /-- An array, element by element. -/
  | array {rule : Rule} {items : List Json} {typed : List TypedValue}
      (hl : typed.length = items.length)
      (h : ∀ (index : Nat) (part : TypedValue), typed[index]? = some part →
        ∀ item : Json, items[index]? = some item → WellTyped rule item part) :
      WellTyped (.array rule) (.array items) (.array typed)
  /-- A map, entry by entry. -/
  | map {rule : Rule} {members : List (String × Json)} {entries : List (String × TypedValue)}
      (hk : entries.map Prod.fst = members.map Prod.fst)
      (h : ∀ (index : Nat) (entry : String × TypedValue), entries[index]? = some entry →
        ∀ member : String × Json, members[index]? = some member →
        WellTyped rule member.2 entry.2) : WellTyped (.map rule) (.object members) (.map entries)
  /-- Null of a nullable type. -/
  | absent (rule : Rule) : WellTyped (.nullable rule) .null .null
  /-- Any other value of a nullable type. -/
  | present {rule : Rule} {value : Json} {typed : TypedValue} (hv : value ≠ .null)
      (h : WellTyped rule value typed) : WellTyped (.nullable rule) value typed
  /-- A value of a union: its slots fit the codec, and what stands in a slot is of
  the member's rule. -/
  | union {id : TypeId} {codec : UnionCodec} {value : Json} {slots : UnionValue}
      (hu : plan.unions.get? id = some codec) (hfit : plan.SlotsFit codec value slots)
      (hs : ∀ typed, slots.string = some typed → ∀ rule, codec.string = some rule →
        WellTyped rule.rule value typed)
      (ha : ∀ items, slots.array = some items → ∀ rule, codec.array = some rule →
        WellTyped (.array rule) value (.array items))
      (ho : ∀ object, slots.object = some object → ∀ member, codec.classMember = some member →
        WellTyped (.classRef member) value (.object object))
      (hm : ∀ entries, slots.map = some entries → ∀ rule, codec.map = some rule →
        WellTyped (.map rule) value (.map entries)) : WellTyped (.unionRef id) value (.union slots)

variable {plan}

/-- A value is read as a well-typed value. -/
def ReadsWellTyped (plan : Converters) (rule : Rule) (value : Json) (typed : TypedValue) : Prop :=
  plan.Reads rule value typed ∧ plan.WellTyped rule value typed

/-- A text is parsed to a value of its interpretation. -/
theorem kind_of_parse {kind : TransformKind} {text : String} {parsed : Transformed}
    (h : kind.parse text = .ok parsed) : parsed.kind = kind := by
  have hf := (TransformKind.canonical_of_parse h).1
  cases kind <;> cases parsed <;> first | rfl | cases hf

/-- What was read from a text is well typed. -/
theorem wellTyped_of_textLayer {rule : StringRule} {text : String} {typed : TypedValue}
    (h : TextLayer rule text typed) : plan.WellTyped rule.rule (.string text) typed := by
  cases h with
  | plain => exact .string _ text
  | transformed hp => exact .transformed _ (kind_of_parse hp)

/-- An array is well typed if its elements are read so. -/
theorem wellTyped_array {rule : Rule} {items : List Json} {typed : List TypedValue}
    (h : List.Forall₂ (plan.ReadsWellTyped rule) items typed) :
    plan.WellTyped (.array rule) (.array items) (.array typed) := by
  refine .array h.length_eq.symm fun index part hpart item hitem => ?_
  obtain ⟨found, hfound, hread⟩ := getElem?_of_forall₂ h hpart
  cases hitem.symm.trans hfound
  exact hread.2

/-- A map is well typed if its values are read so. -/
theorem wellTyped_map {rule : Rule} {members : List (String × Json)}
    {entries : List (String × TypedValue)}
    (h : List.Forall₂ (fun member entry => entry.1 = member.1
      ∧ plan.ReadsWellTyped rule member.2 entry.2) members entries) :
    plan.WellTyped (.map rule) (.object members) (.map entries) := by
  have hkeys : members.map Prod.fst = entries.map Prod.fst :=
    map_eq_of_forall₂ h fun _ _ hentry => hentry.1.symm
  refine .map hkeys.symm fun index entry hentry member hmember => ?_
  obtain ⟨found, hfound, -, hread⟩ := getElem?_of_forall₂ h hentry
  cases hmember.symm.trans hfound
  exact hread.2

/-- An instance is well typed if its fields are read so. -/
theorem wellTyped_object (hn : plan.DistinctKeys) {id : TypeId} {value : Json}
    {object : TypedObject} (h : plan.ObjectLayer plan.ReadsWellTyped id value object) :
    plan.WellTyped (.classRef id) value (.object object) := by
  obtain ⟨hc, hf⟩ := h
  rename_i converter members entries
  have hfield : ∀ field ∈ converter.fields, plan.FieldLayer plan.ReadsWellTyped members field
      ((Instance.mk id entries).get? field.key) :=
    fun field hmem => fieldLayer_of_mem (hn id converter hc) hf hmem id
  refine .object rfl hc (keys_of_fieldLayers hf) (fun field hmem hnone => ?_)
    (fun field hmem hnullable hnull => ?_) (fun field hmem typed hsome => ?_)
    fun field hmem typed hsome value hg => ?_
  · have hread := hfield field hmem
    rw [hnone] at hread
    cases hread with
    | missing _ ho => exact Or.inl ho
    | dropped _ hd => exact (omitsNull_or_required hd).imp And.left And.right
  · have hread := hfield field hmem
    rw [hnull] at hread
    cases hread with
    | present _ hd hr =>
      have hdrops : plan.dropsNull field = true := by rw [dropsNull, hnullable, Bool.true_or]
      cases (hd (eq_null_of_reads_null hr.1)).symm.trans hdrops
  · have hread := hfield field hmem
    rw [hsome] at hread
    cases hread with
    | present hg => exact ⟨_, hg⟩
  · have hread := hfield field hmem
    rw [hsome] at hread
    cases hread with
    | present hg' _ hr =>
      cases hg.symm.trans hg'
      exact hr.2

/-- The one filled slot of a value other than null fits if it is that of a member. -/
theorem slotsFit_of_one {codec : UnionCodec} {value : Json} {slots : UnionValue} {kind : TypeKind}
    (hv : value ≠ .null) (hone : slots.filled = [kind]) (hkind : kind ∈ codec.memberKinds)
    (hmap : slots.map = none ∨ codec.classMember = none)
    (he : ∀ tag, slots.enumCase = some tag → plan.isCaseOf codec tag = true) :
    plan.SlotsFit codec value slots where
  none_iff := by simp [hone, hv]
  nullable h := absurd h hv
  one _ := ⟨kind, hkind, hone⟩
  map h := hmap.resolve_left (Option.isSome_iff_ne_none.mp h)
  enumCase tag h := isCaseOf_iff.mp (he tag h)

/-- The slots that a codec fills fit it. -/
theorem slotsFit_of_unionLayer {R : PartReading} {codec : UnionCodec} {value : Json}
    {slots : UnionValue} (h : plan.UnionLayer R codec value slots) :
    plan.SlotsFit codec value slots := by
  cases h with
  | null hn =>
    exact {
      none_iff := by simp [UnionSlots.filled, UnionSlots.null]
      nullable := fun _ => hn
      one := fun hv => absurd rfl hv
      map := fun h => by cases h
      enumCase := fun tag h => by cases h }
  | bool b hb =>
    exact slotsFit_of_one (by simp) rfl (by simp [UnionCodec.memberKinds, hb]) (Or.inl rfl)
      fun tag h => by cases h
  | integer hi =>
    exact slotsFit_of_one (by simp) rfl (by simp [UnionCodec.memberKinds, hi]) (Or.inl rfl)
      fun tag h => by cases h
  | double _ hd =>
    exact slotsFit_of_one (by simp) rfl (by simp [UnionCodec.memberKinds, hd]) (Or.inl rfl)
      fun tag h => by cases h
  | enumCase hc =>
    obtain ⟨id, converter, he, -⟩ := isCaseOf_iff.mp hc
    refine slotsFit_of_one (by simp) rfl (by simp [UnionCodec.memberKinds, he]) (Or.inl rfl) ?_
    rintro tag ⟨⟩
    exact hc
  | string _ _ hs =>
    exact slotsFit_of_one (by simp) rfl (by simp [UnionCodec.memberKinds, hs]) (Or.inl rfl)
      fun tag h => by cases h
  | array ha =>
    exact slotsFit_of_one (by simp) rfl (by simp [UnionCodec.memberKinds, ha]) (Or.inl rfl)
      fun tag h => by cases h
  | object hc =>
    exact slotsFit_of_one (by simp) rfl (by simp [UnionCodec.memberKinds, hc]) (Or.inl rfl)
      fun tag h => by cases h
  | map hc hm =>
    exact slotsFit_of_one (by simp) rfl (by simp [UnionCodec.memberKinds, hm]) (Or.inr hc)
      fun tag h => by cases h

/-- What a codec reads is well typed if its parts are read so. -/
theorem wellTyped_union (hn : plan.DistinctKeys) {id : TypeId} {codec : UnionCodec} {value : Json}
    {slots : UnionValue} (hu : plan.unions.get? id = some codec)
    (h : plan.UnionLayer plan.ReadsWellTyped codec value slots) :
    plan.WellTyped (.unionRef id) value (.union slots) := by
  refine .union hu (slotsFit_of_unionLayer h) ?_ ?_ ?_ ?_
  · rintro typed hslot rule hrule
    cases h with
    | string _ _ hs ht =>
      cases hslot
      cases hs.symm.trans hrule
      exact wellTyped_of_textLayer ht
    | _ => cases hslot
  · rintro items hslot rule hrule
    cases h with
    | array ha hr =>
      cases hslot
      cases ha.symm.trans hrule
      exact wellTyped_array hr
    | _ => cases hslot
  · rintro object hslot member hmember
    cases h with
    | object hc ho =>
      cases hslot
      cases hc.symm.trans hmember
      exact wellTyped_object hn ho
    | _ => cases hslot
  · rintro entries hslot rule hrule
    cases h with
    | map _ hm hr =>
      cases hslot
      cases hm.symm.trans hrule
      exact wellTyped_map hr
    | _ => cases hslot

/-- What is read is well typed. -/
theorem wellTyped_of_reads (hn : plan.DistinctKeys) {rule : Rule} {value : Json}
    {typed : TypedValue} (h : plan.Reads rule value typed) : plan.WellTyped rule value typed := by
  refine Reads.induct (fun rule value typed hlayer => ?_) h
  cases hlayer with
  | any => exact .any value value
  | null => exact .null _
  | bool b => exact .bool _ b
  | integer => exact .integer _ _
  | double n => exact .double _ n
  | string text => exact .string _ text
  | transformed hp => exact .transformed _ (kind_of_parse hp)
  | enumCase he hc => exact .enumCase _ he hc
  | object ho =>
    obtain ⟨members, rfl⟩ := ho.eq_object
    exact wellTyped_object hn ho
  | array hr => exact wellTyped_array hr
  | map hr => exact wellTyped_map hr
  | absent rule => exact .absent rule
  | present hv hr => exact .present hv hr.2
  | union hu hlayer => exact wellTyped_union hn hu hlayer

/-- Whatever dehydrating a document gives is well typed at every depth: its
instances have the declared keys of the classes that their places name, in
declared order, a field is absent only if it is optional or nullable, and union
values fill one slot of a member, or none for null. -/
theorem wellTyped_of_dehydrate {g : TypeGraph} {es : List TypeId} {r : UnionRouting}
    {plan : Converters} (h : build g es r = .ok plan) {id : TypeId} {value : Json}
    {typed : TypedObject} (hd : plan.dehydrate id value = .ok typed) :
    plan.WellTyped (.classRef id) value (.object typed) :=
  wellTyped_of_reads (distinctKeys_of_build h) (dehydrate_eq_ok.mp hd)

/-- A box with the text of an integer is well typed, its note absent. -/
theorem wellTyped_box :
    boxPlan.WellTyped (.classRef ⟨6⟩) (.object [("note", .null), ("v", .string "07")])
      (.object (boxOf 7)) := by
  have hbuild : build boxGraph [⟨6⟩] .codec = .ok boxPlan := rfl
  exact wellTyped_of_dehydrate hbuild rfl

end Converters

end Hydration
