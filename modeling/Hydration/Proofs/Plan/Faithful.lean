import Hydration.Proofs.Plan.Build
import Hydration.Typed.Dehydrate

/-!
# Faithful plans

What the interpreter of a plan finds there, in terms of the graph: the
converter of a class has a conversion for each declared field, the converter
of an enum has its cases, and a codec has a member of a kind exactly when its
union has one.
-/

namespace Hydration

namespace Plan

variable {graph : TypeGraph} {known : TypeId → Prop}

/-- The conversions of the fields have the declared keys. -/
theorem map_key_eq {entries : List (String × Field)} {fields : List FieldConverter}
    (h : List.Forall₂ (FieldOf graph known) entries fields) :
    fields.map FieldConverter.key = entries.map Prod.fst := by
  induction h with
  | nil => rfl
  | cons hf _ ih => rw [List.map_cons, List.map_cons, ih, hf.key]

namespace CodecOf

variable {id : TypeId} {members : List TypeId} {codec : UnionCodec}

/-- A kind that cannot be missing among the members is that of one of them. -/
theorem exists_member (h : CodecOf graph known id members codec) {kind : TypeKind}
    (hkind : kind ∉ graph.memberKinds members → False) :
    ∃ member ∈ members, graph.kind? member = some kind ∧ HasMember graph known codec member := by
  obtain ⟨member, hm, hk⟩ := List.mem_filterMap.mp (not_not.mp hkind)
  exact ⟨member, hm, hk, h.member member hm⟩

/-- A flag that members of one type set, and no others, says whether there is
such a member. -/
theorem flag_iff (h : CodecOf graph known id members codec) {flag : UnionCodec → Bool} {type : Ty}
    (hother : type.kind ∉ graph.memberKinds members → flag codec = false)
    (hmember : ∀ member, HasMember graph known codec member →
      graph.kind? member = some type.kind → graph.get? member = some type ∧ flag codec = true) :
    flag codec = true ↔ ∃ member ∈ members, graph.get? member = some type := by
  constructor
  · intro hs
    obtain ⟨member, hm, hkind, hhas⟩ := h.exists_member fun hk => by
      cases hs.symm.trans (hother hk)
    exact ⟨member, hm, (hmember member hhas hkind).1⟩
  · rintro ⟨member, hm, ht⟩
    exact (hmember member (h.member member hm) (TypeGraph.kind?_of_get? ht)).2

/-- A codec takes null exactly if null is a member. -/
theorem nullable_iff (h : CodecOf graph known id members codec) :
    codec.nullable = true ↔ ∃ member ∈ members, graph.get? member = some .null := by
  refine h.flag_iff h.others.nullable fun member hmember hkind => ?_
  cases hmember with
  | null ht hs => exact ⟨ht, hs⟩
  | _ ht => cases hkind.symm.trans (TypeGraph.kind?_of_get? ht)

theorem boolean_iff (h : CodecOf graph known id members codec) :
    codec.boolean = true ↔ ∃ member ∈ members, graph.get? member = some .bool := by
  refine h.flag_iff h.others.boolean fun member hmember hkind => ?_
  cases hmember with
  | bool ht hs => exact ⟨ht, hs⟩
  | _ ht => cases hkind.symm.trans (TypeGraph.kind?_of_get? ht)

theorem integer_iff (h : CodecOf graph known id members codec) :
    codec.integer = true ↔ ∃ member ∈ members, graph.get? member = some .integer := by
  refine h.flag_iff h.others.integer fun member hmember hkind => ?_
  cases hmember with
  | integer ht hs => exact ⟨ht, hs⟩
  | _ ht => cases hkind.symm.trans (TypeGraph.kind?_of_get? ht)

theorem double_iff (h : CodecOf graph known id members codec) :
    codec.double = true ↔ ∃ member ∈ members, graph.get? member = some .double := by
  refine h.flag_iff h.others.double fun member hmember hkind => ?_
  cases hmember with
  | double ht hs => exact ⟨ht, hs⟩
  | _ ht => cases hkind.symm.trans (TypeGraph.kind?_of_get? ht)

/-- The enum of a codec is the member that is one. -/
theorem enumeration_iff (h : CodecOf graph known id members codec) {member : TypeId} :
    codec.enumeration = some member
      ↔ member ∈ members ∧ ∃ shape, graph.get? member = some (.enumType shape) := by
  constructor
  · intro hs
    obtain ⟨other, hm, hkind, hmember⟩ := h.exists_member fun hk => by
      cases hs.symm.trans (h.others.enumeration hk)
    cases hmember with
    | enumeration ht _ hs' =>
      cases hs.symm.trans hs'
      exact ⟨hm, _, ht⟩
    | _ ht => cases hkind.symm.trans (TypeGraph.kind?_of_get? ht)
  · rintro ⟨hm, shape, ht⟩
    cases h.member member hm with
    | enumeration _ _ hs => exact hs
    | _ ht' => cases ht.symm.trans ht'

/-- The class of a codec is the member that is one. -/
theorem classMember_iff (h : CodecOf graph known id members codec) {member : TypeId} :
    codec.classMember = some member
      ↔ member ∈ members ∧ ∃ shape, graph.get? member = some (.classType shape) := by
  constructor
  · intro hs
    obtain ⟨other, hm, hkind, hmember⟩ := h.exists_member fun hk => by
      cases hs.symm.trans (h.others.classMember hk)
    cases hmember with
    | classMember ht _ hs' =>
      cases hs.symm.trans hs'
      exact ⟨hm, _, ht⟩
    | _ ht => cases hkind.symm.trans (TypeGraph.kind?_of_get? ht)
  · rintro ⟨hm, shape, ht⟩
    cases h.member member hm with
    | classMember _ _ hs => exact hs
    | _ ht' => cases ht.symm.trans ht'

/-- The string member is plain if the union has plain strings. -/
theorem plain_iff (h : CodecOf graph known id members codec) :
    codec.string = some .plain ↔ ∃ member ∈ members, graph.get? member = some .string := by
  constructor
  · intro hs
    obtain ⟨member, hm, hkind, hmember⟩ := h.exists_member fun hk => by
      cases hs.symm.trans (h.others.string hk)
    cases hmember with
    | string ht => exact ⟨member, hm, ht⟩
    | transformed _ hs' => cases hs.symm.trans hs'
    | _ ht => cases hkind.symm.trans (TypeGraph.kind?_of_get? ht)
  · rintro ⟨member, hm, ht⟩
    cases h.member member hm with
    | string _ hs => exact hs
    | _ ht' => cases ht.symm.trans ht'

/-- The string member has the interpretation of the union's. -/
theorem transformed_iff (h : CodecOf graph known id members codec) {kind : TransformKind} :
    codec.string = some (.transformed kind)
      ↔ ∃ member ∈ members, graph.get? member = some (.transformed (.known kind)) := by
  constructor
  · intro hs
    obtain ⟨member, hm, hkind, hmember⟩ := h.exists_member fun hk => by
      cases hs.symm.trans (h.others.string hk)
    cases hmember with
    | string _ hs' => cases hs.symm.trans hs'
    | transformed ht hs' =>
      cases hs.symm.trans hs'
      exact ⟨member, hm, ht⟩
    | _ ht => cases hkind.symm.trans (TypeGraph.kind?_of_get? ht)
  · rintro ⟨member, hm, ht⟩
    cases h.member member hm with
    | transformed ht' hs =>
      cases ht.symm.trans ht'
      exact hs
    | _ ht' => cases ht.symm.trans ht'

/-- The array member follows the rule of the elements of the union's. -/
theorem array_member (h : CodecOf graph known id members codec) {rule : Rule}
    (hs : codec.array = some rule) :
    ∃ member ∈ members, ∃ items, graph.get? member = some (.array items)
      ∧ RuleOf graph known items rule := by
  obtain ⟨member, hm, hkind, hmember⟩ := h.exists_member fun hk => by
    cases hs.symm.trans (h.others.array hk)
  cases hmember with
  | array ht hr hs' =>
    cases hs.symm.trans hs'
    exact ⟨member, hm, _, ht, hr⟩
  | _ ht => cases hkind.symm.trans (TypeGraph.kind?_of_get? ht)

/-- The map member follows the rule of the values of the union's. -/
theorem map_member (h : CodecOf graph known id members codec) {rule : Rule}
    (hs : codec.map = some rule) :
    ∃ member ∈ members, ∃ values, graph.get? member = some (.map values)
      ∧ RuleOf graph known values rule := by
  obtain ⟨member, hm, hkind, hmember⟩ := h.exists_member fun hk => by
    cases hs.symm.trans (h.others.map hk)
  cases hmember with
  | map ht hr hs' =>
    cases hs.symm.trans hs'
    exact ⟨member, hm, _, ht, hr⟩
  | _ ht => cases hkind.symm.trans (TypeGraph.kind?_of_get? ht)

/-- The class member and the enum member are known. -/
theorem known_of_member (h : CodecOf graph known id members codec) {member : TypeId}
    (hm : codec.classMember = some member ∨ codec.enumeration = some member) : known member := by
  rcases hm with hm | hm
  · obtain ⟨hmem, shape, ht⟩ := h.classMember_iff.mp hm
    cases h.member member hmem with
    | classMember _ hk => exact hk
    | _ ht' => cases ht.symm.trans ht'
  · obtain ⟨hmem, shape, ht⟩ := h.enumeration_iff.mp hm
    cases h.member member hmem with
    | enumeration _ hk => exact hk
    | _ ht' => cases ht.symm.trans ht'

end CodecOf

namespace RuleOf

variable {id : TypeId}

/-- The rule of elements is that of a type. -/
theorem array_items {rule : Rule} (h : RuleOf graph known id (.array rule)) :
    ∃ items, RuleOf graph known items rule := by
  generalize hr : Rule.array rule = outer at h
  induction h with
  | array _ hi =>
    cases hr
    exact ⟨_, hi⟩
  | single _ _ _ ih => exact ih hr
  | _ => cases hr

/-- The rule of values is that of a type. -/
theorem map_values {rule : Rule} (h : RuleOf graph known id (.map rule)) :
    ∃ values, RuleOf graph known values rule := by
  generalize hr : Rule.map rule = outer at h
  induction h with
  | map _ hv =>
    cases hr
    exact ⟨_, hv⟩
  | single _ _ _ ih => exact ih hr
  | _ => cases hr

/-- The rule made nullable is that of a type which is neither null nor a union. -/
theorem nullable_inner {rule : Rule} (h : RuleOf graph known id (.nullable rule)) :
    ∃ member, RuleOf graph known member rule ∧ graph.get? member ≠ some .null
      ∧ ∀ inner, graph.get? member ≠ some (.union inner) := by
  generalize hr : Rule.nullable rule = outer at h
  induction h with
  | nullable h hs hm =>
    cases hr
    obtain ⟨-, hnull, hunion⟩ := TypeGraph.member_of_unionShape h (Or.inr hs)
    exact ⟨_, hm, hnull, hunion⟩
  | single _ _ _ ih => exact ih hr
  | _ => cases hr

/-- Null is read under a nullable rule by the rule itself alone, unless the
inner rule copies every value. -/
theorem not_acceptsNull {plan : Converters} {rule : Rule} (h : RuleOf graph known id rule)
    (hnull : graph.get? id ≠ some .null) (hunion : ∀ inner, graph.get? id ≠ some (.union inner))
    (hany : rule ≠ .copy .any) : plan.acceptsNull rule = false := by
  cases h with
  | any => exact absurd rfl hany
  | null h => exact absurd h hnull
  | nullOnly h => exact absurd h (hunion _)
  | single h => exact absurd h (hunion _)
  | nullable h => exact absurd h (hunion _)
  | unionRef h => exact absurd h (hunion _)
  | _ => rfl

variable {members : OrderedSet TypeId} {rule : Rule}

/-- The rule of a union of null alone is that of null. -/
theorem eq_null (h : RuleOf graph known id rule) (ht : graph.get? id = some (.union members))
    (hs : graph.unionShape members = .nullOnly) : rule = .copy .null := by
  have hrule := h.inv ht
  dsimp only at hrule
  rw [hs] at hrule
  exact hrule

/-- The rule of a union with one member is that of the member. -/
theorem single_member (h : RuleOf graph known id rule)
    (ht : graph.get? id = some (.union members)) {member : TypeId}
    (hs : graph.unionShape members = .single member) : RuleOf graph known member rule := by
  have hrule := h.inv ht
  dsimp only at hrule
  rw [hs] at hrule
  exact hrule

/-- The rule of a union of null and one member makes that of the member nullable. -/
theorem nullable_member (h : RuleOf graph known id rule)
    (ht : graph.get? id = some (.union members)) {member : TypeId}
    (hs : graph.unionShape members = .nullable member) :
    ∃ inner, rule = .nullable inner ∧ RuleOf graph known member inner := by
  have hrule := h.inv ht
  dsimp only at hrule
  rw [hs] at hrule
  exact hrule

/-- The rule of a union of several members refers to its codec. -/
theorem eq_unionRef (h : RuleOf graph known id rule)
    (ht : graph.get? id = some (.union members)) {nullable : Bool}
    (hs : graph.unionShape members = .multi nullable) : rule = .unionRef id ∧ known id := by
  have hrule := h.inv ht
  dsimp only at hrule
  rw [hs] at hrule
  exact hrule

end RuleOf

end Plan

namespace Plan.FaithfulBy

variable {graph : TypeGraph} {known : TypeId → Prop} {plan : Converters} {id : TypeId}

/-- A recorded type has the converter of a class, an enum or a union. -/
theorem converter_of (h : FaithfulBy graph known plan) (hk : plan.Records id) :
    (∃ converter, plan.classes.get? id = some converter ∧ ClassOf graph known id converter)
      ∨ (∃ converter, plan.enums.get? id = some converter ∧ EnumOf graph id converter)
      ∨ ∃ codec, plan.unions.get? id = some codec ∧ UnionOf graph known id codec := by
  rcases hk with hk | hk | hk
  · obtain ⟨converter, hc⟩ := OrderedMap.mem_keys_iff.mp hk
    exact Or.inl ⟨converter, hc, h.classes id converter hc⟩
  · obtain ⟨converter, hc⟩ := OrderedMap.mem_keys_iff.mp hk
    exact Or.inr (Or.inl ⟨converter, hc, h.enums id converter hc⟩)
  · obtain ⟨codec, hc⟩ := OrderedMap.mem_keys_iff.mp hk
    exact Or.inr (Or.inr ⟨codec, hc, h.unions id codec hc⟩)

/-- A recorded class has a conversion for each declared field. -/
theorem class_of (h : FaithfulBy graph known plan) {shape : ClassType}
    (ht : graph.get? id = some (.classType shape)) (hk : plan.Records id) :
    ∃ fields, plan.classes.get? id = some ⟨id, shape.name, fields⟩
      ∧ List.Forall₂ (FieldOf graph known) shape.fields.entries fields := by
  rcases h.converter_of hk with ⟨_, hc, ht', hf⟩ | ⟨_, _, ⟨ht'⟩⟩ | ⟨_, _, ⟨ht'⟩⟩
  · cases ht.symm.trans ht'
    exact ⟨_, hc, hf⟩
  · cases ht.symm.trans ht'
  · cases ht.symm.trans ht'

/-- A recorded enum has its declared cases. -/
theorem enum_of (h : FaithfulBy graph known plan) {shape : EnumType}
    (ht : graph.get? id = some (.enumType shape)) (hk : plan.Records id) :
    plan.enums.get? id = some ⟨id, shape.name, shape.cases⟩ := by
  rcases h.converter_of hk with ⟨_, _, ⟨ht'⟩⟩ | ⟨_, hc, ⟨ht'⟩⟩ | ⟨_, _, ⟨ht'⟩⟩
  · cases ht.symm.trans ht'
  · cases ht.symm.trans ht'
    exact hc
  · cases ht.symm.trans ht'

/-- A recorded union has the codec of its members. -/
theorem union_of (h : FaithfulBy graph known plan) {members : OrderedSet TypeId}
    (ht : graph.get? id = some (.union members)) (hk : plan.Records id) :
    ∃ codec, plan.unions.get? id = some codec
      ∧ CodecOf graph known id members.toList codec := by
  rcases h.converter_of hk with ⟨_, _, ⟨ht'⟩⟩ | ⟨_, _, ⟨ht'⟩⟩ | ⟨codec, hc, ht', _, hcodec⟩
  · cases ht.symm.trans ht'
  · cases ht.symm.trans ht'
  · cases ht.symm.trans ht'
    exact ⟨codec, hc, hcodec⟩

end Plan.FaithfulBy

namespace Converters.Faithful

open Plan (RuleOf FieldOf)

variable {graph : TypeGraph} {plan : Converters} {id : TypeId}

/-- The enum member of a codec has a converter. -/
theorem exists_enumeration (h : plan.Faithful graph) {codec : UnionCodec}
    (hu : plan.unions.get? id = some codec) (member : TypeId)
    (hm : codec.enumeration = some member) :
    ∃ converter, plan.enums.get? member = some converter := by
  obtain ⟨-, -, hcodec⟩ := h.unions id codec hu
  obtain ⟨-, shape, ht⟩ := hcodec.enumeration_iff.mp hm
  exact ⟨_, h.enum_of ht (hcodec.known_of_member (Or.inr hm))⟩

/-- The keys of a class are distinct. -/
theorem nodup_keys (h : plan.Faithful graph) {converter : ClassConverter}
    (hc : plan.classes.get? id = some converter) :
    (converter.fields.map FieldConverter.key).Nodup := by
  obtain ⟨-, hf⟩ := h.classes id converter hc
  rw [Plan.map_key_eq hf]
  exact OrderedMap.nodup _

/-- The rule of a field is that of a type. -/
theorem rule_of_field (h : plan.Faithful graph) {converter : ClassConverter}
    (hc : plan.classes.get? id = some converter) {field : FieldConverter}
    (hf : field ∈ converter.fields) : ∃ type, RuleOf graph plan.Records type field.rule := by
  obtain ⟨-, hfields⟩ := h.classes id converter hc
  obtain ⟨entry, -, hfield⟩ := exists_of_forall₂_right hfields hf
  exact ⟨entry.2.type, hfield.rule⟩

/-- The declaration of a field says how it is converted. -/
theorem exists_conversion (h : plan.Faithful graph) {shape : ClassType}
    (ht : graph.get? id = some (.classType shape)) {key : String} {field : Field}
    (hf : shape.fields.get? key = some field) {converter : ClassConverter}
    (hc : plan.classes.get? id = some converter) :
    converter.name = shape.name
      ∧ ∃ conversion ∈ converter.fields, conversion.key = key
        ∧ conversion.optional = field.optional
        ∧ RuleOf graph plan.Records field.type conversion.rule := by
  obtain ⟨ht', hfields⟩ := h.classes id converter hc
  cases ht.symm.trans ht'
  obtain ⟨conversion, hm, hof⟩ :=
    exists_of_forall₂_left hfields (OrderedMap.mem_entries_iff.mpr hf)
  exact ⟨rfl, conversion, hm, hof.key, hof.optional, hof.rule⟩

end Converters.Faithful

end Hydration
