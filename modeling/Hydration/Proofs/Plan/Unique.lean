import Hydration.Proofs.Plan.Faithful

/-!
# One converter for each type

The converter of a type is determined by the declarations of the graph. What a
plan knows does not matter for it, so two plans never disagree about a type.
-/

namespace Hydration

namespace Plan

variable {graph : TypeGraph} {known known' : TypeId → Prop} {id : TypeId}

/-- A type has one rule. -/
theorem RuleOf.unique {rule rule' : Rule} (h : RuleOf graph known id rule)
    (h' : RuleOf graph known' id rule') : rule = rule' := by
  induction h generalizing rule' with
  | any ht | null ht | bool ht | integer ht | double ht | string ht => exact (h'.inv ht).symm
  | transformed ht =>
    obtain ⟨_, hkind, rfl⟩ := h'.inv ht
    cases hkind
    rfl
  | array ht _ ih | map ht _ ih =>
    obtain ⟨inner, rfl, hinner⟩ := h'.inv ht
    rw [ih hinner]
  | classRef ht | enumRef ht => exact (h'.inv ht).1.symm
  | nullOnly ht hs => exact (h'.eq_null ht hs).symm
  | single ht hs _ ih => exact ih (h'.single_member ht hs)
  | nullable ht hs _ ih =>
    obtain ⟨inner, rfl, hinner⟩ := h'.nullable_member ht hs
    rw [ih hinner]
  | unionRef ht hs => exact (h'.eq_unionRef ht hs).1.symm

/-- Declared fields have one list of conversions. -/
theorem fields_unique {entries : List (String × Field)} {fields fields' : List FieldConverter}
    (h : List.Forall₂ (FieldOf graph known) entries fields)
    (h' : List.Forall₂ (FieldOf graph known') entries fields') : fields = fields' := by
  induction h generalizing fields' with
  | nil =>
    cases h'
    rfl
  | @cons entry field rest others hfield _ ih =>
    cases h' with
    | @cons _ field' _ others' hfield' hothers =>
      have hhead : field = field' := by
        obtain ⟨key, optional, rule⟩ := field
        obtain ⟨key', optional', rule'⟩ := field'
        have hkey : key = key' := hfield.key.trans hfield'.key.symm
        have hoptional : optional = optional' := hfield.optional.trans hfield'.optional.symm
        have hrule : rule = rule' := hfield.rule.unique hfield'.rule
        rw [hkey, hoptional, hrule]
      rw [hhead, ih hothers]

/-- A class has one converter. -/
theorem ClassOf.unique {converter converter' : ClassConverter}
    (h : ClassOf graph known id converter) (h' : ClassOf graph known' id converter') :
    converter = converter' := by
  obtain ⟨ht, hf⟩ := h
  obtain ⟨ht', hf'⟩ := h'
  cases ht.symm.trans ht'
  rw [fields_unique hf hf']

/-- An enum has one converter. -/
theorem EnumOf.unique {converter converter' : EnumConverter} (h : EnumOf graph id converter)
    (h' : EnumOf graph id converter') : converter = converter' := by
  obtain ⟨ht⟩ := h
  obtain ⟨ht'⟩ := h'
  cases ht.symm.trans ht'
  rfl

namespace CodecOf

variable {members : List TypeId} {codec codec' : UnionCodec}

/-- What the string member of one codec is, it is in another one. -/
theorem string_of (h : CodecOf graph known id members codec)
    (h' : CodecOf graph known' id members codec') {rule : StringRule}
    (hs : codec.string = some rule) : codec'.string = some rule := by
  cases rule with
  | plain => exact h'.plain_iff.mpr (h.plain_iff.mp hs)
  | transformed kind => exact h'.transformed_iff.mpr (h.transformed_iff.mp hs)

/-- Every codec of the members has the same rule for arrays. -/
theorem array_of (h : CodecOf graph known id members codec)
    (h' : CodecOf graph known' id members codec') {rule : Rule}
    (hs : codec.array = some rule) : codec'.array = some rule := by
  obtain ⟨member, hm, items, ht, hrule⟩ := h.array_member hs
  cases h'.member member hm with
  | array ht' hrule' hs' =>
    cases ht.symm.trans ht'
    rw [hs', hrule.unique hrule']
  | _ ht' => cases ht.symm.trans ht'

/-- Every codec of the members has the same rule for maps. -/
theorem map_of (h : CodecOf graph known id members codec)
    (h' : CodecOf graph known' id members codec') {rule : Rule}
    (hs : codec.map = some rule) : codec'.map = some rule := by
  obtain ⟨member, hm, values, ht, hrule⟩ := h.map_member hs
  cases h'.member member hm with
  | map ht' hrule' hs' =>
    cases ht.symm.trans ht'
    rw [hs', hrule.unique hrule']
  | _ ht' => cases ht.symm.trans ht'

/-- The members of a union have one codec. -/
theorem unique (h : CodecOf graph known id members codec)
    (h' : CodecOf graph known' id members codec') : codec = codec' := by
  have hid : codec.id = codec'.id := h.others.id.trans h'.others.id.symm
  have hnullable : codec.nullable = codec'.nullable :=
    Bool.eq_iff_iff.mpr (h.nullable_iff.trans h'.nullable_iff.symm)
  have hboolean : codec.boolean = codec'.boolean :=
    Bool.eq_iff_iff.mpr (h.boolean_iff.trans h'.boolean_iff.symm)
  have hinteger : codec.integer = codec'.integer :=
    Bool.eq_iff_iff.mpr (h.integer_iff.trans h'.integer_iff.symm)
  have hdouble : codec.double = codec'.double :=
    Bool.eq_iff_iff.mpr (h.double_iff.trans h'.double_iff.symm)
  have hstring : codec.string = codec'.string :=
    Option.ext fun _ => ⟨h.string_of h', h'.string_of h⟩
  have henumeration : codec.enumeration = codec'.enumeration :=
    Option.ext fun _ => h.enumeration_iff.trans h'.enumeration_iff.symm
  have hclass : codec.classMember = codec'.classMember :=
    Option.ext fun _ => h.classMember_iff.trans h'.classMember_iff.symm
  have hmap : codec.map = codec'.map := Option.ext fun _ => ⟨h.map_of h', h'.map_of h⟩
  have harray : codec.array = codec'.array := Option.ext fun _ => ⟨h.array_of h', h'.array_of h⟩
  cases codec
  cases codec'
  simp only [UnionCodec.mk.injEq]
  exact ⟨hid, hnullable, hboolean, hinteger, hdouble, hstring, henumeration, hclass, hmap, harray⟩

end CodecOf

/-- A union has one codec. -/
theorem UnionOf.unique {codec codec' : UnionCodec} (h : UnionOf graph known id codec)
    (h' : UnionOf graph known' id codec') : codec = codec' := by
  obtain ⟨ht, -, hc⟩ := h
  obtain ⟨ht', -, hc'⟩ := h'
  cases ht.symm.trans ht'
  exact hc.unique hc'

/-- A member of a codec has a rule. -/
theorem HasMember.exists_rule {codec : UnionCodec} {member : TypeId}
    (h : HasMember graph known codec member) : ∃ rule, RuleOf graph known member rule := by
  cases h with
  | null ht _ => exact ⟨_, .null ht⟩
  | bool ht _ => exact ⟨_, .bool ht⟩
  | integer ht _ => exact ⟨_, .integer ht⟩
  | double ht _ => exact ⟨_, .double ht⟩
  | string ht _ => exact ⟨_, .string ht⟩
  | transformed ht _ => exact ⟨_, .transformed ht⟩
  | array ht hrule _ => exact ⟨_, .array ht hrule⟩
  | map ht hrule _ => exact ⟨_, .map ht hrule⟩
  | classMember ht hk _ => exact ⟨_, .classRef ht hk⟩
  | enumeration ht hk _ => exact ⟨_, .enumRef ht hk⟩

end Plan

end Hydration
