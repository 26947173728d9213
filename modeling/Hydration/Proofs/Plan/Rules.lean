import Hydration.Plan.Basic
import Hydration.Proofs.TypeGraph.Sound

/-!
# Rules of a graph

What a plan has to hold for the types of a graph, read from the graph alone.
`RuleOf` relates a type to its rule, `ClassOf`, `EnumOf` and `UnionOf` a type
to its converter. The classes, enums and unions that rules may refer to are a
parameter, since a plan under construction refers to converters that are not
complete.
-/

namespace Hydration

namespace TypeGraph

variable (graph : TypeGraph)

/-- The kind of a type. -/
def kind? (id : TypeId) : Option TypeKind := (graph.get? id).map Ty.kind

/-- The kinds of the members of a union. -/
def memberKinds (members : List TypeId) : List TypeKind := members.filterMap graph.kind?

variable {graph}

/-- The kind of an id is that of its type. -/
theorem kind?_of_get? {id : TypeId} {type : Ty} (h : graph.get? id = some type) :
    graph.kind? id = some type.kind := by
  rw [kind?, h, Option.map_some]

/-- A fault is looked for in every type. -/
theorem typeFault?_of_get? {id : TypeId} {type : Ty} (h : graph.get? id = some type) :
    typeFault? graph.types type = none :=
  typeFault?_eq_none_iff.mpr ((fault?_eq_none_iff.mp graph.sound).types id type h)

variable {id : TypeId} {members : OrderedSet TypeId}

/-- The members of a union are types of distinct kinds, none of them a union. -/
theorem members_of_union (h : graph.get? id = some (.union members)) :
    (∀ member ∈ members.toList, ∃ type, graph.get? member = some type ∧ type.kind ≠ .union)
    ∧ members.toList.Pairwise fun a b => graph.kind? a ≠ graph.kind? b := by
  have hfault := typeFault?_of_get? h
  unfold typeFault? at hfault
  dsimp only at hfault
  split at hfault
  · cases hfault
  · obtain ⟨hm, hapart⟩ := memberFault?_eq_none_iff.mp hfault
    refine ⟨fun member hmem => ?_, hapart⟩
    obtain ⟨type, htype, hunion, -⟩ := hm member hmem
    exact ⟨type, htype, hunion⟩

/-- The members other than null. -/
theorem mem_filter_isNullType {member : TypeId} :
    member ∈ members.toList.filter (fun m => !graph.isNullType m)
      ↔ member ∈ members.toList ∧ graph.get? member ≠ some .null := by
  rw [List.mem_filter]
  refine and_congr_right fun _ => ?_
  simp [isNullType]

/-- The member that a union stands for or makes nullable is one of its members
and neither null nor a union. -/
theorem member_of_unionShape {member : TypeId} (h : graph.get? id = some (.union members))
    (hs : graph.unionShape members = .single member
      ∨ graph.unionShape members = .nullable member) :
    member ∈ members.toList ∧ graph.get? member ≠ some .null
      ∧ ∀ inner, graph.get? member ≠ some (.union inner) := by
  have hmem : member ∈ members.toList.filter fun m => !graph.isNullType m := by
    unfold unionShape at hs
    dsimp only at hs
    split at hs
    · rcases hs with hs | hs <;> cases hs
    · rename_i only honly
      rw [honly]
      split at hs
      · rcases hs with hs | hs
        · cases hs
        · cases hs
          exact List.mem_singleton_self _
      · rcases hs with hs | hs
        · cases hs
          exact List.mem_singleton_self _
        · cases hs
    · rcases hs with hs | hs <;> cases hs
  obtain ⟨hm, hnull⟩ := mem_filter_isNullType.mp hmem
  refine ⟨hm, hnull, fun inner hinner => ?_⟩
  obtain ⟨type, htype, hunion⟩ := (members_of_union h).1 member hm
  rw [hinner] at htype
  cases htype
  exact hunion rfl

end TypeGraph

namespace Plan

variable (graph : TypeGraph) (known : TypeId → Prop)

/-- The rule of a type. -/
inductive RuleOf : TypeId → Rule → Prop where
  /-- Every value is copied. -/
  | any {id : TypeId} (h : graph.get? id = some .any) : RuleOf id (.copy .any)
  /-- Null is copied. -/
  | null {id : TypeId} (h : graph.get? id = some .null) : RuleOf id (.copy .null)
  /-- Truth values are copied. -/
  | bool {id : TypeId} (h : graph.get? id = some .bool) : RuleOf id (.copy .bool)
  /-- Integers are copied. -/
  | integer {id : TypeId} (h : graph.get? id = some .integer) : RuleOf id (.copy .integer)
  /-- Numbers are copied. -/
  | double {id : TypeId} (h : graph.get? id = some .double) : RuleOf id (.copy .double)
  /-- Strings are copied. -/
  | string {id : TypeId} (h : graph.get? id = some .string) : RuleOf id (.copy .string)
  /-- A string under a supported interpretation is parsed and formatted. -/
  | transformed {id : TypeId} {kind : TransformKind}
      (h : graph.get? id = some (.transformed (.known kind))) : RuleOf id (.transformed kind)
  /-- An array follows the rule of its elements. -/
  | array {id items : TypeId} {rule : Rule} (h : graph.get? id = some (.array items))
      (hi : RuleOf items rule) : RuleOf id (.array rule)
  /-- A map follows the rule of its values. -/
  | map {id values : TypeId} {rule : Rule} (h : graph.get? id = some (.map values))
      (hv : RuleOf values rule) : RuleOf id (.map rule)
  /-- A class is referred to. -/
  | classRef {id : TypeId} {shape : ClassType} (h : graph.get? id = some (.classType shape))
      (hk : known id) : RuleOf id (.classRef id)
  /-- An enum is referred to. -/
  | enumRef {id : TypeId} {shape : EnumType} (h : graph.get? id = some (.enumType shape))
      (hk : known id) : RuleOf id (.enumRef id)
  /-- A union of null alone is null. -/
  | nullOnly {id : TypeId} {members : OrderedSet TypeId}
      (h : graph.get? id = some (.union members))
      (hs : graph.unionShape members = .nullOnly) : RuleOf id (.copy .null)
  /-- A union of one member follows the rule of that member. -/
  | single {id member : TypeId} {members : OrderedSet TypeId} {rule : Rule}
      (h : graph.get? id = some (.union members))
      (hs : graph.unionShape members = .single member) (hm : RuleOf member rule) :
      RuleOf id rule
  /-- A union of null and one member makes the rule of that member nullable. -/
  | nullable {id member : TypeId} {members : OrderedSet TypeId} {rule : Rule}
      (h : graph.get? id = some (.union members))
      (hs : graph.unionShape members = .nullable member) (hm : RuleOf member rule) :
      RuleOf id (.nullable rule)
  /-- A union of several members is referred to. -/
  | unionRef {id : TypeId} {members : OrderedSet TypeId} {nullable : Bool}
      (h : graph.get? id = some (.union members))
      (hs : graph.unionShape members = .multi nullable) (hk : known id) :
      RuleOf id (.unionRef id)

/-- The conversion of a field, read from its declaration. -/
structure FieldOf (entry : String × Field) (field : FieldConverter) : Prop where
  /-- The key is that of the declaration. -/
  key : field.key = entry.1
  /-- The field is optional if it is declared so. -/
  optional : field.optional = entry.2.optional
  /-- The rule is that of the declared type. -/
  rule : RuleOf graph known entry.2.type field.rule

/-- The converter of a class, read from its declaration. -/
inductive ClassOf : TypeId → ClassConverter → Prop where
  /-- One conversion for each field, in declared order. -/
  | intro {id : TypeId} {shape : ClassType} {fields : List FieldConverter}
      (h : graph.get? id = some (.classType shape))
      (hf : List.Forall₂ (FieldOf graph known) shape.fields.entries fields) :
      ClassOf id ⟨id, shape.name, fields⟩

/-- The converter of an enum, read from its declaration. -/
inductive EnumOf : TypeId → EnumConverter → Prop where
  /-- The cases are those declared. -/
  | intro {id : TypeId} {shape : EnumType} (h : graph.get? id = some (.enumType shape)) :
      EnumOf id ⟨id, shape.name, shape.cases⟩

/-- A type is a member of a codec. -/
inductive HasMember (codec : UnionCodec) (member : TypeId) : Prop where
  /-- Null. -/
  | null (h : graph.get? member = some .null) (hs : codec.nullable = true)
  /-- Truth values. -/
  | bool (h : graph.get? member = some .bool) (hs : codec.boolean = true)
  /-- Integers. -/
  | integer (h : graph.get? member = some .integer) (hs : codec.integer = true)
  /-- Numbers. -/
  | double (h : graph.get? member = some .double) (hs : codec.double = true)
  /-- Strings. -/
  | string (h : graph.get? member = some .string) (hs : codec.string = some .plain)
  /-- Strings under an interpretation. -/
  | transformed {kind : TransformKind}
      (h : graph.get? member = some (.transformed (.known kind)))
      (hs : codec.string = some (.transformed kind))
  /-- Arrays. -/
  | array {items : TypeId} {rule : Rule} (h : graph.get? member = some (.array items))
      (hr : RuleOf graph known items rule) (hs : codec.array = some rule)
  /-- Maps. -/
  | map {values : TypeId} {rule : Rule} (h : graph.get? member = some (.map values))
      (hr : RuleOf graph known values rule) (hs : codec.map = some rule)
  /-- A class. -/
  | classMember {shape : ClassType} (h : graph.get? member = some (.classType shape))
      (hk : known member) (hs : codec.classMember = some member)
  /-- An enum. -/
  | enumeration {shape : EnumType} (h : graph.get? member = some (.enumType shape))
      (hk : known member) (hs : codec.enumeration = some member)

/-- Two codecs of one union have the same members but for those of certain kinds. -/
structure AgreeBeyond (kinds : List TypeKind) (codec codec' : UnionCodec) : Prop where
  /-- The union is the same. -/
  id : codec'.id = codec.id
  /-- Null is a member of both or of none. -/
  nullable : .null ∉ kinds → codec'.nullable = codec.nullable
  /-- Truth values are a member of both or of none. -/
  boolean : .bool ∉ kinds → codec'.boolean = codec.boolean
  /-- Integers are a member of both or of none. -/
  integer : .integer ∉ kinds → codec'.integer = codec.integer
  /-- Numbers are a member of both or of none. -/
  double : .double ∉ kinds → codec'.double = codec.double
  /-- The string members agree. -/
  string : .string ∉ kinds → codec'.string = codec.string
  /-- The array members agree. -/
  array : .array ∉ kinds → codec'.array = codec.array
  /-- The map members agree. -/
  map : .map ∉ kinds → codec'.map = codec.map
  /-- The class members agree. -/
  classMember : .classKind ∉ kinds → codec'.classMember = codec.classMember
  /-- The enum members agree. -/
  enumeration : .enumKind ∉ kinds → codec'.enumeration = codec.enumeration

/-- The codec of a union, read from its members. -/
structure CodecOf (id : TypeId) (members : List TypeId) (codec : UnionCodec) : Prop where
  /-- Every member is one of the codec. -/
  member : ∀ member ∈ members, HasMember graph known codec member
  /-- The codec has no others. -/
  others : AgreeBeyond (graph.memberKinds members) (UnionCodec.blank id) codec

/-- The codec of a union, read from its declaration. -/
inductive UnionOf : TypeId → UnionCodec → Prop where
  /-- The union has several members other than null. -/
  | intro {id : TypeId} {members : OrderedSet TypeId} {nullable : Bool} {codec : UnionCodec}
      (h : graph.get? id = some (.union members))
      (hs : graph.unionShape members = .multi nullable)
      (hc : CodecOf graph known id members.toList codec) : UnionOf id codec

/-- The converters are those of the graph. -/
structure FaithfulBy (plan : Converters) : Prop where
  /-- The converters of classes are. -/
  classes : ∀ id converter, plan.classes.get? id = some converter →
    ClassOf graph known id converter
  /-- The converters of enums are. -/
  enums : ∀ id converter, plan.enums.get? id = some converter → EnumOf graph id converter
  /-- The codecs of unions are. -/
  unions : ∀ id codec, plan.unions.get? id = some codec → UnionOf graph known id codec

variable {graph} {known} {known' : TypeId → Prop}

/-- More references may be known. -/
theorem RuleOf.mono (hk : ∀ id, known id → known' id) {id : TypeId} {rule : Rule}
    (h : RuleOf graph known id rule) : RuleOf graph known' id rule := by
  induction h with
  | any h => exact .any h
  | null h => exact .null h
  | bool h => exact .bool h
  | integer h => exact .integer h
  | double h => exact .double h
  | string h => exact .string h
  | transformed h => exact .transformed h
  | array h _ ih => exact .array h ih
  | map h _ ih => exact .map h ih
  | classRef h hknown => exact .classRef h (hk _ hknown)
  | enumRef h hknown => exact .enumRef h (hk _ hknown)
  | nullOnly h hs => exact .nullOnly h hs
  | single h hs _ ih => exact .single h hs ih
  | nullable h hs _ ih => exact .nullable h hs ih
  | unionRef h hs hknown => exact .unionRef h hs (hk _ hknown)

/-- The rule of a type is the one that its declaration asks for. -/
theorem RuleOf.inv {id : TypeId} {type : Ty} {rule : Rule} (h : RuleOf graph known id rule)
    (ht : graph.get? id = some type) :
    match type with
    | .any => rule = .copy .any
    | .null => rule = .copy .null
    | .bool => rule = .copy .bool
    | .integer => rule = .copy .integer
    | .double => rule = .copy .double
    | .string => rule = .copy .string
    | .transformed kind => ∃ supported, kind = .known supported ∧ rule = .transformed supported
    | .array items => ∃ inner, rule = .array inner ∧ RuleOf graph known items inner
    | .map values => ∃ inner, rule = .map inner ∧ RuleOf graph known values inner
    | .classType _ => rule = .classRef id ∧ known id
    | .enumType _ => rule = .enumRef id ∧ known id
    | .union members =>
      match graph.unionShape members with
      | .nullOnly => rule = .copy .null
      | .single member => RuleOf graph known member rule
      | .nullable member => ∃ inner, rule = .nullable inner ∧ RuleOf graph known member inner
      | .multi _ => rule = .unionRef id ∧ known id := by
  cases h with
  | any h | null h | bool h | integer h | double h | string h =>
    cases ht.symm.trans h
    rfl
  | transformed h =>
    cases ht.symm.trans h
    exact ⟨_, rfl, rfl⟩
  | array h hi =>
    cases ht.symm.trans h
    exact ⟨_, rfl, hi⟩
  | map h hv =>
    cases ht.symm.trans h
    exact ⟨_, rfl, hv⟩
  | classRef h hk | enumRef h hk =>
    cases ht.symm.trans h
    exact ⟨rfl, hk⟩
  | nullOnly h hs =>
    cases ht.symm.trans h
    dsimp only
    rw [hs]
  | single h hs hm =>
    cases ht.symm.trans h
    dsimp only
    rw [hs]
    exact hm
  | nullable h hs hm =>
    cases ht.symm.trans h
    dsimp only
    rw [hs]
    exact ⟨_, rfl, hm⟩
  | unionRef h hs hk =>
    cases ht.symm.trans h
    dsimp only
    rw [hs]
    exact ⟨rfl, hk⟩

/-- A class is referred to. -/
theorem RuleOf.eq_classRef {id : TypeId} {shape : ClassType} {rule : Rule}
    (h : RuleOf graph known id rule) (hc : graph.get? id = some (.classType shape)) :
    rule = .classRef id ∧ known id := h.inv hc

theorem FieldOf.mono (hk : ∀ id, known id → known' id) {entry : String × Field}
    {field : FieldConverter} (h : FieldOf graph known entry field) :
    FieldOf graph known' entry field := ⟨h.key, h.optional, h.rule.mono hk⟩

/-- The converter of a class stays one when more types are known. -/
theorem ClassOf.mono (hk : ∀ id, known id → known' id) {id : TypeId} {converter : ClassConverter}
    (h : ClassOf graph known id converter) : ClassOf graph known' id converter := by
  obtain ⟨h, hf⟩ := h
  exact .intro h (hf.imp fun _ _ hfield => hfield.mono hk)

theorem HasMember.mono (hk : ∀ id, known id → known' id) {codec : UnionCodec} {member : TypeId}
    (h : HasMember graph known codec member) : HasMember graph known' codec member := by
  cases h with
  | null h hs => exact .null h hs
  | bool h hs => exact .bool h hs
  | integer h hs => exact .integer h hs
  | double h hs => exact .double h hs
  | string h hs => exact .string h hs
  | transformed h hs => exact .transformed h hs
  | array h hr hs => exact .array h (hr.mono hk) hs
  | map h hr hs => exact .map h (hr.mono hk) hs
  | classMember h hknown hs => exact .classMember h (hk _ hknown) hs
  | enumeration h hknown hs => exact .enumeration h (hk _ hknown) hs

/-- The codec of a union stays one when more types are known. -/
theorem UnionOf.mono (hk : ∀ id, known id → known' id) {id : TypeId} {codec : UnionCodec}
    (h : UnionOf graph known id codec) : UnionOf graph known' id codec := by
  obtain ⟨h, hs, hc⟩ := h
  exact .intro h hs ⟨fun member hm => (hc.member member hm).mono hk, hc.others⟩

theorem FaithfulBy.mono (hk : ∀ id, known id → known' id) {plan : Converters}
    (h : FaithfulBy graph known plan) : FaithfulBy graph known' plan where
  classes id converter hc := (h.classes id converter hc).mono hk
  enums := h.enums
  unions id codec hc := (h.unions id codec hc).mono hk

/-- A member stays one while members of other kinds are added. -/
theorem HasMember.of_agree {kinds : List TypeKind} {codec codec' : UnionCodec} {member : TypeId}
    (h : HasMember graph known codec member) (ha : AgreeBeyond kinds codec codec')
    (hk : ∀ kind, graph.kind? member = some kind → kind ∉ kinds) :
    HasMember graph known codec' member := by
  cases h with
  | null h hs => exact .null h ((ha.nullable (hk _ (TypeGraph.kind?_of_get? h))).trans hs)
  | bool h hs => exact .bool h ((ha.boolean (hk _ (TypeGraph.kind?_of_get? h))).trans hs)
  | integer h hs => exact .integer h ((ha.integer (hk _ (TypeGraph.kind?_of_get? h))).trans hs)
  | double h hs => exact .double h ((ha.double (hk _ (TypeGraph.kind?_of_get? h))).trans hs)
  | string h hs => exact .string h ((ha.string (hk _ (TypeGraph.kind?_of_get? h))).trans hs)
  | transformed h hs =>
    exact .transformed h ((ha.string (hk _ (TypeGraph.kind?_of_get? h))).trans hs)
  | array h hr hs => exact .array h hr ((ha.array (hk _ (TypeGraph.kind?_of_get? h))).trans hs)
  | map h hr hs => exact .map h hr ((ha.map (hk _ (TypeGraph.kind?_of_get? h))).trans hs)
  | classMember h hknown hs =>
    exact .classMember h hknown ((ha.classMember (hk _ (TypeGraph.kind?_of_get? h))).trans hs)
  | enumeration h hknown hs =>
    exact .enumeration h hknown ((ha.enumeration (hk _ (TypeGraph.kind?_of_get? h))).trans hs)

theorem AgreeBeyond.refl (codec : UnionCodec) : AgreeBeyond [] codec codec := by
  constructor <;> first | rfl | (intro _; rfl)

/-- Kinds may differ in two steps. -/
theorem AgreeBeyond.trans {kind : TypeKind} {kinds : List TypeKind} {a b c : UnionCodec}
    (hab : AgreeBeyond [kind] a b) (hbc : AgreeBeyond kinds b c) :
    AgreeBeyond (kind :: kinds) a c := by
  have hhead : ∀ {k : TypeKind}, k ∉ kind :: kinds → k ∉ [kind] := by
    intro k hk hmem
    exact hk (List.mem_cons.mpr (Or.inl (List.mem_singleton.mp hmem)))
  have htail : ∀ {k : TypeKind}, k ∉ kind :: kinds → k ∉ kinds :=
    fun hk hmem => hk (List.mem_cons_of_mem _ hmem)
  constructor
  · exact hbc.id.trans hab.id
  · intro hk
    exact (hbc.nullable (htail hk)).trans (hab.nullable (hhead hk))
  · intro hk
    exact (hbc.boolean (htail hk)).trans (hab.boolean (hhead hk))
  · intro hk
    exact (hbc.integer (htail hk)).trans (hab.integer (hhead hk))
  · intro hk
    exact (hbc.double (htail hk)).trans (hab.double (hhead hk))
  · intro hk
    exact (hbc.string (htail hk)).trans (hab.string (hhead hk))
  · intro hk
    exact (hbc.array (htail hk)).trans (hab.array (hhead hk))
  · intro hk
    exact (hbc.map (htail hk)).trans (hab.map (hhead hk))
  · intro hk
    exact (hbc.classMember (htail hk)).trans (hab.classMember (hhead hk))
  · intro hk
    exact (hbc.enumeration (htail hk)).trans (hab.enumeration (hhead hk))

end Plan

end Hydration
