import Hydration.Proofs.Plan.Reach

/-!
# Graphs with the same rules

The rule of a type does not go into the fields of classes, and it does not depend on the
order of the members of unions. Two graphs that differ in nothing else have the same rules,
and the same members in the codecs of their unions.
-/

namespace Hydration

/-- Two types are equal, or unions of the same members, or classes. -/
inductive Ty.Resembles : Ty → Ty → Prop where
  /-- The types are equal. -/
  | refl (type : Ty) : Ty.Resembles type type
  /-- The types are unions of the same members. -/
  | union {members members' : OrderedSet TypeId} (h : members.toList.Perm members'.toList) :
      Ty.Resembles (.union members) (.union members')
  /-- The types are classes. -/
  | classType (shape shape' : ClassType) : Ty.Resembles (.classType shape) (.classType shape')

namespace TypeGraph

/-- The types of one graph are in another one, but for the fields of classes and the order
of the members of unions. -/
def Resembles (graph graph' : TypeGraph) : Prop :=
  ∀ id type, graph.get? id = some type →
    ∃ type', graph'.get? id = some type' ∧ type.Resembles type'

namespace Resembles

variable {graph graph' : TypeGraph} (h : graph.Resembles graph')
include h

/-- A type that is neither union nor class stays as it is. -/
theorem get?_of_plain {id : TypeId} {type : Ty} (ht : graph.get? id = some type)
    (hu : type.kind ≠ .union) (hc : type.kind ≠ .classKind) : graph'.get? id = some type := by
  obtain ⟨type', ht', hr⟩ := h id type ht
  cases hr with
  | refl => exact ht'
  | union => exact absurd rfl hu
  | classType => exact absurd rfl hc

/-- The members of a union stay in some order. -/
theorem get?_of_union {id : TypeId} {members : OrderedSet TypeId}
    (ht : graph.get? id = some (.union members)) :
    ∃ members', graph'.get? id = some (.union members')
      ∧ members.toList.Perm members'.toList := by
  obtain ⟨type', ht', hr⟩ := h id _ ht
  cases hr with
  | refl => exact ⟨members, ht', .refl _⟩
  | union hp => exact ⟨_, ht', hp⟩

/-- A class stays a class. -/
theorem get?_of_class {id : TypeId} {shape : ClassType}
    (ht : graph.get? id = some (.classType shape)) :
    ∃ shape', graph'.get? id = some (.classType shape') := by
  obtain ⟨type', ht', hr⟩ := h id _ ht
  cases hr with
  | refl => exact ⟨shape, ht'⟩
  | classType => exact ⟨_, ht'⟩

/-- A type stays of its kind. -/
theorem kind?_eq {id : TypeId} {type : Ty} (ht : graph.get? id = some type) :
    graph.kind? id = graph'.kind? id := by
  obtain ⟨type', ht', hr⟩ := h id type ht
  rw [kind?, kind?, ht, ht']
  cases hr <;> rfl

theorem kind_eq {id : TypeId} {type type' : Ty} (ht : graph.get? id = some type)
    (ht' : graph'.get? id = some type') : type.kind = type'.kind := by
  have hkind := h.kind?_eq ht
  rw [kind?_of_get? ht, kind?_of_get? ht'] at hkind
  exact Option.some.inj hkind

theorem isNullType_eq {id : TypeId} {type : Ty} (ht : graph.get? id = some type) :
    graph.isNullType id = graph'.isNullType id := by
  obtain ⟨type', ht', hr⟩ := h id type ht
  rw [isNullType, isNullType, ht, ht']
  cases hr <;> rfl

/-- The treatment of a union depends on the number of its members and on which of them
are null. -/
theorem unionShape_eq {id : TypeId} {members members' : OrderedSet TypeId}
    (ht : graph.get? id = some (.union members)) (hp : members.toList.Perm members'.toList) :
    graph.unionShape members = graph'.unionShape members' := by
  have hnull : ∀ member ∈ members.toList, graph.isNullType member = graph'.isNullType member := by
    intro member hm
    obtain ⟨type, htype, -⟩ := (members_of_union ht).1 member hm
    exact h.isNullType_eq htype
  have hany : members.toList.any graph.isNullType = members'.toList.any graph'.isNullType := by
    rw [← hp.any_eq, Bool.eq_iff_iff, List.any_eq_true, List.any_eq_true]
    exact exists_congr fun member => and_congr_right fun hm => hnull member hm ▸ Iff.rfl
  have hothers : (members.toList.filter fun member => !graph.isNullType member).Perm
      (members'.toList.filter fun member => !graph'.isNullType member) := by
    rw [List.filter_congr fun member hm => congrArg not (hnull member hm)]
    exact hp.filter _
  unfold unionShape
  rw [hany]
  generalize members.toList.filter _ = others at hothers ⊢
  generalize members'.toList.filter _ = others' at hothers ⊢
  match others, others' with
  | [], others' => rw [hothers.nil_eq]
  | [only], others' => rw [hothers.singleton_eq]
  | a :: b :: rest, [] => cases hothers.eq_nil
  | a :: b :: rest, [only] => cases hothers.eq_singleton
  | a :: b :: rest, a' :: b' :: rest' => rfl

/-- A union of several members stays one. -/
theorem isTrueUnion {id : TypeId} (hu : graph.IsTrueUnion id) : graph'.IsTrueUnion id := by
  obtain ⟨members, nullable, ht, hs⟩ := hu
  obtain ⟨members', ht', hp⟩ := h.get?_of_union ht
  exact ⟨members', nullable, ht', h.unionShape_eq ht hp ▸ hs⟩

end Resembles

end TypeGraph

namespace Plan

variable {graph graph' : TypeGraph} {known : TypeId → Prop}

/-- Codecs that agree but for some kinds agree but for more of them. -/
theorem AgreeBeyond.mono {kinds kinds' : List TypeKind} (hk : kinds ⊆ kinds')
    {codec codec' : UnionCodec} (h : AgreeBeyond kinds codec codec') :
    AgreeBeyond kinds' codec codec' where
  id := h.id
  nullable hkind := h.nullable fun hm => hkind (hk hm)
  boolean hkind := h.boolean fun hm => hkind (hk hm)
  integer hkind := h.integer fun hm => hkind (hk hm)
  double hkind := h.double fun hm => hkind (hk hm)
  string hkind := h.string fun hm => hkind (hk hm)
  array hkind := h.array fun hm => hkind (hk hm)
  map hkind := h.map fun hm => hkind (hk hm)
  classMember hkind := h.classMember fun hm => hkind (hk hm)
  enumeration hkind := h.enumeration fun hm => hkind (hk hm)

variable (h : graph.Resembles graph')
include h

/-- The rule of a type is the same in a graph that resembles its own. -/
theorem RuleOf.of_resembles {id : TypeId} {rule : Rule} (hr : RuleOf graph known id rule) :
    RuleOf graph' known id rule := by
  induction hr with
  | any ht => exact .any (h.get?_of_plain ht nofun nofun)
  | null ht => exact .null (h.get?_of_plain ht nofun nofun)
  | bool ht => exact .bool (h.get?_of_plain ht nofun nofun)
  | integer ht => exact .integer (h.get?_of_plain ht nofun nofun)
  | double ht => exact .double (h.get?_of_plain ht nofun nofun)
  | string ht => exact .string (h.get?_of_plain ht nofun nofun)
  | transformed ht => exact .transformed (h.get?_of_plain ht nofun nofun)
  | array ht _ ih => exact .array (h.get?_of_plain ht nofun nofun) ih
  | map ht _ ih => exact .map (h.get?_of_plain ht nofun nofun) ih
  | enumRef ht hk => exact .enumRef (h.get?_of_plain ht nofun nofun) hk
  | classRef ht hk =>
    obtain ⟨shape', ht'⟩ := h.get?_of_class ht
    exact .classRef ht' hk
  | nullOnly ht hs =>
    obtain ⟨members', ht', hp⟩ := h.get?_of_union ht
    exact .nullOnly ht' (h.unionShape_eq ht hp ▸ hs)
  | single ht hs _ ih =>
    obtain ⟨members', ht', hp⟩ := h.get?_of_union ht
    exact .single ht' (h.unionShape_eq ht hp ▸ hs) ih
  | nullable ht hs _ ih =>
    obtain ⟨members', ht', hp⟩ := h.get?_of_union ht
    exact .nullable ht' (h.unionShape_eq ht hp ▸ hs) ih
  | unionRef ht hs hk =>
    obtain ⟨members', ht', hp⟩ := h.get?_of_union ht
    exact .unionRef ht' (h.unionShape_eq ht hp ▸ hs) hk

theorem EnumOf.of_resembles {id : TypeId} {converter : EnumConverter}
    (he : EnumOf graph id converter) : EnumOf graph' id converter := by
  obtain ⟨ht⟩ := he
  exact .intro (h.get?_of_plain ht nofun nofun)

/-- A codec has the same members in a graph that resembles its own. -/
theorem HasMember.of_resembles {codec : UnionCodec} {member : TypeId}
    (hm : HasMember graph known codec member) : HasMember graph' known codec member := by
  cases hm with
  | null ht hs => exact .null (h.get?_of_plain ht nofun nofun) hs
  | bool ht hs => exact .bool (h.get?_of_plain ht nofun nofun) hs
  | integer ht hs => exact .integer (h.get?_of_plain ht nofun nofun) hs
  | double ht hs => exact .double (h.get?_of_plain ht nofun nofun) hs
  | string ht hs => exact .string (h.get?_of_plain ht nofun nofun) hs
  | transformed ht hs => exact .transformed (h.get?_of_plain ht nofun nofun) hs
  | array ht hr hs => exact .array (h.get?_of_plain ht nofun nofun) (hr.of_resembles h) hs
  | map ht hr hs => exact .map (h.get?_of_plain ht nofun nofun) (hr.of_resembles h) hs
  | enumeration ht hk hs => exact .enumeration (h.get?_of_plain ht nofun nofun) hk hs
  | classMember ht hk hs =>
    obtain ⟨shape', ht'⟩ := h.get?_of_class ht
    exact .classMember ht' hk hs

/-- The codec of a union is that of its members in any order. -/
theorem UnionOf.of_resembles {id : TypeId} {codec : UnionCodec}
    (hu : UnionOf graph known id codec) : UnionOf graph' known id codec := by
  obtain ⟨ht, hs, hc⟩ := hu
  obtain ⟨members', ht', hp⟩ := h.get?_of_union ht
  refine .intro ht' (h.unionShape_eq ht hp ▸ hs) ⟨fun member hm => ?_, hc.others.mono ?_⟩
  · exact (hc.member member (hp.mem_iff.mpr hm)).of_resembles h
  · intro kind hkind
    obtain ⟨member, hm, hmember⟩ := List.mem_filterMap.mp hkind
    obtain ⟨type, htype, -⟩ := (TypeGraph.members_of_union ht).1 member hm
    exact List.mem_filterMap.mpr ⟨member, hp.mem_iff.mp hm, h.kind?_eq htype ▸ hmember⟩

end Plan

end Hydration
