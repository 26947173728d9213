import Hydration.Proofs.Structure
import Hydration.TypeGraph.Basic
import Mathlib.Data.List.Pairwise

/-!
# Sound types

What a graph under construction is checked for, stated without the check: references are
in range, and unions have members, none of them a union and no two of one kind. The check
looks at types in order and stops at the first fault; it finds none exactly if the types
are sound.
-/

namespace Hydration

/-- The ids that a type refers to. -/
def Ty.references : Ty → List TypeId
  | array items => [items]
  | map values => [values]
  | classType shape => shape.fields.values.map Field.type
  | union members => members.toList
  | _ => []

/-- A type is sound among as many types as there are. -/
structure Ty.Sound (count : Nat) (types : TypeId → Ty → Prop) (type : Ty) : Prop where
  /-- What the type refers to is in range. -/
  references : ∀ next ∈ type.references, next.index < count
  /-- A union has members. -/
  nonempty : ∀ members, type = .union members → members.toList ≠ []
  /-- No member of a union is a union. -/
  flat : ∀ members, type = .union members → ∀ member ∈ members.toList,
    ∀ inner, ¬types member (.union inner)
  /-- Two members of a union are of different kinds. -/
  apart : ∀ members, type = .union members → ∀ a ∈ members.toList, ∀ b ∈ members.toList, a ≠ b →
    ∀ typeA typeB, types a typeA → types b typeB → typeA.kind ≠ typeB.kind

/-- Types under ids and entry points under names are sound. -/
structure Sound (count : Nat) (types : TypeId → Ty → Prop) (topLevels : String → TypeId → Prop) :
    Prop where
  /-- Every type is sound. -/
  types : ∀ id type, types id type → type.Sound count types
  /-- The entry points are in range. -/
  topLevels : ∀ name id, topLevels name id → id.index < count

theorem Ty.kind_eq_union_iff {type : Ty} :
    type.kind = .union ↔ ∃ members, type = .union members := by
  cases type <;> simp [kind]

/-- Other types than unions are sound if what they refer to is in range. -/
theorem Ty.sound_of_not_union {count : Nat} {types : TypeId → Ty → Prop} {type : Ty}
    (hu : ∀ members, type ≠ .union members) (h : ∀ next ∈ type.references, next.index < count) :
    type.Sound count types := by
  refine ⟨h, ?_, ?_, ?_⟩
  all_goals
    intro members hunion
    exact absurd hunion (hu members)

namespace TypeGraph

/-- The type at the position of an id. -/
def TypeAt (types : List Ty) (id : TypeId) (type : Ty) : Prop := types[id.index]? = some type

/-- An id has a type exactly if it is in range. -/
theorem exists_typeAt_iff {types : List Ty} {id : TypeId} :
    (∃ type, TypeAt types id type) ↔ id.index < types.length := by
  simp [TypeAt, List.getElem?_eq_some_iff]

/-- A reference has no fault exactly if it is in range. -/
theorem danglingFault?_eq_none_iff {types : List Ty} {id : TypeId} :
    danglingFault? types id = none ↔ id.index < types.length := by
  unfold danglingFault?
  split <;> simp_all

/-- Members are without fault if each is a type of a kind that no other one has. -/
theorem memberFault?_eq_none_iff {types : List Ty} {seen : List TypeKind} {members : List TypeId} :
    memberFault? types seen members = none
      ↔ (∀ member ∈ members, ∃ type, types[member.index]? = some type ∧ type.kind ≠ .union
          ∧ type.kind ∉ seen)
        ∧ members.Pairwise fun a b =>
          types[a.index]?.map Ty.kind ≠ types[b.index]?.map Ty.kind := by
  induction members generalizing seen with
  | nil => simp [memberFault?]
  | cons member rest ih =>
    rw [List.forall_mem_cons, List.pairwise_cons]
    unfold memberFault?
    cases ht : types[member.index]? with
    | none => simp
    | some type =>
      dsimp only
      split
      · rename_i hunion
        simp [hunion]
      · rename_i hunion
        split
        · rename_i hseen
          simp [hseen]
        · rename_i hseen
          rw [ih]
          constructor
          · rintro ⟨hrest, hapart⟩
            refine ⟨⟨⟨type, rfl, hunion, hseen⟩, fun other hm => ?_⟩, fun other hm => ?_, hapart⟩
            · obtain ⟨type', ht', hunion', hseen'⟩ := hrest other hm
              exact ⟨type', ht', hunion', fun hs => hseen' (List.mem_cons_of_mem _ hs)⟩
            · obtain ⟨type', ht', -, hseen'⟩ := hrest other hm
              rw [ht']
              intro hkind
              exact hseen' (List.mem_cons.mpr (Or.inl (Option.some.inj hkind).symm))
          · rintro ⟨⟨-, hrest⟩, hfirst, hapart⟩
            refine ⟨fun other hm => ?_, hapart⟩
            obtain ⟨type', ht', hunion', hseen'⟩ := hrest other hm
            refine ⟨type', ht', hunion', fun hs => ?_⟩
            rcases List.mem_cons.mp hs with hkind | hs
            · refine hfirst other hm ?_
              rw [ht', Option.map_some, Option.map_some, hkind]
            · exact hseen' hs

theorem TypeAt.lt {types : List Ty} {id : TypeId} {type : Ty} (h : TypeAt types id type) :
    id.index < types.length := exists_typeAt_iff.mp ⟨type, h⟩

/-- A type stays where it is when others are added. -/
theorem TypeAt.append {types : List Ty} {id : TypeId} {type : Ty} (h : TypeAt types id type)
    (more : List Ty) : TypeAt (types ++ more) id type := by
  rw [TypeAt, List.getElem?_append_left h.lt]
  exact h

/-- Replacing a type puts another one in its place. -/
theorem TypeAt.set {types : List Ty} {id : TypeId} {old : Ty} (h : TypeAt types id old)
    (type : Ty) :
    TypeAt (types.set id.index type) id type :=
  List.getElem?_set_self h.lt

/-- Replacing a type leaves the others. -/
theorem typeAt_set_of_ne {types : List Ty} {id other : TypeId} {new type : Ty} (hne : other ≠ id) :
    TypeAt (types.set id.index new) other type ↔ TypeAt types other type := by
  have hindex : id.index ≠ other.index := by
    intro heq
    cases id
    cases other
    exact hne (congrArg TypeId.mk heq).symm
  rw [TypeAt, TypeAt, List.getElem?_set_ne hindex]

/-- A list of members is without fault if they are in range, none of them is a union and
no two of them are of one kind. -/
theorem memberFault?_nil_eq_none_iff {types : List Ty} {members : List TypeId}
    (hn : members.Nodup) :
    memberFault? types [] members = none
      ↔ (∀ member ∈ members, member.index < types.length)
        ∧ (∀ member ∈ members, ∀ inner, ¬TypeAt types member (.union inner))
        ∧ ∀ a ∈ members, ∀ b ∈ members, a ≠ b →
          ∀ typeA typeB, TypeAt types a typeA → TypeAt types b typeB → typeA.kind ≠ typeB.kind := by
  rw [memberFault?_eq_none_iff]
  constructor
  · rintro ⟨hmembers, hapart⟩
    refine ⟨fun member hm => ?_, fun member hm inner hinner => ?_,
      fun a ha b hb hne typeA typeB hA hB hkind => ?_⟩
    · obtain ⟨type, ht, -⟩ := hmembers member hm
      exact TypeAt.lt ht
    · obtain ⟨type, ht, hunion, -⟩ := hmembers member hm
      cases ht.symm.trans hinner
      exact hunion rfl
    · have hsymm : Std.Symm fun a b : TypeId =>
          types[a.index]?.map Ty.kind ≠ types[b.index]?.map Ty.kind := ⟨fun _ _ => Ne.symm⟩
      refine hapart.forall ha hb hne ?_
      rw [show types[a.index]? = some typeA from hA, show types[b.index]? = some typeB from hB,
        Option.map_some, Option.map_some, hkind]
  · rintro ⟨hrange, hflat, hapart⟩
    have htypes : ∀ member ∈ members, ∃ type, TypeAt types member type :=
      fun member hm => exists_typeAt_iff.mpr (hrange member hm)
    refine ⟨fun member hm => ?_, ?_⟩
    · obtain ⟨type, ht⟩ := htypes member hm
      refine ⟨type, ht, fun hunion => ?_, List.not_mem_nil⟩
      obtain ⟨inner, rfl⟩ := Ty.kind_eq_union_iff.mp hunion
      exact hflat member hm inner ht
    · refine hn.imp_of_mem fun {a b} ha hb hne hkind => ?_
      obtain ⟨typeA, hA⟩ := htypes a ha
      obtain ⟨typeB, hB⟩ := htypes b hb
      rw [show types[a.index]? = some typeA from hA, show types[b.index]? = some typeB from hB,
        Option.map_some, Option.map_some] at hkind
      exact hapart a ha b hb hne typeA typeB hA hB (Option.some.inj hkind)

/-- A type is without fault if it is sound. -/
theorem typeFault?_eq_none_iff {types : List Ty} {type : Ty} :
    typeFault? types type = none ↔ type.Sound types.length (TypeAt types) := by
  have hother : (∀ members, type ≠ .union members) →
      ((∀ next ∈ type.references, next.index < types.length)
        ↔ type.Sound types.length (TypeAt types)) :=
    fun hu => ⟨Ty.sound_of_not_union hu, fun h => h.references⟩
  cases type with
  | union members =>
    rw [typeFault?]
    split
    · rename_i hnil
      constructor
      · intro h
        cases h
      · intro h
        exact absurd hnil (h.nonempty members rfl)
    · rename_i hcons
      rw [memberFault?_nil_eq_none_iff members.nodup]
      constructor
      · rintro ⟨hrange, hflat, hapart⟩
        refine ⟨hrange, ?_, ?_, ?_⟩
        · rintro _ ⟨⟩
          exact fun h => hcons h
        · rintro _ ⟨⟩
          exact hflat
        · rintro _ ⟨⟩
          exact hapart
      · intro h
        exact ⟨h.references, h.flat members rfl, h.apart members rfl⟩
  | classType shape =>
    rw [← hother (by simp), typeFault?, List.findSome?_eq_none_iff, Ty.references,
      List.forall_mem_map]
    exact forall₂_congr fun field _ => danglingFault?_eq_none_iff
  | array items =>
    rw [← hother (by simp), typeFault?, danglingFault?_eq_none_iff]
    simp [Ty.references]
  | map values =>
    rw [← hother (by simp), typeFault?, danglingFault?_eq_none_iff]
    simp [Ty.references]
  | _ =>
    rw [← hother (by simp)]
    simp [typeFault?, Ty.references]

/-- The check finds no fault exactly if the types and the entry points are sound. -/
theorem fault?_eq_none_iff {types : List Ty} {topLevels : OrderedMap String TypeId} :
    fault? types topLevels = none
      ↔ Sound types.length (TypeAt types) fun name id => topLevels.get? name = some id := by
  have htypes : types.findSome? (typeFault? types) = none
      ↔ ∀ id type, TypeAt types id type → type.Sound types.length (TypeAt types) := by
    simp only [List.findSome?_eq_none_iff, typeFault?_eq_none_iff, List.mem_iff_getElem?]
    constructor
    · intro h id type ht
      exact h type ⟨id.index, ht⟩
    · rintro h type ⟨index, ht⟩
      exact h ⟨index⟩ type ht
  have hnames : topLevels.values.findSome? (danglingFault? types) = none
      ↔ ∀ name id, topLevels.get? name = some id → id.index < types.length := by
    simp only [List.findSome?_eq_none_iff, danglingFault?_eq_none_iff, OrderedMap.values,
      List.forall_mem_map, ← OrderedMap.mem_entries_iff]
    exact ⟨fun h name id hm => h (name, id) hm, fun h entry hm => h entry.1 entry.2 hm⟩
  unfold fault?
  split
  · rename_i fault hfault
    constructor
    · intro h
      cases h
    · intro h
      rw [htypes.mpr h.types] at hfault
      cases hfault
  · rename_i hnone
    rw [hnames]
    exact ⟨fun h => ⟨htypes.mp hnone, h⟩, fun h => h.topLevels⟩

/-- A fault of types whose references are in range is that of a union. -/
inductive UnionFault : GraphError → Prop where
  /-- A union has no members. -/
  | emptyUnion : UnionFault .emptyUnion
  /-- A member of a union is a union. -/
  | nestedUnion : UnionFault .nestedUnion
  /-- Two members of a union are of one kind. -/
  | duplicateUnionKind (kind : TypeKind) : UnionFault (.duplicateUnionKind kind)

/-- A fault of members in range is one of unions. -/
theorem unionFault_of_memberFault? {types : List Ty} {seen : List TypeKind}
    {members : List TypeId} {fault : GraphError}
    (hr : ∀ member ∈ members, member.index < types.length)
    (h : memberFault? types seen members = some fault) : UnionFault fault := by
  induction members generalizing seen with
  | nil => cases h
  | cons member rest ih =>
    rw [List.forall_mem_cons] at hr
    obtain ⟨type, ht⟩ := exists_typeAt_iff.mpr hr.1
    rw [memberFault?, show types[member.index]? = some type from ht] at h
    dsimp only at h
    split at h
    · cases h
      exact .nestedUnion
    · split at h
      · cases h
        exact .duplicateUnionKind _
      · exact ih hr.2 h

/-- A fault of a type whose references are in range is one of unions. -/
theorem unionFault_of_typeFault? {types : List Ty} {type : Ty} {fault : GraphError}
    (hr : ∀ next ∈ type.references, next.index < types.length)
    (h : typeFault? types type = some fault) : UnionFault fault := by
  cases type with
  | union members =>
    rw [typeFault?] at h
    split at h
    · cases h
      exact .emptyUnion
    · exact unionFault_of_memberFault? hr h
  | _ =>
    have hnone := typeFault?_eq_none_iff.mpr (Ty.sound_of_not_union (by simp) hr)
    cases hnone.symm.trans h

/-- Types and entry points whose references are in range have no other faults than those
of unions. -/
theorem unionFault_of_fault? {types : List Ty} {topLevels : OrderedMap String TypeId}
    {fault : GraphError} (hr : ∀ type ∈ types, ∀ next ∈ type.references, next.index < types.length)
    (hnames : ∀ id ∈ topLevels.values, id.index < types.length)
    (h : fault? types topLevels = some fault) : UnionFault fault := by
  unfold fault? at h
  split at h
  · rename_i found hfound
    cases h
    obtain ⟨type, hm, hfault⟩ := List.exists_of_findSome?_eq_some hfound
    exact unionFault_of_typeFault? (hr type hm) hfault
  · obtain ⟨id, hm, hfault⟩ := List.exists_of_findSome?_eq_some h
    cases (danglingFault?_eq_none_iff.mpr (hnames id hm)).symm.trans hfault

end TypeGraph

end Hydration
