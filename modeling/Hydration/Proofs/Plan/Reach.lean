import Hydration.Proofs.Plan.Rules
import Hydration.Proofs.TypeGraph
import Mathlib.Data.List.Perm.Subperm
import Mathlib.Logic.Relation

/-!
# Reachable types

The references of a graph and what they reach. A graph is grounded when every
cycle of references passes through a class or a union of several members; from
every type of such a graph the references through arrays, maps and the other
unions end within as many steps as there are types.
-/

namespace Hydration.TypeGraph

variable (graph : TypeGraph)

/-- A type refers to another one. -/
inductive Refers : TypeId → TypeId → Prop where
  /-- An array refers to the type of its elements. -/
  | items {id items : TypeId} (h : graph.get? id = some (.array items)) : Refers id items
  /-- A map refers to the type of its values. -/
  | values {id values : TypeId} (h : graph.get? id = some (.map values)) : Refers id values
  /-- A class refers to the types of its fields. -/
  | field {id : TypeId} {shape : ClassType} {entry : String × Field}
      (h : graph.get? id = some (.classType shape)) (he : entry ∈ shape.fields.entries) :
      Refers id entry.2.type
  /-- A union refers to its members. -/
  | member {id member : TypeId} {members : OrderedSet TypeId}
      (h : graph.get? id = some (.union members)) (hm : member ∈ members.toList) :
      Refers id member

/-- A type is reached from one of several types. -/
def Reaches (starts : List TypeId) (id : TypeId) : Prop :=
  ∃ start ∈ starts, Relation.ReflTransGen graph.Refers start id

/-- A union has several members other than null. -/
def IsTrueUnion (id : TypeId) : Prop :=
  ∃ members nullable, graph.get? id = some (.union members)
    ∧ graph.unionShape members = .multi nullable

/-- A reference from a type that is neither a class nor a union of several
members. -/
def RefersInside (id next : TypeId) : Prop :=
  graph.Refers id next ∧ graph.class? id = none ∧ ¬graph.IsTrueUnion id

/-- Every cycle of references passes through a class or a union of several
members. -/
def Grounded : Prop := ∀ id, ¬Relation.TransGen graph.RefersInside id id

/-- No reference that stays between classes and unions of several members leads from
the type to a type that contains itself. -/
def Ends (id : TypeId) : Prop :=
  ∀ other, Relation.ReflTransGen graph.RefersInside id other →
    ¬Relation.TransGen graph.RefersInside other other

/-- The references from a type end within a number of steps, unless they pass
through a class or a union of several members. -/
def Shallow : Nat → TypeId → Prop
  | 0, _ => False
  | steps + 1, id => ∀ next, graph.RefersInside id next → Shallow steps next

/-- What a converter needs of a type: a string has a known interpretation, and
a token tells the members of a union of several members apart. -/
structure Supported (id : TypeId) : Prop where
  /-- The interpretation of a string is known. -/
  kind : ∀ name, graph.get? id ≠ some (.transformed (.other name))
  /-- No member of a union of several members accepts every value. -/
  members : ∀ members nullable, graph.get? id = some (.union members) →
    graph.unionShape members = .multi nullable →
    ∀ member ∈ members.toList, graph.get? member ≠ some .any

variable {graph}

/-- A graph has as many ids as types. -/
theorem length_ids : graph.ids.length = graph.size := by
  rw [ids, List.length_map, List.length_range]

/-- Distinct types are no more than all types. -/
theorem length_le_size {path : List TypeId} (hn : path.Nodup) (hs : path ⊆ graph.ids) :
    path.length ≤ graph.size := by
  have hle := (List.subperm_of_subset hn hs).length_le
  rwa [length_ids] at hle

/-- What refers to another type is a type of the graph. -/
theorem Refers.mem_ids {id next : TypeId} (h : graph.Refers id next) : id ∈ graph.ids := by
  cases h with
  | items h => exact mem_ids_of_get? h
  | values h => exact mem_ids_of_get? h
  | field h _ => exact mem_ids_of_get? h
  | member h _ => exact mem_ids_of_get? h

theorem reaches_of_mem {starts : List TypeId} {id : TypeId} (h : id ∈ starts) :
    graph.Reaches starts id := ⟨id, h, .refl⟩

/-- A type refers to the types in its declaration. -/
theorem refers_iff {id next : TypeId} :
    graph.Refers id next ↔ ∃ type, graph.get? id = some type ∧ next ∈ type.references := by
  constructor
  · intro h
    cases h with
    | items h => exact ⟨_, h, List.mem_cons_self⟩
    | values h => exact ⟨_, h, List.mem_cons_self⟩
    | field h he => exact ⟨_, h, List.mem_map_of_mem (List.mem_map_of_mem he)⟩
    | member h hm => exact ⟨_, h, hm⟩
  · rintro ⟨type, ht, hm⟩
    cases type with
    | array items =>
      rw [List.mem_singleton.mp hm]
      exact .items ht
    | map values =>
      rw [List.mem_singleton.mp hm]
      exact .values ht
    | classType shape =>
      obtain ⟨field, hf, rfl⟩ := List.mem_map.mp hm
      obtain ⟨entry, he, rfl⟩ := List.mem_map.mp hf
      exact .field ht he
    | union members => exact .member ht hm
    | _ => cases hm

/-- No reference dangles. -/
theorem Refers.exists_type {id next : TypeId} (h : graph.Refers id next) :
    ∃ type, graph.get? next = some type := by
  obtain ⟨type, ht, hm⟩ := refers_iff.mp h
  exact exists_typeAt_iff.mpr
    (((fault?_eq_none_iff.mp graph.sound).types id type ht).references next hm)

/-- An array refers to nothing but the type of its elements. -/
theorem Refers.eq_items {id next items : TypeId} (hr : graph.Refers id next)
    (ht : graph.get? id = some (.array items)) : next = items := by
  cases hr with
  | items ht' =>
    cases ht.symm.trans ht'
    rfl
  | _ ht' => cases ht.symm.trans ht'

/-- A map refers to nothing but the type of its values. -/
theorem Refers.eq_values {id next values : TypeId} (hr : graph.Refers id next)
    (ht : graph.get? id = some (.map values)) : next = values := by
  cases hr with
  | values ht' =>
    cases ht.symm.trans ht'
    rfl
  | _ ht' => cases ht.symm.trans ht'

/-- A union refers to nothing but its members. -/
theorem Refers.mem_members {id next : TypeId} {members : OrderedSet TypeId}
    (hr : graph.Refers id next) (ht : graph.get? id = some (.union members)) :
    next ∈ members.toList := by
  cases hr with
  | member ht' hm =>
    cases ht.symm.trans ht'
    exact hm
  | _ ht' => cases ht.symm.trans ht'

/-- What a reached type refers to is reached. -/
theorem Reaches.refers {starts : List TypeId} {id next : TypeId} (h : graph.Reaches starts id)
    (hr : graph.Refers id next) : graph.Reaches starts next := by
  obtain ⟨start, hs, hpath⟩ := h
  exact ⟨start, hs, hpath.tail hr⟩

/-- A property of the starts that references keep holds of all reached types. -/
theorem Reaches.induct {starts : List TypeId} {P : TypeId → Prop} (hstart : ∀ id ∈ starts, P id)
    (hstep : ∀ id next, P id → graph.Refers id next → P next) {id : TypeId}
    (h : graph.Reaches starts id) : P id := by
  obtain ⟨start, hs, hpath⟩ := h
  induction hpath with
  | refl => exact hstart start hs
  | tail _ hr ih => exact hstep _ _ ih hr

/-- A type of another kind is no class. -/
theorem class?_eq_none {id : TypeId} {type : Ty} (h : graph.get? id = some type)
    (hc : ∀ shape, type ≠ .classType shape) : graph.class? id = none := by
  unfold class?
  rw [h]
  cases type with
  | classType shape => exact absurd rfl (hc shape)
  | _ => rfl

/-- A type of another kind is no union of several members. -/
theorem not_isTrueUnion {id : TypeId} {type : Ty} (h : graph.get? id = some type)
    (hu : ∀ members, type ≠ .union members) : ¬graph.IsTrueUnion id := by
  rintro ⟨members, nullable, hm, -⟩
  rw [h] at hm
  exact hu members (Option.some.inj hm)

/-- An array refers inside to its items. -/
theorem refersInside_items {id items : TypeId} (h : graph.get? id = some (.array items)) :
    graph.RefersInside id items :=
  ⟨.items h, class?_eq_none h (by simp), not_isTrueUnion h (by simp)⟩

/-- A map refers inside to its values. -/
theorem refersInside_values {id values : TypeId} (h : graph.get? id = some (.map values)) :
    graph.RefersInside id values :=
  ⟨.values h, class?_eq_none h (by simp), not_isTrueUnion h (by simp)⟩

/-- A union refers to the member that it stands for or makes nullable, and it
does not have several others. -/
theorem refersInside_member {id member : TypeId} {members : OrderedSet TypeId}
    (h : graph.get? id = some (.union members))
    (hs : graph.unionShape members = .single member
      ∨ graph.unionShape members = .nullable member) : graph.RefersInside id member := by
  have hmem : member ∈ members.toList := (member_of_unionShape h hs).1
  refine ⟨.member h hmem, class?_eq_none h (by simp), ?_⟩
  rintro ⟨members', nullable, hm, hmulti⟩
  cases h.symm.trans hm
  rcases hs with hs | hs
  · cases hs.symm.trans hmulti
  · cases hs.symm.trans hmulti

/-- The other members of a union that stands for one of them, or makes one
nullable, are null. -/
theorem eq_of_unionShape {member other : TypeId} {members : OrderedSet TypeId}
    (hs : graph.unionShape members = .single member
      ∨ graph.unionShape members = .nullable member) (hm : other ∈ members.toList) :
    graph.get? other = some .null ∨ other = member := by
  by_cases hnull : graph.get? other = some .null
  · exact Or.inl hnull
  · right
    have hother := mem_filter_isNullType.mpr ⟨hm, hnull⟩
    unfold unionShape at hs
    dsimp only at hs
    split at hs
    · rcases hs with hs | hs <;> cases hs
    · rename_i only honly
      rw [honly, List.mem_singleton] at hother
      split at hs
      · rcases hs with hs | hs
        · cases hs
        · cases hs
          exact hother
      · rcases hs with hs | hs
        · cases hs
          exact hother
        · cases hs
    · rcases hs with hs | hs <;> cases hs

/-- The members of a union of null alone are null. -/
theorem null_of_nullOnly {other : TypeId} {members : OrderedSet TypeId}
    (hs : graph.unionShape members = .nullOnly) (hm : other ∈ members.toList) :
    graph.get? other = some .null := by
  by_contra hnull
  have hother := mem_filter_isNullType.mpr ⟨hm, hnull⟩
  unfold unionShape at hs
  dsimp only at hs
  split at hs
  · rename_i hnone
    rw [hnone] at hother
    cases hother
  · split at hs <;> cases hs
  · cases hs

/-- References inside of a value end in a grounded graph. -/
theorem Grounded.ends (hg : graph.Grounded) (id : TypeId) : graph.Ends id :=
  fun other _ => hg other

/-- What a type refers to inside ends if the type does. -/
theorem Ends.inside {id next : TypeId} (h : graph.Ends id) (hr : graph.RefersInside id next) :
    graph.Ends next :=
  fun other hpath => h other (.head hr hpath)

/-- A type ends if the references inside cannot be followed without end. -/
theorem ends_of_acc {id : TypeId} (h : Acc (fun next id => graph.RefersInside id next) id) :
    graph.Ends id := by
  induction h with
  | intro id _ ih =>
    intro other hpath hcycle
    rcases hpath.cases_head with rfl | ⟨next, hnext, hrest⟩
    · obtain ⟨next, hnext, hback⟩ := Relation.TransGen.head'_iff.mp hcycle
      exact ih next hnext next .refl (.tail' hback hnext)
    · exact ih next hnext other hrest hcycle

/-- A path of references inside to a type that ends has distinct types, so what is
left of the number of types bounds how it goes on. -/
theorem Ends.shallow_of_path {steps : Nat} {path : List TypeId} {id : TypeId}
    (h : graph.Ends id) (hn : path.Nodup)
    (hp : ∀ other ∈ path, other ∈ graph.ids ∧ Relation.TransGen graph.RefersInside other id)
    (hlength : path.length + steps = graph.size + 1) : graph.Shallow steps id := by
  induction steps generalizing path id with
  | zero =>
    have hle := length_le_size hn fun other hm => (hp other hm).1
    omega
  | succ steps ih =>
    intro next hnext
    have hfresh : id ∉ path := fun hm => h id .refl (hp id hm).2
    refine ih (h.inside hnext) (List.nodup_cons.mpr ⟨hfresh, hn⟩) (fun other hm => ?_) ?_
    · rcases List.mem_cons.mp hm with rfl | hm
      · exact ⟨hnext.1.mem_ids, .single hnext⟩
      · exact ⟨(hp other hm).1, (hp other hm).2.tail hnext⟩
    · rw [List.length_cons]
      omega

/-- The references from a type that ends do so within as many steps as there are types. -/
theorem Ends.shallow {id : TypeId} (h : graph.Ends id) : graph.Shallow (graph.size + 1) id :=
  h.shallow_of_path List.nodup_nil (by simp) (Nat.zero_add _)

/-- A graph is grounded if the references of its arrays, its maps and its unions
of at most one member lead to types declared before them. -/
theorem grounded_of_lt
    (h : ∀ id next, graph.RefersInside id next → next.index < id.index) : graph.Grounded := by
  have hpath : ∀ id next, Relation.TransGen graph.RefersInside id next →
      next.index < id.index := by
    intro id next hp
    induction hp with
    | single hr => exact h _ _ hr
    | tail _ hr ih => exact Nat.lt_trans (h _ _ hr) ih
  intro id hcycle
  exact Nat.lt_irrefl _ (hpath id id hcycle)

end Hydration.TypeGraph
