import Hydration.Plan.Builder
import Hydration.Proofs.Plan.Reach

/-!
# What the search for cycles finds

The edges that the search follows, read from the graph: a required field of a
class whose type is a class, or a union of that class alone. A search that
succeeds leaves no class from which these edges can be followed without end.
-/

namespace Hydration.TypeGraph

variable (graph : TypeGraph)

/-- A type is a class, or a union of one class alone. -/
inductive IsClass : TypeId → TypeId → Prop where
  /-- The class itself. -/
  | refl {id : TypeId} {shape : ClassType} (h : graph.get? id = some (.classType shape)) :
      IsClass id id
  /-- A union of the class. -/
  | single {id member : TypeId} {members : OrderedSet TypeId} {shape : ClassType}
      (h : graph.get? id = some (.union members))
      (hs : graph.unionShape members = .single member)
      (hc : graph.get? member = some (.classType shape)) : IsClass id member

/-- A class has a required field of a type that is related to another one. -/
inductive Demands (type : TypeId → TypeId → Prop) : TypeId → TypeId → Prop where
  /-- The field and what its type is related to. -/
  | intro {id next : TypeId} {shape : ClassType} {entry : String × Field}
      (h : graph.get? id = some (.classType shape)) (he : entry ∈ shape.fields.entries)
      (ho : entry.2.optional = false) (ht : type entry.2.type next) : Demands type id next

/-- A required field of a class is of a class. -/
abbrev HardEdge : TypeId → TypeId → Prop := graph.Demands graph.IsClass

/-- The hard edges from a class cannot be followed without end. -/
abbrev Founded : TypeId → Prop := Acc fun next id => graph.HardEdge id next

variable {graph}

/-- The target of a hard edge is a class. -/
theorem HardEdge.exists_class {id next : TypeId} (h : graph.HardEdge id next) :
    ∃ shape, graph.get? next = some (.classType shape) := by
  obtain ⟨-, -, -, ht⟩ := h
  cases ht with
  | refl h => exact ⟨_, h⟩
  | single _ _ hc => exact ⟨_, hc⟩

/-- Hard edges that cannot be followed without end do not lead back. -/
theorem Founded.not_cycle {id : TypeId} (h : graph.Founded id) :
    ¬Relation.TransGen graph.HardEdge id id := by
  induction h with
  | intro id _ ih =>
    intro hcycle
    obtain ⟨next, hedge, hback⟩ := Relation.TransGen.head'_iff.mp hcycle
    exact ih next hedge (.tail' hback hedge)

/-- A type that is no union stands for itself. -/
theorem standsForWithin_of_not_union {bound : Nat} {id : TypeId}
    (hu : ∀ members, graph.get? id ≠ some (.union members)) :
    graph.standsForWithin (bound + 1) id = some id := by
  unfold standsForWithin
  split
  · rename_i members h
    exact absurd h (hu members)
  · rfl

/-- A union of one member stands for it: the member is no union, so the chain
ends there. -/
theorem standsFor?_of_single {id member : TypeId} {members : OrderedSet TypeId}
    (h : graph.get? id = some (.union members))
    (hs : graph.unionShape members = .single member) : graph.standsFor? id = some member := by
  have hlt : id.index < graph.size := (List.getElem?_eq_some_iff.mp h).1
  obtain ⟨size, hsize⟩ : ∃ size, graph.size = size + 1 := ⟨graph.size - 1, by omega⟩
  unfold standsFor? standsForWithin
  rw [h]
  dsimp only
  rw [hs, hsize]
  exact standsForWithin_of_not_union (member_of_unionShape h (Or.inl hs)).2.2

/-- The class that a type stands for is the class that it is. -/
theorem hardTarget?_eq_some_iff {type target : TypeId} :
    graph.hardTarget? type = some target ↔ graph.IsClass type target := by
  have hclass : (graph.class? target).isSome = true
      ↔ ∃ shape, graph.get? target = some (.classType shape) := by
    rw [Option.isSome_iff_exists]
    exact exists_congr fun shape => class?_eq_some_iff
  rw [hardTarget?, Option.filter_eq_some_iff, hclass]
  constructor
  · rintro ⟨hstands, shape, hshape⟩
    cases ht : graph.get? type with
    | none =>
      rw [standsFor?, standsForWithin_of_not_union (by simp [ht])] at hstands
      cases hstands
      cases ht.symm.trans hshape
    | some found =>
      cases found with
      | union members =>
        cases hs : graph.unionShape members with
        | single member =>
          rw [standsFor?_of_single ht hs] at hstands
          cases hstands
          exact .single ht hs hshape
        | _ =>
          simp only [standsFor?, standsForWithin, ht, hs, Option.some.injEq] at hstands
          cases hstands
          cases ht.symm.trans hshape
      | _ =>
        rw [standsFor?, standsForWithin_of_not_union (by simp [ht])] at hstands
        cases hstands
        exact .refl hshape
  · intro h
    cases h with
    | refl h => exact ⟨standsForWithin_of_not_union (by simp [h]), _, h⟩
    | single h hs hc => exact ⟨standsFor?_of_single h hs, _, hc⟩

/-- The search follows the hard edges. -/
theorem mem_hardTargets_iff {id next : TypeId} :
    next ∈ graph.hardTargets id ↔ graph.HardEdge id next := by
  unfold hardTargets
  cases hc : graph.class? id with
  | none =>
    constructor
    · intro h
      cases h
    · rintro ⟨h, -, -, -⟩
      cases hc.symm.trans (class?_eq_some_iff.mpr h)
  | some shape =>
    have hshape := class?_eq_some_iff.mp hc
    dsimp only
    rw [List.mem_filterMap]
    constructor
    · rintro ⟨field, hf, ht⟩
      obtain ⟨hm, ho⟩ := List.mem_filter.mp hf
      obtain ⟨entry, he, rfl⟩ := List.mem_map.mp hm
      exact .intro hshape he (by simpa using ho) (hardTarget?_eq_some_iff.mp ht)
    · rintro ⟨h, he, ho, ht⟩
      cases hshape.symm.trans h
      refine ⟨_, List.mem_filter.mpr ⟨List.mem_map_of_mem he, ?_⟩, hardTarget?_eq_some_iff.mpr ht⟩
      simpa using ho

/-- Searching several classes one after the other keeps what searching one does. -/
theorem founded_of_foldlM {search : List TypeId → TypeId → Except PlanError (List TypeId)}
    (hsearch : ∀ done id done', (∀ other ∈ done, graph.Founded other) →
      search done id = .ok done' →
      done ⊆ done' ∧ id ∈ done' ∧ ∀ other ∈ done', graph.Founded other)
    {ids done done' : List TypeId} (hd : ∀ other ∈ done, graph.Founded other)
    (h : ids.foldlM search done = .ok done') :
    done ⊆ done' ∧ ids ⊆ done' ∧ ∀ other ∈ done', graph.Founded other := by
  induction ids generalizing done with
  | nil =>
    cases h
    exact ⟨List.Subset.refl _, List.nil_subset _, hd⟩
  | cons id rest ih =>
    rw [List.foldlM_cons] at h
    obtain ⟨next, hnext, h⟩ := bind_eq_ok.mp h
    obtain ⟨hsub, hmem, hfounded⟩ := hsearch done id next hd hnext
    obtain ⟨hsub', hrest, hfounded'⟩ := ih hfounded h
    exact ⟨List.Subset.trans hsub hsub', List.cons_subset.mpr ⟨hsub' hmem, hrest⟩, hfounded'⟩

/-- A class that has been searched without finding a cycle is founded: the
search has gone through all its targets before. -/
theorem founded_of_visitWithin {bound : Nat} {path : List TypeId} {id : TypeId}
    {done done' : List TypeId} (hd : ∀ other ∈ done, graph.Founded other)
    (h : graph.visitWithin bound path id done = .ok done') :
    done ⊆ done' ∧ id ∈ done' ∧ ∀ other ∈ done', graph.Founded other := by
  induction bound generalizing path id done done' with
  | zero => cases h
  | succ bound ih =>
    unfold visitWithin at h
    split at h
    · rename_i hmem
      cases h
      exact ⟨List.Subset.refl _, hmem, hd⟩
    · split at h
      · cases h
      · obtain ⟨found, hfold, h⟩ := bind_eq_ok.mp h
        cases h
        obtain ⟨hsub, htargets, hfounded⟩ :=
          founded_of_foldlM (fun done next done' hd h => ih hd h) hd hfold
        have hgrown : done ⊆ id :: found := List.Subset.trans hsub (List.subset_cons_self _ _)
        refine ⟨hgrown, List.mem_cons_self, fun other hm => ?_⟩
        rcases List.mem_cons.mp hm with rfl | hm
        · exact .intro _ fun next hedge => hfounded next (htargets (mem_hardTargets_iff.mpr hedge))
        · exact hfounded other hm

/-- If the search succeeds, no hard edges can be followed without end: they lead from class to
class, and all classes are searched. -/
theorem founded_of_checkCycles {entries : List TypeId} (h : graph.checkCycles entries = .ok ())
    (id : TypeId) : graph.Founded id := by
  obtain ⟨done, hfold, -⟩ := bind_eq_ok.mp h
  obtain ⟨-, hsearched, hfounded⟩ := founded_of_foldlM
    (fun done id done' hd h => founded_of_visitWithin hd h) (by simp) hfold
  refine .intro _ fun next hedge => ?_
  obtain ⟨shape, hshape⟩ := hedge.exists_class
  have hmem : next ∈ graph.classes.map Prod.fst :=
    List.mem_map.mpr ⟨(next, shape), mem_classes_iff.mpr hshape, rfl⟩
  exact hfounded next (hsearched (List.mem_append_right _ hmem))

/-- A plan is built only if the search succeeds. -/
theorem checkCycles_of_build {entries : List TypeId} {routing : UnionRouting} {plan : Converters}
    (h : Converters.build graph entries routing = .ok plan) :
    graph.checkCycles entries = .ok () := by
  unfold Converters.build at h
  split at h
  · cases h
  · obtain ⟨_, hcheck, -⟩ := bind_eq_ok.mp h
    exact hcheck

end Hydration.TypeGraph
