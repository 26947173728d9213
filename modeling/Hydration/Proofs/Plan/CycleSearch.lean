import Hydration.Proofs.Plan.Cycles
import Mathlib.Data.List.Chain
import Mathlib.Data.List.Forall2

/-!
# What a failed search reports

The search for cycles goes along the hard edges. The classes from its start to
the current one follow each other along these edges and none of them comes
twice, so a class that is met again closes a cycle, and the search ends before its
bound is reached. A failure is therefore always a cycle of hard edges, reported by
the names along it.
-/

namespace Hydration.TypeGraph

/-- Names are those of the classes along a cycle of hard edges. The first class is
named again at the end, and no other class comes twice. -/
def NamesCycle (graph : TypeGraph) (names : List String) : Prop :=
  ∃ first rest, (first :: rest).Nodup ∧ (first :: rest ++ [first]).IsChain graph.HardEdge
    ∧ List.Forall₂
        (fun id name => ∃ shape, graph.get? id = some (.classType shape) ∧ shape.name = name)
        (first :: rest ++ [first]) names

/-- The classes from the start of a search to the one that comes next. -/
structure SearchPath (graph : TypeGraph) (path : List TypeId) (id : TypeId) : Prop where
  /-- No class comes twice. -/
  nodup : path.Nodup
  /-- Each class demands the one after it, and the last one what comes next. -/
  chain : (path ++ [id]).IsChain graph.HardEdge

variable {graph : TypeGraph} {path : List TypeId} {id : TypeId}

/-- A search starts at a class without going through others. -/
theorem SearchPath.start (graph : TypeGraph) (id : TypeId) : graph.SearchPath [] id :=
  ⟨List.nodup_nil, .singleton id⟩

/-- A search goes on from a class that it has not met along a hard edge. -/
theorem SearchPath.snoc (h : graph.SearchPath path id) (hid : id ∉ path) {next : TypeId}
    (hedge : graph.HardEdge id next) : graph.SearchPath (path ++ [id]) next where
  nodup := by
    rw [← List.concat_eq_append]
    exact h.nodup.concat hid
  chain := by
    rw [List.append_assoc]
    exact List.isChain_append_cons_cons.mpr ⟨h.chain, hedge, .singleton next⟩

/-- What a search has gone through are classes. -/
theorem SearchPath.exists_class (h : graph.SearchPath path id) {other : TypeId}
    (hm : other ∈ path) : ∃ shape, graph.get? other = some (.classType shape) := by
  obtain ⟨front, back, rfl⟩ := List.append_of_mem hm
  have hchain := h.chain
  rw [List.append_assoc] at hchain
  obtain ⟨next, more, hnext⟩ := List.exists_cons_of_ne_nil (List.concat_ne_nil id back)
  rw [List.cons_append, hnext] at hchain
  obtain ⟨-, ⟨hc, -⟩, -⟩ := List.isChain_append_cons_cons.mp hchain
  exact ⟨_, hc⟩

/-- A search goes through no more classes than there are types. -/
theorem SearchPath.length_le (h : graph.SearchPath path id) : path.length ≤ graph.size :=
  length_le_size h.nodup fun _ hm => by
    obtain ⟨_, hc⟩ := h.exists_class hm
    exact mem_ids_of_get? hc

/-- The names that are reported when a class is met again are those along a cycle. -/
theorem SearchPath.namesCycle (h : graph.SearchPath path id) (hid : id ∈ path) :
    graph.NamesCycle (graph.cyclePath path id) := by
  have hclass : ∀ other ∈ path, ∃ shape, graph.get? other = some (.classType shape) :=
    fun other hm => h.exists_class hm
  obtain ⟨front, rest, rfl, hfresh⟩ := List.eq_append_cons_of_mem hid
  have hdrop : (front ++ id :: rest).dropWhile (fun other => other != id) = id :: rest := by
    rw [List.dropWhile_append_of_pos fun other hm => ?_, List.dropWhile_cons_of_neg (by simp)]
    exact bne_iff_ne.mpr fun heq => hfresh (heq ▸ hm)
  refine ⟨id, rest, h.nodup.of_append_right, ?_, ?_⟩
  · have hchain := h.chain
    rw [List.append_assoc] at hchain
    exact hchain.right_of_append
  · rw [cyclePath, hdrop, List.forall₂_map_right_iff, List.forall₂_same]
    intro other hm
    have hother : other ∈ front ++ id :: rest := by
      rcases List.mem_append.mp hm with hm | hm
      · exact List.mem_append_right _ hm
      · rw [List.mem_singleton.mp hm]
        exact hid
    obtain ⟨shape, hc⟩ := hclass other hother
    refine ⟨shape, hc, ?_⟩
    rw [cycleName, displayName?, hc, Option.getD_some]

/-- If searching several classes one after the other fails, searching one of them does. -/
theorem exists_error_of_foldlM {search : List TypeId → TypeId → Except PlanError (List TypeId)}
    {ids done : List TypeId} {e : PlanError} (h : ids.foldlM search done = .error e) :
    ∃ id ∈ ids, ∃ before, search before id = .error e := by
  induction ids generalizing done with
  | nil => cases h
  | cons id rest ih =>
    rw [List.foldlM_cons] at h
    rcases bind_eq_error.mp h with hid | ⟨next, -, hrest⟩
    · exact ⟨id, List.mem_cons_self, done, hid⟩
    · obtain ⟨other, hm, before, hother⟩ := ih hrest
      exact ⟨other, List.mem_cons_of_mem _ hm, before, hother⟩

/-- A search that fails has found a cycle. -/
theorem namesCycle_of_visitWithin {bound : Nat} {done : List TypeId} {e : PlanError}
    (hp : graph.SearchPath path id) (hbound : graph.size < path.length + bound)
    (h : graph.visitWithin bound path id done = .error e) :
    ∃ names, e = .unbreakableCycle names ∧ graph.NamesCycle names := by
  induction bound generalizing path id done with
  | zero => exact absurd hp.length_le (by omega)
  | succ bound ih =>
    unfold visitWithin at h
    split at h
    · cases h
    · split at h
      · rename_i hid
        cases h
        exact ⟨_, rfl, hp.namesCycle hid⟩
      · rename_i hid
        obtain ⟨next, hnext, before, hsearch⟩ :=
          exists_error_of_foldlM (bind_pure_eq_error.mp h)
        refine ih (hp.snoc hid (mem_hardTargets_iff.mp hnext)) ?_ hsearch
        rw [List.length_append, List.length_singleton]
        omega

/-- If the search fails, it has found a cycle. -/
theorem namesCycle_of_checkCycles {entries : List TypeId} {e : PlanError}
    (h : graph.checkCycles entries = .error e) :
    ∃ names, e = .unbreakableCycle names ∧ graph.NamesCycle names := by
  obtain ⟨id, -, before, hsearch⟩ := exists_error_of_foldlM (bind_pure_eq_error.mp h)
  exact namesCycle_of_visitWithin (.start graph id) (by rw [List.length_nil]; omega) hsearch

/-- Names of a cycle are those of a class that demands itself. -/
theorem NamesCycle.exists_cycle {names : List String} (h : graph.NamesCycle names) :
    ∃ id, Relation.TransGen graph.HardEdge id id := by
  obtain ⟨first, rest, -, hchain, -⟩ := h
  obtain ⟨next, more, hnext⟩ := List.exists_cons_of_ne_nil (List.concat_ne_nil first rest)
  rw [List.cons_append, hnext] at hchain
  obtain ⟨hedge, hrest⟩ := List.isChain_cons_cons.mp hchain
  refine ⟨first, .head' hedge ?_⟩
  have hpath := List.relationReflTransGen_of_exists_isChain _ hrest (List.cons_ne_nil _ _)
  have hlast : (next :: more).getLast (List.cons_ne_nil _ _) = first := by
    simp only [← hnext, List.getLast_append_singleton]
  rw [List.head_cons, hlast] at hpath
  exact hpath

/-- The search fails exactly when there is a cycle of hard edges. -/
theorem exists_unbreakableCycle_iff (entries : List TypeId) :
    (∃ names, graph.checkCycles entries = .error (.unbreakableCycle names))
      ↔ ∃ id, Relation.TransGen graph.HardEdge id id := by
  constructor
  · rintro ⟨names, h⟩
    obtain ⟨_, -, hcycle⟩ := namesCycle_of_checkCycles h
    exact hcycle.exists_cycle
  · rintro ⟨id, hcycle⟩
    cases h : graph.checkCycles entries with
    | ok found => exact absurd hcycle (founded_of_checkCycles h id).not_cycle
    | error e =>
      obtain ⟨names, rfl, -⟩ := namesCycle_of_checkCycles h
      exact ⟨names, rfl⟩

end Hydration.TypeGraph
