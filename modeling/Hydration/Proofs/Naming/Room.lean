import Hydration.Proofs.Naming.LeftToRight
import Hydration.Proofs.Naming.Plain
import Mathlib.Data.List.Dedup

/-!
# Room for names

A name cannot take the words that are forbidden around it and the texts of the names
before it there. With numeric suffixes its attempts are distinct, so it gets a text as
long as there are fewer of these than attempts. Names of a graph are therefore refused
only if a scope with those around it holds as many names and reserved words as there are
attempts.
-/

namespace Hydration

namespace NameRegistry

/-- The number of distinct words that are forbidden in a scope or around it and of the
names, among a number of first ones, that are registered there. -/
def crowd (registry : NameRegistry) (count : Nat) (scope : ScopeId) : Nat :=
  (registry.forbiddenIn (registry.chain scope)).dedup.length
    + ((registry.names.take count).filter
        fun entry => decide (entry.scope ∈ registry.chain scope)).length

variable {registry : NameRegistry} {policy : NamingPolicy} {assigned : List AssignedName}

/-- More names are not less crowded. -/
theorem crowd_le_crowd_size (registry : NameRegistry) (count : Nat) (scope : ScopeId) :
    registry.crowd count scope ≤ registry.crowd registry.size scope := by
  rw [crowd, crowd, size, List.take_length]
  have hle := ((List.take_sublist count registry.names).filter
    fun entry => decide (entry.scope ∈ registry.chain scope)).length_le
  omega

/-- Assigned names have the scopes of the registered ones. -/
theorem Greedy.map_scope (hg : registry.Greedy policy assigned) :
    assigned.map AssignedName.scope
      = (registry.names.take assigned.length).map NameEntry.scope := by
  induction hg with
  | nil => rw [List.length_nil, List.take_zero, List.map_nil, List.map_nil]
  | @snoc assigned entry text hg he hp ih =>
    rw [List.map_append, ih, List.map_singleton, List.length_append, List.length_singleton,
      List.take_add_one, he, Option.toList_some, List.map_append, List.map_singleton]

/-- There are as many texts taken in some scopes as names registered there. -/
theorem Greedy.length_takenIn (hg : registry.Greedy policy assigned) (scopes : List ScopeId) :
    (takenIn scopes assigned).length
      = ((registry.names.take assigned.length).filter
          fun entry => decide (entry.scope ∈ scopes)).length := by
  have hcount := congrArg (List.countP fun scope => decide (scope ∈ scopes)) hg.map_scope
  rw [List.countP_map, List.countP_map, List.countP_eq_length_filter,
    List.countP_eq_length_filter] at hcount
  rw [takenIn, List.length_map]
  exact hcount

/-- With numeric suffixes, a name gets no text only in a crowd of as many texts as there
are attempts. -/
theorem Greedy.maxAttempts_le_crowd (hg : registry.Greedy policy assigned)
    (hd : policy.disambiguate = NamingPolicy.numericSuffix) {name : NameId} {entry : NameEntry}
    {e : NamingError} (h : registry.assign policy assigned name entry = .error e) :
    policy.maxAttempts ≤ registry.crowd assigned.length entry.scope := by
  obtain ⟨hnone, -⟩ := assign_eq_error.mp h
  have hused := firstFree_eq_none_iff.mp hnone
  have hle := NamingPolicy.maxAttempts_le_length hd
    ((registry.forbiddenIn (registry.chain entry.scope)).dedup
      ++ takenIn (registry.chain entry.scope) assigned) fun index hindex => by
    rw [List.mem_append, List.mem_dedup]
    by_contra hfree
    rw [not_or] at hfree
    exact Bool.eq_false_iff.mp (hused index hindex) (isFree_iff.mpr ⟨hfree.2, hfree.1⟩)
  rwa [List.length_append, hg.length_takenIn] at hle

/-- With numeric suffixes, a resolution fails only at a name with a crowd of as many texts
as there are attempts. -/
theorem exists_crowd_of_resolve (hw : registry.WellFormed)
    (hd : policy.disambiguate = NamingPolicy.numericSuffix) {e : NamingError}
    (h : registry.resolve policy = .error e) :
    ∃ index entry, registry.names[index]? = some entry
      ∧ policy.maxAttempts ≤ registry.crowd index entry.scope := by
  obtain ⟨before, entry, hg, he, hfailed⟩ := (resolve_eq_error_iff hw).mp h
  exact ⟨before.length, entry, he, hg.maxAttempts_le_crowd hd hfailed⟩

end NameRegistry

open NameRegistry

/-- With numeric suffixes, names are resolved as long as each has fewer forbidden words and
earlier names around it than there are attempts. The names of a graph are refused only if a
scope of it with those around holds a thousand names and reserved words. -/
theorem NamingPolicy.resolves_of_room :
    (∀ (policy : NamingPolicy) (registry : NameRegistry), registry.Built →
      policy.disambiguate = numericSuffix →
      (∀ index entry, registry.names[index]? = some entry →
        registry.crowd index entry.scope < policy.maxAttempts) →
      ∃ texts, registry.resolve policy = .ok texts)
    ∧ ∀ (policy : NamingPolicy) (graph : TypeGraph), policy ∈ [rust, typescript] →
      (∃ names, GraphNames.resolve graph policy = .ok names)
        ∨ ∃ scope, (NameAssignment.ofGraph graph policy).registry.HasScope scope
          ∧ 1000 ≤ (NameAssignment.ofGraph graph policy).registry.crowd
              (NameAssignment.ofGraph graph policy).registry.size scope := by
  constructor
  · intro policy registry hb hd hroom
    cases h : registry.resolve policy with
    | ok texts => exact ⟨texts, rfl⟩
    | error e =>
      obtain ⟨index, entry, he, hcrowd⟩ := exists_crowd_of_resolve hb.wellFormed hd h
      exact absurd (hroom index entry he) (Nat.not_lt.mpr hcrowd)
  · intro policy graph hpolicy
    obtain ⟨hd, hattempts⟩ : policy.disambiguate = numericSuffix ∧ policy.maxAttempts = 1000 := by
      rcases List.mem_pair.mp hpolicy with rfl | rfl <;> exact ⟨rfl, rfl⟩
    cases h : GraphNames.resolve graph policy with
    | ok names => exact Or.inl ⟨names, rfl⟩
    | error e =>
      have hw := (GraphNames.ofGraph_grows graph policy).wellFormed
      obtain ⟨index, entry, he, hcrowd⟩ :=
        exists_crowd_of_resolve hw hd (bind_pure_eq_error.mp h)
      refine Or.inr ⟨entry.scope, hw.scopes index entry he, ?_⟩
      rw [← hattempts]
      exact Nat.le_trans hcrowd (crowd_le_crowd_size _ _ _)

/-- No styling, and five texts for each name. -/
def fiveAttempts : NamingPolicy := { NamingPolicy.verbatim with maxAttempts := 5 }

/-- Five attempts are enough for a nested registry, where the getter of the property has a
crowd of four texts. -/
theorem NamingPolicy.resolves_of_room_nested :
    nestedRegistry.Built
      ∧ (∀ index entry, nestedRegistry.names[index]? = some entry →
        nestedRegistry.crowd index entry.scope < fiveAttempts.maxAttempts)
      ∧ (∃ texts, nestedRegistry.resolve fiveAttempts = .ok texts)
      ∧ ∃ names, GraphNames.resolve GraphNames.itemGraph .rust = .ok names := by
  have hall : ∀ position ∈ nestedRegistry.names.zipIdx,
      nestedRegistry.crowd position.2 position.1.scope < 5 := by decide +kernel
  have hroom : ∀ index entry, nestedRegistry.names[index]? = some entry →
      nestedRegistry.crowd index entry.scope < fiveAttempts.maxAttempts :=
    fun index entry he => hall (entry, index) (List.mem_zipIdx_iff_getElem?.mpr he)
  obtain ⟨hregistries, hgraphs⟩ := NamingPolicy.resolves_of_room
  refine ⟨nestedRegistry_built, hroom,
    hregistries fiveAttempts nestedRegistry nestedRegistry_built rfl hroom, ?_⟩
  rcases hgraphs .rust GraphNames.itemGraph List.mem_cons_self with hnames | ⟨scope, hs, hcrowd⟩
  · exact hnames
  · have hsmall : ∀ index < 3, (NameAssignment.ofGraph GraphNames.itemGraph .rust).registry.crowd
        (NameAssignment.ofGraph GraphNames.itemGraph .rust).registry.size ⟨index⟩ < 1000 := by
      decide +kernel
    exact absurd hcrowd (Nat.not_le.mpr (hsmall scope.index hs))

end Hydration
