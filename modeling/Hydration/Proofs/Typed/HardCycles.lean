import Hydration.Proofs.Plan.CycleSearch
import Hydration.Proofs.Plan.Mirror
import Hydration.Proofs.Typed.Inhabitants

/-!
# Cycles that leave classes without documents

The search for cycles is exact: it fails exactly when the hard edges of a graph
close a cycle, wherever that is, and reports one. It has to fail there. Plans that
are made without the search, from a union, show what it prevents: a class on such a
cycle, or one that leads to it along hard edges, takes no document.
-/

namespace Hydration

open Plan (RuleOf)

namespace Converters

variable {graph : TypeGraph} {plan : Converters}

/-- A class that demands one on a cycle takes no document, whatever plan it is in. -/
theorem not_dehydrates_of_cycle (hp : plan.Faithful graph) {id other : TypeId}
    (hreach : Relation.ReflTransGen graph.HardEdge id other)
    (hcycle : Relation.TransGen graph.HardEdge other other) (value : Json) :
    ∃ e, plan.dehydrate id value = .error e := by
  cases hd : plan.dehydrate id value with
  | error e => exact ⟨e, rfl⟩
  | ok typed =>
    have hread := dehydrate_eq_ok.mp hd
    obtain ⟨converter, hfound⟩ : ∃ converter, plan.classes.get? id = some converter := by
      cases reads_iff.mp hread with
      | object ho =>
        obtain ⟨hfound, -⟩ := ho
        exact ⟨_, hfound⟩
    obtain ⟨hc, -⟩ := hp.classes id converter hfound
    have hr : RuleOf graph plan.Records id (.classRef id) :=
      .classRef hc (Or.inl (OrderedMap.mem_keys_iff.mpr ⟨_, hfound⟩))
    have hcontains : ∀ a b, graph.HardEdge a b → graph.Contains a b := fun _ _ => Or.inl
    refine absurd (conforms_of_reads hp hread id hr) ?_
    exact TypeGraph.not_conforms_of_reaches (Relation.ReflTransGen.mono hcontains _ _ hreach)
      (Relation.TransGen.mono hcontains _ _ hcycle) value

end Converters

namespace TypeGraph

/-- The search for cycles fails exactly when the hard edges of the graph close a cycle.
It has no other failure, and the names that it reports are those along a cycle. A class
that leads to a cycle takes no document in a plan made without the search. -/
theorem checkCycles_fails_iff_cycle (graph : TypeGraph) (entries : List TypeId) :
    ((∃ names, graph.checkCycles entries = .error (.unbreakableCycle names))
        ↔ ∃ id, Relation.TransGen graph.HardEdge id id)
      ∧ (∀ e, graph.checkCycles entries = .error e →
          ∃ names, e = .unbreakableCycle names ∧ graph.NamesCycle names)
      ∧ ∀ union plan, Converters.buildUnion graph union = .ok plan →
          ∀ id other, Relation.ReflTransGen graph.HardEdge id other →
            Relation.TransGen graph.HardEdge other other →
            ∀ value, ∃ e, plan.dehydrate id value = .error e := by
  refine ⟨exists_unbreakableCycle_iff entries, fun e h => namesCycle_of_checkCycles h, ?_⟩
  intro union plan hbuild id other hreach hcycle value
  obtain ⟨hp, -⟩ := Converters.faithful_of_buildUnion hbuild
  exact Converters.not_dehydrates_of_cycle hp hreach hcycle value

/-- Two classes demand each other, one of them through a union of it alone; a third one
demands the first, and a union of it and integers has a codec. -/
def ringGraph : TypeGraph where
  types := [
    .classType ⟨"Ring", ⟨[("stone", ⟨⟨1⟩, false⟩)], by decide⟩⟩,
    .classType ⟨"Stone", ⟨[("ring", ⟨⟨2⟩, false⟩)], by decide⟩⟩,
    .union ⟨[⟨0⟩], by decide⟩,
    .classType ⟨"Box", ⟨[("ring", ⟨⟨0⟩, false⟩), ("note", ⟨⟨4⟩, true⟩)], by decide⟩⟩,
    .integer,
    .union ⟨[⟨3⟩, ⟨4⟩], by decide⟩]
  topLevels := OrderedMap.empty
  sound := by decide

/-- The plan for the union. -/
def ringPlan : Converters where
  entries := []
  classes := ⟨[
    (⟨1⟩, ⟨⟨1⟩, "Stone", [⟨"ring", false, .classRef ⟨0⟩⟩]⟩),
    (⟨0⟩, ⟨⟨0⟩, "Ring", [⟨"stone", false, .classRef ⟨1⟩⟩]⟩),
    (⟨3⟩, ⟨⟨3⟩, "Box", [⟨"ring", false, .classRef ⟨0⟩⟩, ⟨"note", true, .copy .integer⟩]⟩)],
    by decide⟩
  enums := OrderedMap.empty
  unions := ⟨[(⟨5⟩, { UnionCodec.blank ⟨5⟩ with
    integer := true, classMember := some ⟨3⟩ })], by decide⟩

/-- The search that starts at the box reports the ring, and the plan that is made without
it takes no box. -/
theorem checkCycles_fails_at_ring :
    ringGraph.checkCycles [⟨3⟩] = .error (.unbreakableCycle ["Ring", "Stone", "Ring"])
      ∧ ringGraph.NamesCycle ["Ring", "Stone", "Ring"]
      ∧ Converters.buildUnion ringGraph ⟨5⟩ = .ok ringPlan
      ∧ ∀ value, ∃ e, ringPlan.dehydrate ⟨3⟩ value = .error e := by
  have hsearch : ringGraph.checkCycles [⟨3⟩]
      = .error (.unbreakableCycle ["Ring", "Stone", "Ring"]) := rfl
  have hbuild : Converters.buildUnion ringGraph ⟨5⟩ = .ok ringPlan := rfl
  obtain ⟨-, hnames, hplans⟩ := checkCycles_fails_iff_cycle ringGraph [⟨3⟩]
  obtain ⟨names, heq, hcycle⟩ := hnames _ hsearch
  cases heq
  have hring : ringGraph.HardEdge ⟨0⟩ ⟨1⟩ := .intro rfl List.mem_cons_self rfl (.refl rfl)
  have hstone : ringGraph.HardEdge ⟨1⟩ ⟨0⟩ :=
    .intro rfl List.mem_cons_self rfl (.single rfl rfl rfl)
  have hbox : ringGraph.HardEdge ⟨3⟩ ⟨0⟩ := .intro rfl List.mem_cons_self rfl (.refl rfl)
  exact ⟨hsearch, hcycle, hbuild, hplans ⟨5⟩ ringPlan hbuild ⟨3⟩ ⟨0⟩ (.single hbox)
    (.tail (.single hring) hstone)⟩

end TypeGraph

end Hydration
