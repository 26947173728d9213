import Hydration.Proofs.Document.Graph
import Hydration.Proofs.Plan.CycleSearch
import Hydration.Proofs.Plan.Traced

/-!
# Graphs of documents are well founded

A document gives the parts of an expression their types before the expression itself, and
the named types theirs before all expressions. So in its graph every type but a class refers
to types before it, a cycle of references passes through a class, and what follows references
from type to type without entering a class or a union twice comes to an end.
-/

namespace Hydration

open Relation (TransGen)

namespace TypeGraph

/-- Every type but the classes refers to types before it only. -/
def Descends (types : List Ty) : Prop :=
  ∀ id type, TypeAt types id type → (∀ shape, type ≠ .classType shape) →
    ∀ next ∈ type.references, next.index < id.index

namespace Descends

variable {types : List Ty}

/-- A type that refers to types before it is added at the end. -/
theorem concat (h : Descends types) {type : Ty}
    (ht : ∀ next ∈ type.references, next.index < types.length) : Descends (types ++ [type]) := by
  intro id found hfound hclass next hnext
  rcases Nat.lt_or_ge id.index types.length with hlt | hge
  · rw [TypeAt, List.getElem?_append_left hlt] at hfound
    exact h id found hfound hclass next hnext
  · rw [TypeAt, List.getElem?_append_right hge] at hfound
    obtain rfl : type = found := List.mem_singleton.mp (List.mem_of_getElem? hfound) |>.symm
    exact Nat.lt_of_lt_of_le (ht next hnext) hge

/-- What a class refers to does not matter. -/
theorem set_class (h : Descends types) (id : TypeId) (shape : ClassType) :
    Descends (types.set id.index (.classType shape)) := by
  intro other type ht hclass
  by_cases heq : other = id
  · subst heq
    have hlt : other.index < types.length := by
      have hlt := ht.lt
      rwa [List.length_set] at hlt
    have hset : TypeAt (types.set other.index (.classType shape)) other (.classType shape) :=
      List.getElem?_set_self hlt
    cases ht.symm.trans hset
    exact absurd rfl (hclass shape)
  · exact h other type ((typeAt_set_of_ne heq).mp ht) hclass

end Descends

end TypeGraph

namespace GraphDocument

open TypeGraph (TypeAt Descends)
open TypeExpr (primitive?)

variable {named : List (String × TypeId)} {draft draft' : Draft} {expr : TypeExpr} {id : TypeId}

/-- The type of a primitive name refers to nothing. -/
theorem references_of_primitive? {text : String} {type : Ty} (h : primitive? text = some type) :
    type.references = [] := by
  unfold primitive? at h
  split at h <;> cases h <;> rfl

/-- Lowering union members keeps the order if lowering each of them does. -/
theorem descends_of_lowerMembers {members : List TypeExpr} {index : Nat} {location : String}
    {ids : List TypeId} (hn : Names named draft.types.length)
    (hmembers : ∀ member ∈ members, ∀ {draft draft' id location},
      Names named draft.types.length → lowerExpr named member location draft = .ok (id, draft') →
      Descends draft.types → Descends draft'.types)
    (h : lowerMembers named members index location draft = .ok (ids, draft'))
    (hd : Descends draft.types) :
    Descends draft'.types ∧ ∀ id ∈ ids, id.index < draft'.types.length := by
  induction members generalizing index draft ids with
  | nil =>
    cases h
    exact ⟨hd, List.forall_mem_nil _⟩
  | cons member rest ih =>
    rw [List.forall_mem_cons] at hmembers
    obtain ⟨⟨id, draft₁⟩, hfirst, h⟩ := bind_eq_ok.mp h
    obtain ⟨⟨others, draft₂⟩, hrest, h⟩ := bind_eq_ok.mp h
    cases h
    have hlowers := lowers_of_lowerExpr hn hfirst
    have hn₁ : Names named draft₁.types.length := hn.mono hlowers.length_le
    obtain ⟨pairs, hall, -, -⟩ :=
      lowersAll_of_lowerMembers hn₁ (fun _ _ => lowers_of_lowerExpr) hrest
    obtain ⟨hd₂, hothers⟩ := ih hn₁ hmembers.2 hrest (hmembers.1 hn hfirst hd)
    exact ⟨hd₂, List.forall_mem_cons.mpr
      ⟨Nat.lt_of_lt_of_le hlowers.inRange hall.length_le, hothers⟩⟩

/-- Lowering an expression keeps the order: its type comes after those of its parts. -/
theorem descends_of_lowerExpr {location : String} (hn : Names named draft.types.length)
    (h : lowerExpr named expr location draft = .ok (id, draft')) (hd : Descends draft.types) :
    Descends draft'.types := by
  induction expr using TypeExpr.induct generalizing location draft id draft' with
  | ref text =>
    rw [lowerExpr] at h
    cases hp : primitive? text with
    | some type =>
      rw [hp] at h
      cases h
      refine hd.concat fun next hm => ?_
      rw [references_of_primitive? hp] at hm
      cases hm
    | none =>
      rw [hp] at h
      dsimp only at h
      cases hid : Entries.get? text named with
      | none =>
        rw [hid] at h
        cases h
      | some found =>
        rw [hid] at h
        cases h
        exact hd
  | array items ih =>
    obtain ⟨⟨inner, draft₁⟩, hitems, h⟩ := bind_eq_ok.mp h
    cases h
    have hinner := (lowers_of_lowerExpr hn hitems).inRange
    exact (ih hn hitems hd).concat (List.forall_mem_singleton.mpr hinner)
  | map values ih =>
    obtain ⟨⟨inner, draft₁⟩, hvalues, h⟩ := bind_eq_ok.mp h
    cases h
    have hinner := (lowers_of_lowerExpr hn hvalues).inRange
    exact (ih hn hvalues hd).concat (List.forall_mem_singleton.mpr hinner)
  | union members ih =>
    obtain ⟨⟨ids, draft₁⟩, hmembers, h⟩ := bind_eq_ok.mp h
    cases h
    obtain ⟨hd₁, hids⟩ := descends_of_lowerMembers hn ih hmembers hd
    exact hd₁.concat fun next hm => hids next (OrderedSet.mem_ofList.mp hm)
  | transformed kind =>
    cases h
    exact hd.concat (List.forall_mem_nil _)

/-- Lowering expressions in order keeps the order. -/
theorem descends_of_lowerEach {α β : Type} {place : α → String} {written : α → TypeExpr}
    {make : α → TypeId → β} {list : List α} {made : List β} (hn : Names named draft.types.length)
    (h : lowerEach place written make named list draft = .ok (made, draft'))
    (hd : Descends draft.types) : Descends draft'.types := by
  induction list generalizing draft made with
  | nil =>
    cases h
    exact hd
  | cons a rest ih =>
    obtain ⟨⟨id, draft₁⟩, hfirst, h⟩ := bind_eq_ok.mp h
    obtain ⟨⟨others, draft₂⟩, hrest, h⟩ := bind_eq_ok.mp h
    cases h
    exact ih (hn.mono (lowers_of_lowerExpr hn hfirst).length_le) hrest
      (descends_of_lowerExpr hn hfirst hd)

/-- Defining a class changes its type only. -/
theorem types_of_defineClass {fields : OrderedMap String Field}
    (h : draft.defineClass id fields = .ok draft') :
    ∃ shape, draft'.types = draft.types.set id.index (.classType shape) := by
  unfold Draft.defineClass at h
  split at h
  · cases h
    exact ⟨_, rfl⟩
  · cases h

variable {doc : GraphDocument}

/-- Defining the classes keeps the order. -/
theorem Defining.descends {front rest : List (String × NamedType)} (hpos : doc.Positions named)
    (h : Defining doc named front rest draft) (hok : lowerClasses named rest draft = .ok draft')
    (hd : Descends draft.types) : Descends draft'.types := by
  induction rest generalizing front draft with
  | nil =>
    cases hok
    exact hd
  | cons entry rest ih =>
    obtain ⟨name, type⟩ := entry
    cases type with
    | enumDoc cases => exact ih h.skipEnum hok hd
    | classDoc fields =>
      obtain ⟨⟨lowered, draft₁⟩, hf, hok⟩ := bind_eq_ok.mp hok
      obtain ⟨draft₂, hdefine, hnext⟩ := h.nextClass hpos hf
      dsimp only at hok
      rw [hdefine] at hok
      rw [lowerFields_eq] at hf
      have hd₁ := descends_of_lowerEach (hpos.names.mono h.size_le) hf hd
      obtain ⟨shape, htypes⟩ := types_of_defineClass hdefine
      refine ih hnext hok ?_
      rw [htypes]
      exact hd₁.set_class _ shape

/-- The named types are classes and enums. -/
theorem Declared.descends {front : List (String × NamedType)} (h : Declared front named draft) :
    Descends draft.types := by
  intro id type ht hclass
  rw [TypeAt, h.types, List.getElem?_map] at ht
  obtain ⟨⟨name, written⟩, -, rfl⟩ := Option.map_eq_some_iff.mp ht
  cases written with
  | classDoc fields => exact absurd rfl (hclass _)
  | enumDoc cases => exact List.forall_mem_nil _

/-- In the draft of a document every type but the classes refers to types before it. -/
theorem descends_of_lowered (h : doc.lowered = .ok draft) : Descends draft.types := by
  obtain ⟨draft₁, hclasses, h⟩ := bind_eq_ok.mp h
  obtain ⟨⟨entries, draft₂⟩, hentries, h⟩ := bind_eq_ok.mp h
  cases h
  have hdefining := doc.declared.defining
  have hd₁ := hdefining.descends doc.positions hclasses doc.declared.descends
  have hdefined := hdefining.of_lowerClasses doc.positions hclasses
  rw [lowerTopLevels_eq] at hentries
  have hd₂ : Descends draft₂.types :=
    descends_of_lowerEach (doc.positions.names.mono hdefined.size_le) hentries hd₁
  rw [foldl_topLevel]
  exact hd₂

end GraphDocument

namespace TypeGraph

variable {graph : TypeGraph}

/-- The ids of a graph are those that have a type. -/
theorem mem_ids_iff {id : TypeId} : id ∈ graph.ids ↔ ∃ type, graph.get? id = some type := by
  refine ⟨fun h => ?_, fun ⟨_, ht⟩ => mem_ids_of_get? ht⟩
  obtain ⟨index, hindex, rfl⟩ := List.mem_map.mp h
  exact exists_typeAt_iff.mpr (List.mem_range.mp hindex)

/-- What is computed for every element is computed for the list. -/
theorem exists_mapM {α β : Type} {f : α → Option β} {list : List α}
    (h : ∀ a ∈ list, ∃ b, f a = some b) : ∃ results, list.mapM f = some results := by
  induction list with
  | nil => exact ⟨[], rfl⟩
  | cons a rest ih =>
    rw [List.forall_mem_cons] at h
    obtain ⟨b, hb⟩ := h.1
    obtain ⟨results, hrest⟩ := ih h.2
    exact ⟨b :: results, by rw [List.mapM_cons, hb, hrest]; rfl⟩

/-- Every type stands for one: a union of a single member is followed by no other. -/
theorem exists_standsFor? (graph : TypeGraph) (id : TypeId) :
    ∃ target, graph.standsFor? id = some target := by
  by_cases hsingle : ∃ members member, graph.get? id = some (.union members)
      ∧ graph.unionShape members = .single member
  · obtain ⟨members, member, ht, hs⟩ := hsingle
    exact ⟨member, standsFor?_of_single ht hs⟩
  · refine ⟨id, ?_⟩
    unfold standsFor? standsForWithin
    split
    · rename_i members ht
      split
      · rename_i member hs
        exact absurd ⟨members, member, ht, hs⟩ hsingle
      · rfl
    · rfl

section Descends

variable (h : Descends graph.types)
include h

/-- A type that is no class refers to smaller ids only. -/
theorem Descends.refers_lt {id next : TypeId} (hr : graph.Refers id next)
    (hclass : graph.class? id = none) : next.index < id.index := by
  obtain ⟨type, ht, hm⟩ := refers_iff.mp hr
  refine h id type ht (fun shape heq => ?_) next hm
  subst heq
  rw [class?_eq_some_iff.mpr ht] at hclass
  cases hclass

/-- In a descending graph every cycle of references passes through a class or a union of several
members. -/
theorem Descends.grounded : graph.Grounded :=
  grounded_of_lt fun _ _ hr => h.refers_lt hr.1 hr.2.1

/-- No cycle of references leads through types that are no classes alone. -/
theorem Descends.not_cycle (id : TypeId) :
    ¬TransGen (fun id next => graph.Refers id next ∧ graph.class? id = none) id id := by
  have hpath : ∀ {id next},
      TransGen (fun id next => graph.Refers id next ∧ graph.class? id = none) id next →
        next.index < id.index := by
    intro id next hp
    induction hp with
    | single hr => exact h.refers_lt hr.1 hr.2
    | tail _ hr ih => exact Nat.lt_trans (h.refers_lt hr.1 hr.2) ih
  exact fun hcycle => Nat.lt_irrefl _ (hpath hcycle)

/-- The description of a type ends within as many levels as there are types up to it. -/
theorem Descends.exists_describeWithin {bound : Nat} {id : TypeId} {type : Ty}
    (ht : graph.get? id = some type) (hlt : id.index < bound) :
    ∃ text, graph.describeWithin bound id = some text := by
  induction bound generalizing id type with
  | zero => exact absurd hlt (Nat.not_lt_zero _)
  | succ bound ih =>
    have hparts : graph.class? id = none → ∀ next, graph.Refers id next →
        ∃ text, graph.describeWithin bound next = some text := by
      intro hclass next hr
      obtain ⟨inner, hinner⟩ := hr.exists_type
      have hnext := h.refers_lt hr hclass
      exact ih hinner (by omega)
    unfold describeWithin
    rw [ht]
    cases type with
    | array items =>
      obtain ⟨text, htext⟩ := hparts (class?_eq_none ht nofun) items (.items ht)
      dsimp only
      rw [htext]
      exact ⟨_, rfl⟩
    | map values =>
      obtain ⟨text, htext⟩ := hparts (class?_eq_none ht nofun) values (.values ht)
      dsimp only
      rw [htext]
      exact ⟨_, rfl⟩
    | union members =>
      obtain ⟨texts, htexts⟩ := exists_mapM fun member hm =>
        hparts (class?_eq_none ht nofun) member (.member ht hm)
      dsimp only
      rw [htexts]
      exact ⟨_, rfl⟩
    | _ => exact ⟨_, rfl⟩

/-- Every type of a descending graph has a description. -/
theorem Descends.exists_describe? {id : TypeId} {type : Ty} (ht : graph.get? id = some type) :
    ∃ text, graph.describe? id = some text :=
  h.exists_describeWithin ht (Nat.lt_succ_of_lt (TypeAt.lt ht))

end Descends

end TypeGraph

namespace Plan

variable {graph : TypeGraph} {routing : UnionRouting}

/-- No reason to fail is that the walk leaves its bound. -/
theorem Causes.ne_endlessType {P : TypeId → Prop} {error : PlanError}
    (h : Causes graph routing P error) (other : TypeId) : error ≠ .endlessType other := by
  rintro rfl
  cases h

/-- Planning a type of a grounded graph does not exhaust its bound. -/
theorem planType_ne_endlessType (hg : graph.Grounded) (context : Option PlanContext)
    (id other : TypeId) :
    planType graph routing context id State.start ≠ .error (.endlessType other) := by
  intro h
  have hcauses : Causes graph routing (fun _ => True) (.endlessType other) :=
    planType_fails (fun _ _ _ _ => trivial) (fun id _ => hg.ends id) h trivial (sound_start graph)
      rfl
  exact hcauses.ne_endlessType other rfl

/-- Planning entry points of a grounded graph does not exhaust its bound. -/
theorem planEntries_ne_endlessType (hg : graph.Grounded) (entries : List TypeId)
    (other : TypeId) :
    planEntries graph routing entries State.start ≠ .error (.endlessType other) := by
  intro h
  have hcauses : Causes graph routing (fun _ => True) (.endlessType other) :=
    planEntries_fails (fun _ _ _ _ => trivial) (fun id _ => hg.ends id) h (fun _ _ => trivial)
      (sound_start graph) rfl
  exact hcauses.ne_endlessType other rfl

end Plan

/-- The search for cycles stays within its bound on every graph. -/
theorem TypeGraph.checkCycles_ne_endlessType (graph : TypeGraph) (entries : List TypeId)
    (other : TypeId) : graph.checkCycles entries ≠ .error (.endlessType other) := by
  intro h
  obtain ⟨names, heq, -⟩ := namesCycle_of_checkCycles h
  cases heq

namespace Converters

variable {graph : TypeGraph}

/-- A plan of a grounded graph is built without exhausting a bound. -/
theorem build_ne_endlessType (hg : graph.Grounded) (entries : List TypeId)
    (routing : UnionRouting) (other : TypeId) :
    build graph entries routing ≠ .error (.endlessType other) := by
  intro h
  unfold build at h
  split at h
  · cases h
  · rcases bind_eq_error.mp h with hcycles | ⟨-, -, h⟩
    · exact graph.checkCycles_ne_endlessType entries other hcycles
    · exact Plan.planEntries_ne_endlessType hg entries other (bind_pure_eq_error.mp h)

/-- The plan of a union is built without exhausting a bound too. -/
theorem buildUnion_ne_endlessType (hg : graph.Grounded) (union other : TypeId) :
    buildUnion graph union ≠ .error (.endlessType other) := by
  intro h
  rcases bind_eq_error.mp h with hwalk | ⟨⟨rule, state⟩, -, h⟩
  · exact Plan.planType_ne_endlessType hg none union other hwalk
  · dsimp only at h
    split at h <;> cases h

end Converters

namespace GraphDocument

open Converters (build buildUnion tracedBuild)
open Plan (State planType tracedWithin depthBound Enterable)
open TypeGraph (Descends)

/-- The references of a graph are well founded outside classes, and so are the recursions
that follow them: they stay within the bounds that are computed from the graph. -/
structure FoundedOutsideClasses (graph : TypeGraph) : Prop where
  /-- A type that is no class refers to types before it. -/
  descends : ∀ id next, graph.Refers id next → graph.class? id = none → next.index < id.index
  /-- Every cycle of references passes through a class. -/
  cycles : ∀ id, ¬TransGen (fun id next => graph.Refers id next ∧ graph.class? id = none) id id
  /-- The description of a type ends. -/
  described : ∀ id ∈ graph.ids, ∃ text, graph.describe? id = some text
  /-- The chain of unions of a single member ends. -/
  standsFor : ∀ id ∈ graph.ids, ∃ target, graph.standsFor? id = some target
  /-- The search for cycles ends. -/
  searched : ∀ entries other, graph.checkCycles entries ≠ .error (.endlessType other)
  /-- The walk from any type ends. -/
  planned : ∀ routing context id other,
    planType graph routing context id State.start ≠ .error (.endlessType other)
  /-- The building of a plan ends. -/
  built : ∀ entries routing other, build graph entries routing ≠ .error (.endlessType other)
  /-- The building of the plan of a union ends. -/
  unionBuilt : ∀ union other, buildUnion graph union ≠ .error (.endlessType other)
  /-- A walk enters the fields of a class and the members of a union once. -/
  walkedOnce : ∀ routing context id,
    (tracedWithin graph routing (depthBound graph) context id State.start).result
        = planType graph routing context id State.start
      ∧ (tracedWithin graph routing (depthBound graph) context id State.start).entered.Nodup
  /-- Building enters the fields of a class and the members of a union once, and those of
  all that it records if it succeeds. -/
  builtOnce : ∀ entries routing,
    (tracedBuild graph entries routing).result = build graph entries routing
      ∧ (tracedBuild graph entries routing).entered.Nodup
      ∧ (∀ id ∈ (tracedBuild graph entries routing).entered, Enterable graph id)
      ∧ ∀ plan, build graph entries routing = .ok plan → ∀ id,
        id ∈ (tracedBuild graph entries routing).entered
          ↔ id ∈ plan.classes.keys ∨ id ∈ plan.unions.keys

theorem founded_of_descends {graph : TypeGraph} (h : Descends graph.types) :
    FoundedOutsideClasses graph where
  descends _ _ := h.refers_lt
  cycles := h.not_cycle
  described _ hid := by
    obtain ⟨type, ht⟩ := TypeGraph.mem_ids_iff.mp hid
    exact h.exists_describe? ht
  standsFor id _ := graph.exists_standsFor? id
  searched := graph.checkCycles_ne_endlessType
  planned _ := Plan.planType_ne_endlessType h.grounded
  built := Converters.build_ne_endlessType h.grounded
  unionBuilt := Converters.buildUnion_ne_endlessType h.grounded
  walkedOnce routing context id :=
    ⟨congrFun (congrFun (congrFun (Plan.erase_tracedWithin graph routing _) context) id) _,
      (Plan.tracedWithin_once graph routing _ context id _ (Plan.sound_start graph)).nodup⟩
  builtOnce := Converters.entered_once graph

/-- The graph of a document is well founded outside classes. -/
theorem toGraph_founded {doc : GraphDocument} {graph : TypeGraph}
    (h : doc.toGraph = .ok graph) : FoundedOutsideClasses graph := by
  obtain ⟨draft, hlowered, hbuild⟩ := toGraph_eq_ok_iff.mp h
  obtain ⟨-, htypes, -⟩ := Draft.build_eq_ok.mp hbuild
  refine founded_of_descends ?_
  rw [htypes]
  exact descends_of_lowered hlowered

/-- Nodes that hold arrays of colours and nodes lead back to themselves. The walk enters
them and the union once, although they are given twice. -/
theorem toGraph_founded_node :
    (nodeDoc (.array (.union [.name "Color", .name "Node"]))).toGraph = .ok nodeGraph
      ∧ FoundedOutsideClasses nodeGraph
      ∧ TransGen nodeGraph.Refers ⟨0⟩ ⟨0⟩
      ∧ (tracedBuild nodeGraph [⟨0⟩, ⟨0⟩] .codec).entered = [⟨0⟩, ⟨3⟩] := by
  have hgraph : (nodeDoc (.array (.union [.name "Color", .name "Node"]))).toGraph
      = .ok nodeGraph := rfl
  have hrefers : ∀ {id next type}, nodeGraph.get? id = some type → next ∈ type.references →
      nodeGraph.Refers id next :=
    fun ht hm => TypeGraph.refers_iff.mpr ⟨_, ht, hm⟩
  have hcycle : TransGen nodeGraph.Refers ⟨0⟩ ⟨0⟩ :=
    .head (b := ⟨4⟩) (hrefers rfl (by decide)) (.head (b := ⟨3⟩) (hrefers rfl (by decide))
      (.single (hrefers rfl (by decide))))
  exact ⟨hgraph, toGraph_founded hgraph, hcycle, rfl⟩

end GraphDocument

end Hydration
