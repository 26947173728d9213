import Hydration.Proofs.Plan.Mirror

/-!
# The two routings of unions

A plan without codecs is a plan with codecs that happens to have none. The walk that
has codecs and the walk that rejects unions take the same steps until the first union
of several members. There the second one fails, and the field it blames is one whose
type leads to that union without passing through a class.
-/

namespace Hydration

open Relation (ReflTransGen)

namespace TypeGraph

/-- A union of several members that a type leads to through arrays, maps and the
unions that stand for a member or make one nullable. -/
structure Exposes (graph : TypeGraph) (id union : TypeId) : Prop where
  /-- No class and no other union of several members stands between. -/
  path : ReflTransGen graph.RefersInside id union
  /-- The union has several members. -/
  several : graph.IsTrueUnion union

/-- What is blamed for a union to which the walk from a type comes in a context. -/
inductive Blames (graph : TypeGraph) (context : Option PlanContext) (id union : TypeId) :
    Option PlanContext → Prop where
  /-- The type itself leads to the union. -/
  | here (h : graph.Exposes id union) : Blames graph context id union context
  /-- A field of a class that the type reaches leads to the union. -/
  | field {owner : TypeId} {shape : ClassType} {entry : String × Field}
      (hr : ReflTransGen graph.Refers id owner)
      (ht : graph.get? owner = some (.classType shape)) (he : entry ∈ shape.fields.entries)
      (h : graph.Exposes entry.2.type union) :
      Blames graph context id union (some ⟨shape.name, entry.1⟩)

variable {graph : TypeGraph} {context blamed : Option PlanContext} {id next union : TypeId}

/-- What is blamed from a type inside is blamed from the type. -/
theorem Blames.of_inside (hr : graph.RefersInside id next)
    (h : graph.Blames context next union blamed) : graph.Blames context id union blamed := by
  cases h with
  | here h => exact .here ⟨.head hr h.path, h.several⟩
  | field hpath ht he h => exact .field (.head hr.1 hpath) ht he h

/-- What is blamed from a field of a class is blamed from the class. -/
theorem Blames.of_field {shape : ClassType} {entry : String × Field}
    (ht : graph.get? id = some (.classType shape)) (he : entry ∈ shape.fields.entries)
    (h : graph.Blames (some ⟨shape.name, entry.1⟩) entry.2.type union blamed) :
    graph.Blames context id union blamed := by
  cases h with
  | here h => exact .field .refl ht he h
  | field hpath ht' he' h => exact .field (.head (.field ht he) hpath) ht' he' h

/-- From a class only a field is blamed. -/
theorem Blames.exists_field {shape : ClassType} (ht : graph.get? id = some (.classType shape))
    (h : graph.Blames context id union blamed) :
    ∃ owner shape' entry, ReflTransGen graph.Refers id owner
      ∧ graph.get? owner = some (.classType shape') ∧ entry ∈ shape'.fields.entries
      ∧ graph.Exposes entry.2.type union ∧ blamed = some ⟨shape'.name, entry.1⟩ := by
  cases h with
  | here h =>
    rcases h.path.cases_head with rfl | ⟨next, hnext, -⟩
    · exact absurd h.several (not_isTrueUnion ht (by simp))
    · have hclass := hnext.2.1
      rw [class?_eq_some_iff.mpr ht] at hclass
      cases hclass
  | field hpath ht' he h => exact ⟨_, _, _, hpath, ht', he, h, rfl⟩

end TypeGraph

namespace Plan

variable {graph : TypeGraph} {state state' : State}

/-- What one planner plans, another one plans alike unless it fails at a union of
several members. -/
def Planner.Follows (graph : TypeGraph) (strict plan : Planner) : Prop :=
  ∀ {context : Option PlanContext} {id : TypeId} {state : State} {result : Rule × State},
    plan context id state = .ok result →
      strict context id state = .ok result
      ∨ ∃ union blamed,
        strict context id state = .error (.unionInStructuralConverter union blamed)
          ∧ graph.Blames context id union blamed

/-- What one planner plans, another one plans alike, and no codec is recorded. -/
def Planner.Refines (strict plan : Planner) : Prop :=
  ∀ {context : Option PlanContext} {id : TypeId} {state state' : State} {rule : Rule},
    strict context id state = .ok (rule, state') →
      plan context id state = .ok (rule, state')
        ∧ state'.converters.unions = state.converters.unions

section Fields

variable {strict plan : Planner} {className : String} {entries : List (String × Field)}

/-- Fields are planned alike, or one of them leads to a union of several members. -/
theorem planFields_follows (hplan : strict.Follows graph plan)
    {result : List FieldConverter × State}
    (h : planFields plan className entries state = .ok result) :
    planFields strict className entries state = .ok result
      ∨ ∃ entry ∈ entries, ∃ union blamed,
        planFields strict className entries state
            = .error (.unionInStructuralConverter union blamed)
          ∧ graph.Blames (some ⟨className, entry.1⟩) entry.2.type union blamed := by
  induction entries generalizing state result with
  | nil => exact Or.inl h
  | cons entry rest ih =>
    obtain ⟨key, field⟩ := entry
    obtain ⟨⟨rule, state₁⟩, hfirst, h⟩ := bind_eq_ok.mp h
    obtain ⟨⟨others, state₂⟩, hrest, h⟩ := bind_eq_ok.mp h
    rcases hplan hfirst with hsame | ⟨union, blamed, hfails, hblames⟩
    · rcases ih hrest with hothers | ⟨entry, hm, union, blamed, hfails, hblames⟩
      · exact Or.inl (bind_eq_ok.mpr ⟨_, hsame, bind_eq_ok.mpr ⟨_, hothers, h⟩⟩)
      · have herror : planFields strict className ((key, field) :: rest) state
            = .error (.unionInStructuralConverter union blamed) :=
          bind_eq_error.mpr (Or.inr ⟨_, hsame, bind_eq_error.mpr (Or.inl hfails)⟩)
        exact Or.inr ⟨entry, List.mem_cons_of_mem _ hm, union, blamed, herror, hblames⟩
    · exact Or.inr ⟨_, List.mem_cons_self, union, blamed, bind_eq_error.mpr (Or.inl hfails),
        hblames⟩

/-- Fields that are planned without codecs are planned alike with them. -/
theorem planFields_refines (hplan : strict.Refines plan) {fields : List FieldConverter}
    (h : planFields strict className entries state = .ok (fields, state')) :
    planFields plan className entries state = .ok (fields, state')
      ∧ state'.converters.unions = state.converters.unions := by
  induction entries generalizing state fields with
  | nil =>
    cases h
    exact ⟨rfl, rfl⟩
  | cons entry rest ih =>
    obtain ⟨key, field⟩ := entry
    obtain ⟨⟨rule, state₁⟩, hfirst, h⟩ := bind_eq_ok.mp h
    obtain ⟨⟨others, state₂⟩, hrest, h⟩ := bind_eq_ok.mp h
    cases h
    obtain ⟨hsame, hunions⟩ := hplan hfirst
    obtain ⟨hothers, hunions'⟩ := ih hrest
    exact ⟨bind_eq_ok.mpr ⟨_, hsame, bind_eq_ok.mpr ⟨_, hothers, rfl⟩⟩, hunions'.trans hunions⟩

end Fields

/-- Recording an enum leaves the unions. -/
theorem unions_recordEnum (state : State) (id : TypeId) (shape : EnumType) :
    (state.recordEnum id shape).converters.unions = state.converters.unions := by
  unfold State.recordEnum
  split <;> rfl

section Walk

/-- The two walks take the same steps until one of them comes to a union of several
members. -/
theorem planWithin_follows (graph : TypeGraph) (bound : Nat) :
    (planWithin graph .reject bound).Follows graph (planWithin graph .codec bound) := by
  induction bound with
  | zero =>
    intro context id state result h
    cases h
  | succ bound ih =>
    intro context id state ⟨rule, state'⟩ h
    have hinside : ∀ {next result'}, graph.RefersInside id next →
        planWithin graph .codec bound context next state = .ok result' →
        (∀ error, planWithin graph .reject bound context next state = .error error →
          planWithin graph .reject (bound + 1) context id state = .error error) →
        planWithin graph .reject bound context next state = .ok result'
          ∨ ∃ union blamed, planWithin graph .reject (bound + 1) context id state
              = .error (.unionInStructuralConverter union blamed)
            ∧ graph.Blames context id union blamed := by
      intro next result' hr hplan herror
      rcases ih hplan with hsame | ⟨union, blamed, hfails, hblames⟩
      · exact Or.inl hsame
      · exact Or.inr ⟨union, blamed, herror _ hfails, hblames.of_inside hr⟩
    cases planWithin_succ_eq_ok.mp h with
    | any ht => exact Or.inl (Step.planWithin_eq (.any ht))
    | null ht => exact Or.inl (Step.planWithin_eq (.null ht))
    | bool ht => exact Or.inl (Step.planWithin_eq (.bool ht))
    | integer ht => exact Or.inl (Step.planWithin_eq (.integer ht))
    | double ht => exact Or.inl (Step.planWithin_eq (.double ht))
    | string ht => exact Or.inl (Step.planWithin_eq (.string ht))
    | transformed ht => exact Or.inl (Step.planWithin_eq (.transformed ht))
    | knownClass ht hknown => exact Or.inl (Step.planWithin_eq (.knownClass ht hknown))
    | enumType ht => exact Or.inl (Step.planWithin_eq (.enumType ht))
    | nullOnly ht hshape => exact Or.inl (Step.planWithin_eq (.nullOnly ht hshape))
    | array ht hitems =>
      refine (hinside (TypeGraph.refersInside_items ht) hitems ?_).imp_left fun hi => ?_
      · exact fun error h => Stops.planWithin_eq (.items ht h)
      · exact Step.planWithin_eq (.array ht hi)
    | map ht hvalues =>
      refine (hinside (TypeGraph.refersInside_values ht) hvalues ?_).imp_left fun hv => ?_
      · exact fun error h => Stops.planWithin_eq (.values ht h)
      · exact Step.planWithin_eq (.map ht hv)
    | single ht hshape hmember =>
      have hr := TypeGraph.refersInside_member ht (Or.inl hshape)
      refine (hinside hr hmember ?_).imp_left fun hm => ?_
      · exact fun error h => Stops.planWithin_eq (.member ht (Or.inl hshape) h)
      · exact Step.planWithin_eq (.single ht hshape hm)
    | nullable ht hshape hmember =>
      have hr := TypeGraph.refersInside_member ht (Or.inr hshape)
      refine (hinside hr hmember ?_).imp_left fun hm => ?_
      · exact fun error h => Stops.planWithin_eq (.member ht (Or.inr hshape) h)
      · exact Step.planWithin_eq (.nullable ht hshape hm)
    | newClass ht hnew hfields =>
      rcases planFields_follows ih hfields with hf | ⟨entry, he, union, blamed, hfails, hblames⟩
      · exact Or.inl (Step.planWithin_eq (.newClass ht hnew hf))
      · exact Or.inr ⟨union, blamed, Stops.planWithin_eq (.fields ht hnew hfails),
          hblames.of_field ht he⟩
    | knownUnion ht hshape _ _ | newUnion ht hshape _ _ _ =>
      exact Or.inr ⟨id, context, Stops.planWithin_eq (.rejected ht hshape rfl),
        .here ⟨.refl, _, _, ht, hshape⟩⟩

/-- What is planned without codecs is planned alike with them. -/
theorem planWithin_refines (graph : TypeGraph) (bound : Nat) :
    (planWithin graph .reject bound).Refines (planWithin graph .codec bound) := by
  induction bound with
  | zero =>
    intro context id state state' rule h
    cases h
  | succ bound ih =>
    intro context id state state' rule h
    cases planWithin_succ_eq_ok.mp h with
    | any ht => exact ⟨Step.planWithin_eq (.any ht), rfl⟩
    | null ht => exact ⟨Step.planWithin_eq (.null ht), rfl⟩
    | bool ht => exact ⟨Step.planWithin_eq (.bool ht), rfl⟩
    | integer ht => exact ⟨Step.planWithin_eq (.integer ht), rfl⟩
    | double ht => exact ⟨Step.planWithin_eq (.double ht), rfl⟩
    | string ht => exact ⟨Step.planWithin_eq (.string ht), rfl⟩
    | transformed ht => exact ⟨Step.planWithin_eq (.transformed ht), rfl⟩
    | knownClass ht hknown => exact ⟨Step.planWithin_eq (.knownClass ht hknown), rfl⟩
    | enumType ht => exact ⟨Step.planWithin_eq (.enumType ht), unions_recordEnum _ _ _⟩
    | nullOnly ht hshape => exact ⟨Step.planWithin_eq (.nullOnly ht hshape), rfl⟩
    | array ht hitems => exact ⟨Step.planWithin_eq (.array ht (ih hitems).1), (ih hitems).2⟩
    | map ht hvalues => exact ⟨Step.planWithin_eq (.map ht (ih hvalues).1), (ih hvalues).2⟩
    | single ht hshape hmember =>
      exact ⟨Step.planWithin_eq (.single ht hshape (ih hmember).1), (ih hmember).2⟩
    | nullable ht hshape hmember =>
      exact ⟨Step.planWithin_eq (.nullable ht hshape (ih hmember).1), (ih hmember).2⟩
    | newClass ht hnew hfields =>
      obtain ⟨hf, hunions⟩ := planFields_refines ih hfields
      exact ⟨Step.planWithin_eq (.newClass ht hnew hf), hunions⟩
    | knownUnion _ _ hrouting _ | newUnion _ _ hrouting _ _ => cases hrouting

end Walk

/-- Entries are planned alike, or one of them reaches a field that leads to a union of
several members. -/
theorem planEntries_follows {entries : List TypeId}
    (h : planEntries graph .codec entries state = .ok state') :
    planEntries graph .reject entries state = .ok state'
      ∨ ∃ entry ∈ entries, ∃ union blamed,
        planEntries graph .reject entries state
            = .error (.unionInStructuralConverter union blamed)
          ∧ graph.Blames none entry union blamed := by
  induction entries generalizing state with
  | nil => exact Or.inl h
  | cons entry rest ih =>
    obtain ⟨⟨rule, state₁⟩, hfirst, hrest⟩ := bind_eq_ok.mp h
    rcases planWithin_follows graph _ hfirst with hsame | ⟨union, blamed, hfails, hblames⟩
    · rcases ih hrest with hothers | ⟨other, hm, union, blamed, hfails, hblames⟩
      · exact Or.inl (bind_eq_ok.mpr ⟨_, hsame, hothers⟩)
      · exact Or.inr ⟨other, List.mem_cons_of_mem _ hm, union, blamed,
          bind_eq_error.mpr (Or.inr ⟨_, hsame, hfails⟩), hblames⟩
    · exact Or.inr ⟨entry, List.mem_cons_self, union, blamed,
        bind_eq_error.mpr (Or.inl hfails), hblames⟩

/-- Entries that are planned without codecs are planned alike with them. -/
theorem planEntries_refines {entries : List TypeId}
    (h : planEntries graph .reject entries state = .ok state') :
    planEntries graph .codec entries state = .ok state'
      ∧ state'.converters.unions = state.converters.unions := by
  induction entries generalizing state with
  | nil =>
    cases h
    exact ⟨rfl, rfl⟩
  | cons entry rest ih =>
    obtain ⟨⟨rule, state₁⟩, hfirst, hrest⟩ := bind_eq_ok.mp h
    obtain ⟨hsame, hunions⟩ := planWithin_refines graph _ hfirst
    obtain ⟨hothers, hunions'⟩ := ih hrest
    exact ⟨bind_eq_ok.mpr ⟨_, hsame, hothers⟩, hunions'.trans hunions⟩

end Plan

namespace Converters

open Plan (State)

variable {graph : TypeGraph} {entries : List TypeId} {plan : Converters}

/-- A plan that is built without codecs is built with them, and it has none. -/
theorem build_codec_of_reject (h : build graph entries .reject = .ok plan) :
    build graph entries .codec = .ok plan ∧ plan.unions.keys = [] := by
  obtain ⟨hentries, hcycles, state, hstate, rfl⟩ := build_eq_ok.mp h
  obtain ⟨hsame, hunions⟩ := Plan.planEntries_refines hstate
  refine ⟨build_eq_ok.mpr ⟨hentries, hcycles, state, hsame, rfl⟩, ?_⟩
  exact congrArg OrderedMap.keys hunions

/-- Classes without a refused cycle fail to build as their walk does. -/
theorem build_eq_error {routing : UnionRouting} {error : PlanError}
    (hentries : ∀ entry ∈ entries, ∃ shape, graph.get? entry = some (.classType shape))
    (hcycles : graph.checkCycles entries = .ok ())
    (h : Plan.planEntries graph routing entries State.start = .error error) :
    build graph entries routing = .error error := by
  have hclasses : entries.find? (fun entry => (graph.class? entry).isNone) = none := by
    refine List.find?_eq_none.mpr fun entry hm => ?_
    obtain ⟨shape, ht⟩ := hentries entry hm
    rw [TypeGraph.class?_eq_some_iff.mpr ht]
    exact Bool.false_ne_true
  unfold build
  rw [hclasses]
  exact bind_eq_error.mpr (Or.inr ⟨(), hcycles, bind_eq_error.mpr (Or.inl h)⟩)

/-- A field of a reached class leads to a union of several members without passing
through another class. -/
inductive BlamedFor (graph : TypeGraph) (entries : List TypeId) (union : TypeId) :
    PlanContext → Prop where
  /-- The field is named with the display name of its class. -/
  | intro {owner : TypeId} {shape : ClassType} {entry : String × Field}
      (hr : graph.Reaches entries owner) (ht : graph.get? owner = some (.classType shape))
      (he : entry ∈ shape.fields.entries) (h : graph.Exposes entry.2.type union) :
      BlamedFor graph entries union ⟨shape.name, entry.1⟩

/-- A blamed union is reached from the entries. -/
theorem BlamedFor.reaches {union : TypeId} {context : PlanContext}
    (h : BlamedFor graph entries union context) : graph.Reaches entries union := by
  obtain ⟨hr, ht, he, h⟩ := h
  obtain ⟨start, hs, hpath⟩ := hr
  have hinside : ReflTransGen graph.Refers _ union :=
    ReflTransGen.mono (fun _ _ hr => hr.1) _ _ h.path
  exact ⟨start, hs, (hpath.tail (.field ht he)).trans hinside⟩

/-- A blamed union has several members. -/
theorem BlamedFor.isTrueUnion {union : TypeId} {context : PlanContext}
    (h : BlamedFor graph entries union context) : graph.IsTrueUnion union := by
  obtain ⟨-, -, -, h⟩ := h
  exact h.several

/-- A plan with codecs is a plan without them, or there is none without them and a field
is to blame. -/
theorem build_reject_of_codec (h : build graph entries .codec = .ok plan) :
    build graph entries .reject = .ok plan
      ∨ ∃ union context,
        build graph entries .reject = .error (.unionInStructuralConverter union (some context))
          ∧ BlamedFor graph entries union context := by
  obtain ⟨hentries, hcycles, state, hstate, rfl⟩ := build_eq_ok.mp h
  rcases Plan.planEntries_follows hstate with hsame | ⟨entry, hm, union, blamed, hfails, hblames⟩
  · exact Or.inl (build_eq_ok.mpr ⟨hentries, hcycles, state, hsame, rfl⟩)
  · obtain ⟨shape, ht⟩ := hentries entry hm
    obtain ⟨owner, shape', field, hpath, howner, hf, hexposes, rfl⟩ := hblames.exists_field ht
    exact Or.inr ⟨union, _, build_eq_error hentries hcycles hfails,
      .intro ⟨entry, hm, hpath⟩ howner hf hexposes⟩

/-- The plans without codecs are the plans with codecs that have none. If a plan has
codecs, rejecting unions fails at a union of several members that the entries reach, and
it blames a field of a reached class whose type leads to that union without passing
through another class. -/
theorem build_reject_iff (graph : TypeGraph) (entries : List TypeId) :
    (∀ plan, build graph entries .reject = .ok plan
      ↔ build graph entries .codec = .ok plan ∧ plan.unions.keys = [])
    ∧ ∀ plan, build graph entries .codec = .ok plan → plan.unions.keys ≠ [] →
      ∃ union context,
        build graph entries .reject = .error (.unionInStructuralConverter union (some context))
          ∧ graph.Reaches entries union ∧ graph.IsTrueUnion union
          ∧ BlamedFor graph entries union context := by
  refine ⟨fun plan => ⟨build_codec_of_reject, ?_⟩, fun plan h hunions => ?_⟩
  · rintro ⟨h, hunions⟩
    rcases build_reject_of_codec h with hreject | ⟨union, context, -, hblamed⟩
    · exact hreject
    · have hkey := ((mirrors_of_build h).unionKeys union).mpr ⟨hblamed.reaches, hblamed.isTrueUnion⟩
      rw [hunions] at hkey
      cases hkey
  · rcases build_reject_of_codec h with hreject | ⟨union, context, hfails, hblamed⟩
    · exact absurd (build_codec_of_reject hreject).2 hunions
    · exact ⟨union, context, hfails, hblamed.reaches, hblamed.isTrueUnion, hblamed⟩

/-- An order has two lines and, perhaps, totals that are texts or integers. -/
def orderGraph : TypeGraph where
  types := [
    .string,
    .integer,
    .union (.ofList [⟨0⟩, ⟨1⟩]),
    .array ⟨2⟩,
    .null,
    .union (.ofList [⟨4⟩, ⟨3⟩]),
    .classType ⟨"Line", ⟨[("text", ⟨⟨0⟩, false⟩)], by decide⟩⟩,
    .classType ⟨"Order", ⟨[("first", ⟨⟨6⟩, false⟩), ("second", ⟨⟨6⟩, true⟩),
      ("totals", ⟨⟨5⟩, false⟩)], by decide⟩⟩]
  topLevels := OrderedMap.empty
  sound := by decide

/-- The converter of lines. -/
def lineConverter : ClassConverter := ⟨⟨6⟩, "Line", [⟨"text", false, .copy .string⟩]⟩

/-- The plan for lines. -/
def linePlan : Converters where
  entries := [⟨6⟩]
  classes := ⟨[(⟨6⟩, lineConverter)], by decide⟩
  enums := OrderedMap.empty
  unions := OrderedMap.empty

/-- The plan for orders. -/
def orderPlan : Converters where
  entries := [⟨7⟩]
  classes := ⟨[(⟨6⟩, lineConverter), (⟨7⟩, ⟨⟨7⟩, "Order", [⟨"first", false, .classRef ⟨6⟩⟩,
    ⟨"second", true, .classRef ⟨6⟩⟩,
    ⟨"totals", false, .nullable (.array (.unionRef ⟨2⟩))⟩]⟩)], by decide⟩
  enums := OrderedMap.empty
  unions := ⟨[(⟨2⟩, { UnionCodec.blank ⟨2⟩ with string := some .plain, integer := true })],
    by decide⟩

/-- Lines have the same plan under both routings. For orders the totals are blamed,
although the walk has planned another class by then and come to it again. -/
theorem build_reject_order :
    build orderGraph [⟨6⟩] .reject = .ok linePlan
      ∧ build orderGraph [⟨7⟩] .codec = .ok orderPlan
      ∧ (∃ union context, build orderGraph [⟨7⟩] .reject
            = .error (.unionInStructuralConverter union (some context))
          ∧ orderGraph.Reaches [⟨7⟩] union ∧ orderGraph.IsTrueUnion union
          ∧ BlamedFor orderGraph [⟨7⟩] union context)
      ∧ build orderGraph [⟨7⟩] .reject
        = .error (.unionInStructuralConverter ⟨2⟩ (some ⟨"Order", "totals"⟩)) := by
  have hline : build orderGraph [⟨6⟩] .reject = .ok linePlan :=
    ((build_reject_iff orderGraph [⟨6⟩]).1 linePlan).mpr ⟨rfl, rfl⟩
  have horder : build orderGraph [⟨7⟩] .codec = .ok orderPlan := rfl
  have hunions : orderPlan.unions.keys ≠ [] := by decide
  exact ⟨hline, horder, (build_reject_iff orderGraph [⟨7⟩]).2 orderPlan horder hunions, rfl⟩

end Converters

end Hydration
