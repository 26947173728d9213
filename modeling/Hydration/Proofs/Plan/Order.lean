import Hydration.Proofs.Plan.Mirror

/-!
# Dependencies first

The walk records a class when it leaves it. What the class reaches is recorded
by then, or it is under construction; and everything under construction reaches
the type that the walk is at. So a class comes after all classes that it
reaches, unless it reaches itself, and a class in the rule of one of its fields
comes before it, unless that class leads back to it.
-/

namespace Hydration

open Relation (TransGen ReflTransGen)

/-- The class that a rule refers to under arrays, maps and nullables. -/
def Rule.class? : Rule → Option TypeId
  | copy _ => none
  | transformed _ => none
  | enumRef _ => none
  | classRef id => some id
  | array items => items.class?
  | map values => values.class?
  | nullable inner => inner.class?
  | unionRef _ => none

/-- The converter of one class comes before that of another one. -/
def Converters.Precedes (plan : Converters) (first second : TypeId) : Prop :=
  ∃ front back, plan.classes.keys = front ++ second :: back ∧ first ∈ front

/-- Further classes change nothing about the order of those before them. -/
theorem Converters.Precedes.mono {plan plan' : Converters} {first second : TypeId}
    (h : plan.Precedes first second) (hp : plan.classes.keys <+: plan'.classes.keys) :
    plan'.Precedes first second := by
  obtain ⟨front, back, hkeys, hm⟩ := h
  obtain ⟨new, hnew⟩ := hp
  exact ⟨front, back ++ new, by rw [← hnew, hkeys, List.append_assoc, List.cons_append], hm⟩

namespace Plan

/-- Each of several types reaches another one. -/
def AllReach (graph : TypeGraph) (ids : List TypeId) (id : TypeId) : Prop :=
  ∀ other ∈ ids, ReflTransGen graph.Refers other id

/-- The recorded classes come after those that they depend on. -/
structure State.Ordered (graph : TypeGraph) (state : State) : Prop where
  /-- What is under construction is not recorded. -/
  fresh : ∀ id ∈ state.inProgress, id ∉ state.converters.classes.keys
  /-- A class on no cycle comes after every class that it reaches. -/
  reached : ∀ id ∈ state.converters.classes.keys, ¬TransGen graph.Refers id id →
    ∀ other shape, TransGen graph.Refers id other →
      graph.get? other = some (.classType shape) → state.converters.Precedes other id
  /-- A class comes after those in the rules of its fields, unless they lead back to it. -/
  mentioned : ∀ id converter, state.converters.classes.get? id = some converter →
    ∀ field ∈ converter.fields, ∀ other, field.rule.class? = some other →
      state.converters.Precedes other id ∨ TransGen graph.Refers other id

/-- A planner that, at a type which everything under construction reaches, keeps the
order of the recorded classes. -/
def Planner.Orders (graph : TypeGraph) (plan : Planner) : Prop :=
  ∀ {context : Option PlanContext} {id : TypeId} {state state' : State} {rule : Rule},
    plan context id state = .ok (rule, state') → state.Sound graph → state.Ordered graph →
      AllReach graph state.inProgress id → state'.Ordered graph

variable {graph : TypeGraph} {state state' : State}

/-- What is reached by all leads on to what is reached by all. -/
theorem AllReach.refers {ids : List TypeId} {id next : TypeId} (h : AllReach graph ids id)
    (hr : graph.Refers id next) : AllReach graph ids next :=
  fun other hm => (h other hm).tail hr

theorem AllReach.cons {ids : List TypeId} {id : TypeId} (h : AllReach graph ids id) :
    AllReach graph (id :: ids) id :=
  List.forall_mem_cons.mpr ⟨.refl, h⟩

/-- The class in a rule is known, and the type of the rule reaches it. -/
theorem RuleOf.class_of_eq {known : TypeId → Prop} {id other : TypeId} {rule : Rule}
    (h : RuleOf graph known id rule) (hr : rule.class? = some other) :
    known other ∧ (∃ shape, graph.get? other = some (.classType shape))
      ∧ ReflTransGen graph.Refers id other := by
  induction h with
  | array ht _ ih =>
    obtain ⟨hk, hclass, hpath⟩ := ih hr
    exact ⟨hk, hclass, .head (.items ht) hpath⟩
  | map ht _ ih =>
    obtain ⟨hk, hclass, hpath⟩ := ih hr
    exact ⟨hk, hclass, .head (.values ht) hpath⟩
  | classRef ht hk =>
    cases hr
    exact ⟨hk, ⟨_, ht⟩, .refl⟩
  | single ht hs _ ih =>
    obtain ⟨hk, hclass, hpath⟩ := ih hr
    have hmem := (TypeGraph.member_of_unionShape ht (Or.inl hs)).1
    exact ⟨hk, hclass, .head (.member ht hmem) hpath⟩
  | nullable ht hs _ ih =>
    obtain ⟨hk, hclass, hpath⟩ := ih hr
    have hmem := (TypeGraph.member_of_unionShape ht (Or.inr hs)).1
    exact ⟨hk, hclass, .head (.member ht hmem) hpath⟩
  | _ => cases hr

/-- A known class that is not under construction is recorded. -/
theorem State.Sound.mem_classes (hs : state.Sound graph) {id : TypeId} {shape : ClassType}
    (ht : graph.get? id = some (.classType shape)) (hk : state.Known id)
    (hnew : id ∉ state.inProgress) : id ∈ state.converters.classes.keys := by
  obtain ⟨fields, hc, -⟩ := hs.class_of ht (hk.resolve_left hnew)
  exact OrderedMap.mem_keys_iff.mpr ⟨_, hc⟩

/-- What a class with planned fields reaches has a rule, if nothing on the way is under
construction. -/
theorem State.Sound.exists_rule (hs : state.Sound graph) {id other : TypeId} {shape : ClassType}
    {fields : List FieldConverter} (ht : graph.get? id = some (.classType shape))
    (hf : List.Forall₂ (FieldOf graph state.Known) shape.fields.entries fields)
    (hfree : ∀ between, TransGen graph.Refers id between → between ∉ state.inProgress)
    (h : TransGen graph.Refers id other) : ∃ rule, RuleOf graph state.Known other rule := by
  induction h with
  | single hr =>
    cases hr with
    | field ht' he =>
      cases ht.symm.trans ht'
      obtain ⟨field, -, hfield⟩ := exists_of_forall₂_left hf he
      exact ⟨field.rule, hfield.rule⟩
    | _ ht' => cases ht.symm.trans ht'
  | tail hpath hr ih =>
    obtain ⟨rule, hrule⟩ := ih
    exact Converters.exists_rule_of_refers hs hrule
      (fun hk => hk.resolve_left (hfree _ hpath)) hr

namespace State.Ordered

/-- Entering a class that is not recorded keeps the order. -/
theorem enter (h : state.Ordered graph) {id : TypeId}
    (hid : id ∉ state.converters.classes.keys) : (state.enter id).Ordered graph :=
  ⟨List.forall_mem_cons.mpr ⟨hid, h.fresh⟩, h.reached, h.mentioned⟩

/-- Recording an enum keeps the order. -/
theorem recordEnum (h : state.Ordered graph) (id : TypeId) (shape : EnumType) :
    (state.recordEnum id shape).Ordered graph := by
  unfold State.recordEnum
  split
  · exact h
  · exact ⟨h.fresh, h.reached, h.mentioned⟩

/-- Recording a union keeps the order. -/
theorem recordUnion (h : state.Ordered graph) (codec : UnionCodec) :
    (state.recordUnion codec).Ordered graph :=
  ⟨fun id hm => h.fresh id (List.mem_filter.mp hm).1, h.reached, h.mentioned⟩

/-- A class that everything under construction reaches is recorded after all that it depends on:
what is still under construction is on a cycle through the class. -/
theorem recordClass (h : state.Ordered graph) (hs : state.Sound graph) {id : TypeId}
    {shape : ClassType} {fields : List FieldConverter}
    (ht : graph.get? id = some (.classType shape))
    (hf : List.Forall₂ (FieldOf graph state.Known) shape.fields.entries fields)
    (hid : id ∈ state.inProgress) (hall : AllReach graph state.inProgress id) :
    (state.recordClass ⟨id, shape.name, fields⟩).Ordered graph := by
  have hkeys : (state.recordClass ⟨id, shape.name, fields⟩).converters.classes.keys
      = state.converters.classes.keys ++ [id] :=
    (OrderedMap.keys_insert _ _ _).trans (if_neg (h.fresh id hid))
  have hprefix : state.converters.classes.keys
      <+: (state.recordClass ⟨id, shape.name, fields⟩).converters.classes.keys :=
    ⟨[id], hkeys.symm⟩
  have hlast : ∀ other ∈ state.converters.classes.keys,
      (state.recordClass ⟨id, shape.name, fields⟩).converters.Precedes other id :=
    fun other hm => ⟨_, [], hkeys, hm⟩
  constructor
  · intro other hm
    obtain ⟨hm, hne⟩ := List.mem_filter.mp hm
    rw [hkeys, List.mem_append, List.mem_singleton]
    exact not_or.mpr ⟨h.fresh other hm, bne_iff_ne.mp hne⟩
  · intro first hfirst hcycle other shape' hpath hclass
    rw [hkeys, List.mem_append, List.mem_singleton] at hfirst
    rcases hfirst with hfirst | rfl
    · exact (h.reached first hfirst hcycle other shape' hpath hclass).mono hprefix
    · have hfree : ∀ between, TransGen graph.Refers first between →
          between ∉ state.inProgress :=
        fun between hto hm => hcycle (hto.trans_left (hall between hm))
      obtain ⟨rule, hrule⟩ := hs.exists_rule ht hf hfree hpath
      exact hlast other (hs.mem_classes hclass (hrule.eq_classRef hclass).2 (hfree other hpath))
  · refine OrderedMap.forall_get?_insert (fun field hfield other hother => ?_)
      fun first converter hc field hfield other hother => ?_
    · obtain ⟨entry, he, hof⟩ := exists_of_forall₂_right hf hfield
      obtain ⟨hk, ⟨shape', hclass⟩, hpath⟩ := hof.rule.class_of_eq hother
      by_cases hp : other ∈ state.inProgress
      · rcases Relation.reflTransGen_iff_eq_or_transGen.mp (hall other hp) with rfl | hback
        · exact Or.inr (.head' (.field ht he) hpath)
        · exact Or.inr hback
      · exact Or.inl (hlast other (hs.mem_classes hclass hk hp))
    · exact (h.mentioned first converter hc field hfield other hother).imp_left
        fun hprec => hprec.mono hprefix

end State.Ordered

section Members

variable {plan : Planner}

/-- Planning fields of types that everything under construction reaches keeps the order. -/
theorem planFields_ordered (hsound : plan.Sound graph) (hplan : plan.Orders graph)
    {className : String} {entries : List (String × Field)} {fields : List FieldConverter}
    (h : planFields plan className entries state = .ok (fields, state')) (hs : state.Sound graph)
    (ho : state.Ordered graph)
    (hall : ∀ entry ∈ entries, AllReach graph state.inProgress entry.2.type) :
    state'.Ordered graph := by
  induction entries generalizing state fields with
  | nil =>
    cases h
    exact ho
  | cons entry rest ih =>
    obtain ⟨key, field⟩ := entry
    obtain ⟨⟨rule, state₁⟩, hfirst, h⟩ := bind_eq_ok.mp h
    obtain ⟨⟨others, state₂⟩, hrest, h⟩ := bind_eq_ok.mp h
    cases h
    obtain ⟨hs₁, hext, -⟩ := hsound hfirst hs
    have ho₁ : state₁.Ordered graph := hplan hfirst hs ho (hall (key, field) List.mem_cons_self)
    refine ih hrest hs₁ ho₁ fun other hm => ?_
    rw [hext.inProgress]
    exact hall other (List.mem_cons_of_mem _ hm)

/-- Adding a member that everything under construction reaches keeps the order. -/
theorem addMember_ordered (hplan : plan.Orders graph) {codec codec' : UnionCodec} {member : TypeId}
    (h : addMember graph plan codec state member = .ok (codec', state')) (hs : state.Sound graph)
    (ho : state.Ordered graph) (hall : AllReach graph state.inProgress member) :
    state'.Ordered graph := by
  cases addMember_eq_ok.mp h with
  | array ht hitems => exact hplan hitems hs ho (hall.refers (.items ht))
  | map ht hvalues => exact hplan hvalues hs ho (hall.refers (.values ht))
  | classMember ht hmember => exact hplan hmember hs ho hall
  | enumeration ht => exact ho.recordEnum _ _
  | _ => exact ho

/-- Adding members that everything under construction reaches keeps the order. -/
theorem addMembers_ordered (hsound : plan.Sound graph) (hplan : plan.Orders graph)
    {members : List TypeId} {codec codec' : UnionCodec}
    (h : addMembers graph plan members codec state = .ok (codec', state')) (hs : state.Sound graph)
    (ho : state.Ordered graph)
    (hall : ∀ member ∈ members, AllReach graph state.inProgress member) :
    state'.Ordered graph := by
  induction members generalizing state codec with
  | nil =>
    cases h
    exact ho
  | cons member rest ih =>
    obtain ⟨⟨codec₁, state₁⟩, hfirst, hrest⟩ := bind_eq_ok.mp h
    obtain ⟨hs₁, hext, -⟩ := addMember_sound hsound hfirst hs
    have ho₁ : state₁.Ordered graph :=
      addMember_ordered hplan hfirst hs ho (hall member List.mem_cons_self)
    refine ih hrest hs₁ ho₁ fun other hm => ?_
    rw [hext.inProgress]
    exact hall other (List.mem_cons_of_mem _ hm)

end Members

/-- Planning a type that everything under construction reaches keeps the order. -/
theorem planWithin_ordered (graph : TypeGraph) (routing : UnionRouting) (bound : Nat) :
    Planner.Orders graph (planWithin graph routing bound) := by
  induction bound with
  | zero =>
    intro context id state state' rule h
    cases h
  | succ bound ih =>
    intro context id state state' rule h hs ho hall
    have hsound : Planner.Sound graph (planWithin graph routing bound) :=
      planWithin_sound graph routing bound
    cases planWithin_succ_eq_ok.mp h with
    | array ht hitems => exact ih hitems hs ho (hall.refers (.items ht))
    | map ht hvalues => exact ih hvalues hs ho (hall.refers (.values ht))
    | newClass ht hnew hfields =>
      have hfresh : id ∉ state.converters.classes.keys := fun hm =>
        hnew (Bool.or_eq_true_iff.mpr (Or.inl (Option.isSome_iff_exists.mpr
          (OrderedMap.mem_keys_iff.mp hm))))
      obtain ⟨hs₁, hext, hf⟩ := planFields_sound hsound hfields (hs.enter id)
      have hentered : AllReach graph (state.enter id).inProgress id := hall.cons
      have ho₁ := planFields_ordered hsound ih hfields (hs.enter id) (ho.enter hfresh)
        fun entry he => hentered.refers (.field ht he)
      rw [← hext.inProgress] at hentered
      refine ho₁.recordClass hs₁ ht hf ?_ hentered
      rw [hext.inProgress]
      exact List.mem_cons_self
    | enumType ht => exact ho.recordEnum _ _
    | single ht hshape hmember =>
      have hmem := (TypeGraph.member_of_unionShape ht (Or.inl hshape)).1
      exact ih hmember hs ho (hall.refers (.member ht hmem))
    | nullable ht hshape hmember =>
      have hmem := (TypeGraph.member_of_unionShape ht (Or.inr hshape)).1
      exact ih hmember hs ho (hall.refers (.member ht hmem))
    | newUnion ht hshape _ hnew hmembers =>
      have hfresh : id ∉ state.converters.classes.keys := by
        intro hm
        obtain ⟨converter, hc⟩ := OrderedMap.mem_keys_iff.mp hm
        obtain ⟨ht', -⟩ := hs.classes id converter hc
        cases ht.symm.trans ht'
      have hentered : AllReach graph (state.enter id).inProgress id := hall.cons
      have ho₁ := addMembers_ordered hsound ih hmembers (hs.enter id) (ho.enter hfresh)
        fun member hm => hentered.refers (.member ht hm)
      exact ho₁.recordUnion _
    | _ => exact ho

/-- Planning entries keeps the order. -/
theorem planEntries_ordered {routing : UnionRouting} {entries : List TypeId}
    (h : planEntries graph routing entries state = .ok state') (hs : state.Sound graph)
    (ho : state.Ordered graph) (hnone : state.inProgress = []) : state'.Ordered graph := by
  induction entries generalizing state with
  | nil =>
    cases h
    exact ho
  | cons entry rest ih =>
    obtain ⟨⟨rule, state₁⟩, hfirst, hrest⟩ := bind_eq_ok.mp h
    obtain ⟨hs₁, hext, -⟩ := planWithin_sound graph routing _ hfirst hs
    have hall : AllReach graph state.inProgress entry := by
      rw [hnone]
      exact List.forall_mem_nil _
    exact ih hrest hs₁ (planWithin_ordered graph routing _ hfirst hs ho hall)
      (hext.inProgress.trans hnone)

/-- Nothing is recorded at the start. -/
theorem ordered_start (graph : TypeGraph) : State.start.Ordered graph := by
  refine ⟨?_, ?_, ?_⟩
  · intro id hm
    cases hm
  · intro id hm
    cases hm
  · intro id converter hc
    cases hc

end Plan

namespace Converters

/-- The classes of a plan are in the order of their dependencies: a class that does not
reach itself comes after every class that it reaches, and any class comes after those in
the rules of its fields, unless they reach it. -/
theorem dependencies_precede {graph : TypeGraph} {entries : List TypeId} {routing : UnionRouting}
    {plan : Converters} (h : build graph entries routing = .ok plan) :
    (∀ id ∈ plan.classes.keys, ∀ other ∈ plan.classes.keys, ¬TransGen graph.Refers id id →
        TransGen graph.Refers id other → plan.Precedes other id)
      ∧ ∀ id converter, plan.classes.get? id = some converter →
        ∀ field ∈ converter.fields, ∀ other, field.rule.class? = some other →
          plan.Precedes other id ∨ TransGen graph.Refers other id := by
  have hp := faithful_of_build h
  obtain ⟨-, -, state, hstate, rfl⟩ := build_eq_ok.mp h
  have ho : state.Ordered graph :=
    Plan.planEntries_ordered hstate (Plan.sound_start graph) (Plan.ordered_start graph) rfl
  refine ⟨fun id hid other hother hcycle hpath => ?_, ho.mentioned⟩
  obtain ⟨converter, hc⟩ := OrderedMap.mem_keys_iff.mp hother
  obtain ⟨ht, -⟩ := hp.classes other converter hc
  exact ho.reached id hid hcycle other _ hpath ht

/-- A catalog starts with a title or a book, and lists authors; books have authors, who may
have a main work. -/
def catalogGraph : TypeGraph where
  types := [
    .union ⟨[⟨6⟩, ⟨2⟩], by decide⟩,
    .classType ⟨"Author", ⟨[("work", ⟨⟨0⟩, false⟩)], by decide⟩⟩,
    .classType ⟨"Book", ⟨[("authors", ⟨⟨3⟩, false⟩)], by decide⟩⟩,
    .array ⟨1⟩,
    .union ⟨[⟨5⟩, ⟨2⟩], by decide⟩,
    .string,
    .null,
    .classType ⟨"Catalog", ⟨[("first", ⟨⟨4⟩, false⟩), ("authors", ⟨⟨3⟩, false⟩)], by decide⟩⟩]
  topLevels := OrderedMap.empty
  sound := by decide

/-- The plan for catalogs. -/
def catalogPlan : Converters where
  entries := [⟨7⟩]
  classes := ⟨[
    (⟨1⟩, ⟨⟨1⟩, "Author", [⟨"work", false, .nullable (.classRef ⟨2⟩)⟩]⟩),
    (⟨2⟩, ⟨⟨2⟩, "Book", [⟨"authors", false, .array (.classRef ⟨1⟩)⟩]⟩),
    (⟨7⟩, ⟨⟨7⟩, "Catalog", [⟨"first", false, .unionRef ⟨4⟩⟩,
      ⟨"authors", false, .array (.classRef ⟨1⟩)⟩]⟩)], by decide⟩
  enums := OrderedMap.empty
  unions := ⟨[(⟨4⟩, { UnionCodec.blank ⟨4⟩ with
    string := some .plain, classMember := some ⟨2⟩ })], by decide⟩

/-- Catalogs come after books, which they reach through a union. Authors come before the
books in the rule of their field, and are reached from them. -/
theorem dependencies_precede_catalog :
    build catalogGraph [⟨7⟩] .codec = .ok catalogPlan
      ∧ catalogPlan.Precedes ⟨2⟩ ⟨7⟩
      ∧ (catalogPlan.Precedes ⟨2⟩ ⟨1⟩ ∨ TransGen catalogGraph.Refers ⟨2⟩ ⟨1⟩) := by
  have hbuild : build catalogGraph [⟨7⟩] .codec = .ok catalogPlan := rfl
  obtain ⟨hreached, hmentioned⟩ := dependencies_precede hbuild
  have hcycle : ¬TransGen catalogGraph.Refers ⟨7⟩ ⟨7⟩ := by
    intro h
    obtain ⟨before, -, hr⟩ := TransGen.tail'_iff.mp h
    obtain ⟨type, ht, hm⟩ := TypeGraph.refers_iff.mp hr
    have hnone : ∀ type ∈ catalogGraph.types, (⟨7⟩ : TypeId) ∉ type.references := by decide
    exact hnone type (List.mem_of_getElem? ht) hm
  have hpath : TransGen catalogGraph.Refers ⟨7⟩ ⟨2⟩ :=
    .head (TypeGraph.refers_iff.mpr ⟨_, rfl, by decide⟩ : catalogGraph.Refers ⟨7⟩ ⟨4⟩)
      (.single (TypeGraph.refers_iff.mpr ⟨_, rfl, by decide⟩))
  exact ⟨hbuild, hreached ⟨7⟩ (by decide) ⟨2⟩ (by decide) hcycle hpath,
    hmentioned ⟨1⟩ _ rfl _ List.mem_cons_self ⟨2⟩ rfl⟩

end Converters

end Hydration
