import Hydration.Proofs.Plan.Rules
import Hydration.Proofs.Plan.Step

/-!
# Building is faithful

A built plan holds the converters of its graph, and every reference in it is
to a converter that it holds. While the plan is built, a reference may also be
to a converter under construction: `State.Known` says so, and every step of
the walk keeps what is known, leaves what is under construction as it was and
records converters of the graph only.
-/

namespace Hydration

/-- A converter is recorded for a type. -/
def Converters.Records (plan : Converters) (id : TypeId) : Prop :=
  id ∈ plan.classes.keys ∨ id ∈ plan.enums.keys ∨ id ∈ plan.unions.keys

/-- The converters are those of the graph and refer to each other only. -/
def Converters.Faithful (graph : TypeGraph) (plan : Converters) : Prop :=
  Plan.FaithfulBy graph plan.Records plan

namespace Plan

/-- A type has a converter or is under construction. -/
def State.Known (state : State) (id : TypeId) : Prop :=
  id ∈ state.inProgress ∨ state.converters.Records id

/-- The converters so far are those of the graph. -/
def State.Sound (graph : TypeGraph) (state : State) : Prop :=
  FaithfulBy graph state.Known state.converters

/-- What a completed step of the walk leaves. -/
structure Extends (state state' : State) : Prop where
  /-- The same types are under construction. -/
  inProgress : state'.inProgress = state.inProgress
  /-- What was known is known. -/
  known : ∀ id, state.Known id → state'.Known id

theorem Extends.refl (state : State) : Extends state state := ⟨rfl, fun _ h => h⟩

theorem Extends.trans {a b c : State} (hab : Extends a b) (hbc : Extends b c) : Extends a c :=
  ⟨hbc.inProgress.trans hab.inProgress, fun id h => hbc.known id (hab.known id h)⟩

/-- A planner that records converters of the graph and returns the rule of the
type. -/
def Planner.Sound (graph : TypeGraph) (plan : Planner) : Prop :=
  ∀ {context : Option PlanContext} {id : TypeId} {state state' : State} {rule : Rule},
    plan context id state = .ok (rule, state') → state.Sound graph →
      state'.Sound graph ∧ Extends state state' ∧ RuleOf graph state'.Known id rule

variable {graph : TypeGraph} {state state' : State}

/-- What was known before a construction began is known while it goes on. -/
theorem State.Known.enter {id other : TypeId} (h : state.Known other) :
    (state.enter id).Known other := by
  rcases h with hp | hr
  · exact Or.inl (List.mem_cons_of_mem _ hp)
  · exact Or.inr hr

/-- Entering a class keeps a state sound. -/
theorem State.Sound.enter (h : state.Sound graph) (id : TypeId) : (state.enter id).Sound graph :=
  FaithfulBy.mono (fun _ hother => hother.enter) h

/-- What is completed is no longer under construction. -/
theorem filter_enter {id : TypeId} {ids : List TypeId} (h : id ∉ ids) :
    (id :: ids).filter (fun other => other != id) = ids := by
  rw [List.filter_cons_of_neg (by simp), List.filter_eq_self]
  intro other hm
  have hne : other ≠ id := by
    rintro rfl
    exact h hm
  simp [hne]

/-- Completing a construction keeps what is known, and leaves what was under
construction before it began. -/
theorem Extends.complete {id : TypeId} {completed : State}
    (hentered : Extends (state.enter id) state') (hnew : id ∉ state.inProgress)
    (hprogress : completed.inProgress = state'.inProgress.filter fun other => other != id)
    (hrecords : ∀ other, completed.converters.Records other
      ↔ state'.converters.Records other ∨ other = id) :
    Extends state completed ∧ (∀ other, state'.Known other → completed.Known other)
      ∧ completed.Known id := by
  have hknown : ∀ other, state'.Known other → completed.Known other := by
    rintro other (hp | hr)
    · by_cases hid : other = id
      · exact Or.inr ((hrecords other).mpr (Or.inr hid))
      · refine Or.inl ?_
        rw [hprogress]
        exact List.mem_filter.mpr ⟨hp, by simp [hid]⟩
    · exact Or.inr ((hrecords other).mpr (Or.inl hr))
  refine ⟨⟨?_, fun other hother => ?_⟩, hknown, Or.inr ((hrecords id).mpr (Or.inr rfl))⟩
  · rw [hprogress, hentered.inProgress]
    exact filter_enter hnew
  · exact hknown other (hentered.known other hother.enter)

/-- A class under construction is completed. -/
theorem State.Sound.recordClass (h : state'.Sound graph) (converter : ClassConverter)
    (hc : ClassOf graph state'.Known converter.id converter)
    (hentered : Extends (state.enter converter.id) state') (hnew : converter.id ∉ state.inProgress) :
    (state'.recordClass converter).Sound graph
      ∧ Extends state (state'.recordClass converter)
      ∧ (state'.recordClass converter).Known converter.id := by
  have hrecords : ∀ other, (state'.recordClass converter).converters.Records other
      ↔ state'.converters.Records other ∨ other = converter.id := by
    intro other
    have hkeys : other ∈ (state'.recordClass converter).converters.classes.keys
        ↔ other ∈ state'.converters.classes.keys ∨ other = converter.id :=
      OrderedMap.mem_keys_insert _ _ _ _
    rw [Converters.Records, hkeys, or_right_comm]
    rfl
  obtain ⟨hext, hknown, hid⟩ := hentered.complete hnew rfl hrecords
  refine ⟨⟨?_, h.enums, fun id codec hcodec => (h.unions id codec hcodec).mono hknown⟩, hext, hid⟩
  exact OrderedMap.forall_get?_insert (hc.mono hknown)
    fun id found hfound => (h.classes id found hfound).mono hknown

/-- A union under construction is completed. -/
theorem State.Sound.recordUnion (h : state'.Sound graph) (codec : UnionCodec)
    (hc : UnionOf graph state'.Known codec.id codec)
    (hentered : Extends (state.enter codec.id) state') (hnew : codec.id ∉ state.inProgress) :
    (state'.recordUnion codec).Sound graph
      ∧ Extends state (state'.recordUnion codec)
      ∧ (state'.recordUnion codec).Known codec.id := by
  have hrecords : ∀ other, (state'.recordUnion codec).converters.Records other
      ↔ state'.converters.Records other ∨ other = codec.id := by
    intro other
    have hkeys : other ∈ (state'.recordUnion codec).converters.unions.keys
        ↔ other ∈ state'.converters.unions.keys ∨ other = codec.id :=
      OrderedMap.mem_keys_insert _ _ _ _
    rw [Converters.Records, hkeys, Converters.Records, or_assoc, or_assoc]
    rfl
  obtain ⟨hext, hknown, hid⟩ := hentered.complete hnew rfl hrecords
  refine ⟨⟨fun id converter hc => (h.classes id converter hc).mono hknown, h.enums, ?_⟩, hext, hid⟩
  exact OrderedMap.forall_get?_insert (hc.mono hknown)
    fun id found hfound => (h.unions id found hfound).mono hknown

/-- An enum is recorded at once. -/
theorem State.Sound.recordEnum {id : TypeId} {shape : EnumType} (h : state.Sound graph)
    (he : graph.get? id = some (.enumType shape)) :
    (state.recordEnum id shape).Sound graph
      ∧ Extends state (state.recordEnum id shape) ∧ (state.recordEnum id shape).Known id := by
  by_cases hc : state.converters.enums.contains id = true
  · rw [State.recordEnum, if_pos hc]
    refine ⟨h, Extends.refl state, Or.inr (Or.inr (Or.inl ?_))⟩
    exact OrderedMap.mem_keys_iff.mpr (Option.isSome_iff_exists.mp hc)
  · rw [State.recordEnum, if_neg hc]
    have hkeys : ∀ other,
        other ∈ (state.converters.enums.insert id ⟨id, shape.name, shape.cases⟩).keys
          ↔ other ∈ state.converters.enums.keys ∨ other = id :=
      fun other => OrderedMap.mem_keys_insert _ _ _ _
    have hknown : ∀ other, state.Known other → State.Known { state with
        converters := { state.converters with
          enums := state.converters.enums.insert id ⟨id, shape.name, shape.cases⟩ } } other := by
      rintro other (hp | hr | hr | hr)
      · exact Or.inl hp
      · exact Or.inr (Or.inl hr)
      · exact Or.inr (Or.inr (Or.inl ((hkeys other).mpr (Or.inl hr))))
      · exact Or.inr (Or.inr (Or.inr hr))
    refine ⟨⟨fun other converter hother => (h.classes other converter hother).mono hknown,
      OrderedMap.forall_get?_insert (.intro he) h.enums,
      fun other codec hother => (h.unions other codec hother).mono hknown⟩, ⟨rfl, hknown⟩,
      Or.inr (Or.inr (Or.inl ((hkeys id).mpr (Or.inr rfl))))⟩

/-- Fields are planned by the rules of their types. -/
theorem planFields_sound {plan : Planner} (hplan : plan.Sound graph) {className : String}
    {entries : List (String × Field)} {fields : List FieldConverter}
    (h : planFields plan className entries state = .ok (fields, state'))
    (hs : state.Sound graph) :
    state'.Sound graph ∧ Extends state state'
      ∧ List.Forall₂ (FieldOf graph state'.Known) entries fields := by
  induction entries generalizing state fields with
  | nil =>
    cases h
    exact ⟨hs, Extends.refl _, .nil⟩
  | cons entry rest ih =>
    obtain ⟨key, field⟩ := entry
    obtain ⟨⟨rule, state₁⟩, hfirst, h⟩ := bind_eq_ok.mp h
    obtain ⟨⟨others, state₂⟩, hrest, h⟩ := bind_eq_ok.mp h
    cases h
    obtain ⟨hs₁, hext₁, hrule⟩ := hplan hfirst hs
    obtain ⟨hs₂, hext₂, hothers⟩ := ih hrest hs₁
    exact ⟨hs₂, hext₁.trans hext₂, .cons ⟨rfl, rfl, hrule.mono hext₂.known⟩ hothers⟩

/-- A member is added to its codec, which keeps the members of other kinds. -/
theorem addMember_sound {plan : Planner} (hplan : plan.Sound graph) {codec codec' : UnionCodec}
    {member : TypeId} (h : addMember graph plan codec state member = .ok (codec', state'))
    (hs : state.Sound graph) :
    state'.Sound graph ∧ Extends state state' ∧ HasMember graph state'.Known codec' member
      ∧ ∃ kind, graph.kind? member = some kind ∧ AgreeBeyond [kind] codec codec' := by
  cases addMember_eq_ok.mp h with
  | null ht =>
    exact ⟨hs, .refl state, .null ht rfl, _, TypeGraph.kind?_of_get? ht,
      by constructor <;> simp [Ty.kind]⟩
  | bool ht =>
    exact ⟨hs, .refl state, .bool ht rfl, _, TypeGraph.kind?_of_get? ht,
      by constructor <;> simp [Ty.kind]⟩
  | integer ht =>
    exact ⟨hs, .refl state, .integer ht rfl, _, TypeGraph.kind?_of_get? ht,
      by constructor <;> simp [Ty.kind]⟩
  | double ht =>
    exact ⟨hs, .refl state, .double ht rfl, _, TypeGraph.kind?_of_get? ht,
      by constructor <;> simp [Ty.kind]⟩
  | string ht =>
    exact ⟨hs, .refl state, .string ht rfl, _, TypeGraph.kind?_of_get? ht,
      by constructor <;> simp [Ty.kind]⟩
  | transformed ht =>
    exact ⟨hs, .refl state, .transformed ht rfl, _, TypeGraph.kind?_of_get? ht,
      by constructor <;> simp [Ty.kind]⟩
  | array ht hitems =>
    obtain ⟨hs₁, hext, hr⟩ := hplan hitems hs
    exact ⟨hs₁, hext, .array ht hr rfl, _, TypeGraph.kind?_of_get? ht,
      by constructor <;> simp [Ty.kind]⟩
  | map ht hvalues =>
    obtain ⟨hs₁, hext, hr⟩ := hplan hvalues hs
    exact ⟨hs₁, hext, .map ht hr rfl, _, TypeGraph.kind?_of_get? ht,
      by constructor <;> simp [Ty.kind]⟩
  | classMember ht hmember =>
    obtain ⟨hs₁, hext, hr⟩ := hplan hmember hs
    exact ⟨hs₁, hext, .classMember ht (hr.eq_classRef ht).2 rfl, _, TypeGraph.kind?_of_get? ht,
      by constructor <;> simp [Ty.kind]⟩
  | enumeration ht =>
    obtain ⟨hs₁, hext, hknown⟩ := hs.recordEnum ht
    exact ⟨hs₁, hext, .enumeration ht hknown rfl, _, TypeGraph.kind?_of_get? ht,
      by constructor <;> simp [Ty.kind]⟩

/-- Members of distinct kinds are all added to their codec: none fills the slot of another. -/
theorem addMembers_sound {plan : Planner} (hplan : plan.Sound graph) {members : List TypeId}
    (hapart : members.Pairwise fun a b => graph.kind? a ≠ graph.kind? b)
    {codec codec' : UnionCodec}
    (h : addMembers graph plan members codec state = .ok (codec', state'))
    (hs : state.Sound graph) :
    state'.Sound graph ∧ Extends state state'
      ∧ (∀ member ∈ members, HasMember graph state'.Known codec' member)
      ∧ AgreeBeyond (graph.memberKinds members) codec codec' := by
  induction members generalizing state codec with
  | nil =>
    cases h
    exact ⟨hs, Extends.refl _, by simp, AgreeBeyond.refl _⟩
  | cons member rest ih =>
    obtain ⟨⟨codec₁, state₁⟩, hfirst, hrest⟩ := bind_eq_ok.mp h
    obtain ⟨hhead, htail⟩ := List.pairwise_cons.mp hapart
    obtain ⟨hs₁, hext₁, hmember, kind, hkind, hagree₁⟩ := addMember_sound hplan hfirst hs
    obtain ⟨hs₂, hext₂, hothers, hagree₂⟩ := ih htail hrest hs₁
    have hfresh : ∀ k, graph.kind? member = some k → k ∉ graph.memberKinds rest := by
      intro k hk hmem
      obtain ⟨other, hother, hk'⟩ := List.mem_filterMap.mp hmem
      exact hhead other hother (hk.trans hk'.symm)
    refine ⟨hs₂, hext₁.trans hext₂, ?_, ?_⟩
    · intro other hm
      rcases List.mem_cons.mp hm with rfl | hm
      · exact (hmember.mono hext₂.known).of_agree hagree₂ hfresh
      · exact hothers other hm
    · rw [TypeGraph.memberKinds, List.filterMap_cons_some hkind]
      exact hagree₁.trans hagree₂

/-- A class that the walk does not enter is known. -/
theorem known_of_knowsClass {id : TypeId} (h : state.knowsClass id = true) : state.Known id := by
  rcases Bool.or_eq_true_iff.mp h with hc | hp
  · exact Or.inr (Or.inl (OrderedMap.mem_keys_iff.mpr (Option.isSome_iff_exists.mp hc)))
  · exact Or.inl (of_decide_eq_true hp)

/-- A union that the walk does not enter is known. -/
theorem known_of_knowsUnion {id : TypeId} (h : state.knowsUnion id = true) : state.Known id := by
  rcases Bool.or_eq_true_iff.mp h with hc | hp
  · exact Or.inr (Or.inr (Or.inr (OrderedMap.mem_keys_iff.mpr (Option.isSome_iff_exists.mp hc))))
  · exact Or.inl (of_decide_eq_true hp)

/-- A class that the walk enters is not under construction. -/
theorem notMem_of_not_knowsClass {id : TypeId} (h : ¬state.knowsClass id = true) :
    id ∉ state.inProgress :=
  fun hp => h (Bool.or_eq_true_iff.mpr (Or.inr (decide_eq_true hp)))

/-- A union that the walk enters is not under construction. -/
theorem notMem_of_not_knowsUnion {id : TypeId} (h : ¬state.knowsUnion id = true) :
    id ∉ state.inProgress :=
  fun hp => h (Bool.or_eq_true_iff.mpr (Or.inr (decide_eq_true hp)))

/-- A class that the walk enters is recorded when its fields are planned. -/
theorem recordClass_sound {plan : Planner} (hplan : plan.Sound graph) {id : TypeId}
    {shape : ClassType} (ht : graph.get? id = some (.classType shape))
    (hnew : ¬state.knowsClass id = true) {fields : List FieldConverter}
    (h : planFields plan shape.name shape.fields.entries (state.enter id) = .ok (fields, state'))
    (hs : state.Sound graph) :
    (state'.recordClass ⟨id, shape.name, fields⟩).Sound graph
      ∧ Extends state (state'.recordClass ⟨id, shape.name, fields⟩)
      ∧ (state'.recordClass ⟨id, shape.name, fields⟩).Known id := by
  obtain ⟨hs', hext, hf⟩ := planFields_sound hplan h (hs.enter id)
  exact hs'.recordClass ⟨id, shape.name, fields⟩ (.intro ht hf) hext
    (notMem_of_not_knowsClass hnew)

/-- A union that the walk enters is recorded when its members are added. -/
theorem recordUnion_sound {plan : Planner} (hplan : plan.Sound graph) {id : TypeId}
    {members : OrderedSet TypeId} {nullable : Bool} (ht : graph.get? id = some (.union members))
    (hshape : graph.unionShape members = .multi nullable)
    (hnew : ¬state.knowsUnion id = true) {codec : UnionCodec}
    (h : addMembers graph plan members.toList (UnionCodec.blank id) (state.enter id)
      = .ok (codec, state'))
    (hs : state.Sound graph) :
    (state'.recordUnion codec).Sound graph ∧ Extends state (state'.recordUnion codec)
      ∧ (state'.recordUnion codec).Known id := by
  obtain ⟨hs', hext, hm, hagree⟩ :=
    addMembers_sound hplan (TypeGraph.members_of_union ht).2 h (hs.enter id)
  obtain rfl : codec.id = id := hagree.id
  exact hs'.recordUnion codec (.intro ht hshape ⟨hm, hagree⟩) hext
    (notMem_of_not_knowsUnion hnew)

/-- Planning a type records converters of the graph and returns its rule, whatever the bound. -/
theorem planWithin_sound (graph : TypeGraph) (routing : UnionRouting) (bound : Nat) :
    Planner.Sound graph (planWithin graph routing bound) := by
  induction bound with
  | zero =>
    intro context id state state' rule h
    cases h
  | succ bound ih =>
    intro context id state state' rule h hs
    cases planWithin_succ_eq_ok.mp h with
    | any ht => exact ⟨hs, .refl state, .any ht⟩
    | null ht => exact ⟨hs, .refl state, .null ht⟩
    | bool ht => exact ⟨hs, .refl state, .bool ht⟩
    | integer ht => exact ⟨hs, .refl state, .integer ht⟩
    | double ht => exact ⟨hs, .refl state, .double ht⟩
    | string ht => exact ⟨hs, .refl state, .string ht⟩
    | transformed ht => exact ⟨hs, .refl state, .transformed ht⟩
    | array ht hitems =>
      obtain ⟨hs₁, hext, hr⟩ := ih hitems hs
      exact ⟨hs₁, hext, .array ht hr⟩
    | map ht hvalues =>
      obtain ⟨hs₁, hext, hr⟩ := ih hvalues hs
      exact ⟨hs₁, hext, .map ht hr⟩
    | knownClass ht hknown => exact ⟨hs, .refl state, .classRef ht (known_of_knowsClass hknown)⟩
    | newClass ht hnew hfields =>
      obtain ⟨hs₁, hext, hk⟩ := recordClass_sound ih ht hnew hfields hs
      exact ⟨hs₁, hext, .classRef ht hk⟩
    | enumType ht =>
      obtain ⟨hs₁, hext, hk⟩ := hs.recordEnum ht
      exact ⟨hs₁, hext, .enumRef ht hk⟩
    | nullOnly ht hshape => exact ⟨hs, .refl state, .nullOnly ht hshape⟩
    | single ht hshape hmember =>
      obtain ⟨hs₁, hext, hr⟩ := ih hmember hs
      exact ⟨hs₁, hext, .single ht hshape hr⟩
    | nullable ht hshape hmember =>
      obtain ⟨hs₁, hext, hr⟩ := ih hmember hs
      exact ⟨hs₁, hext, .nullable ht hshape hr⟩
    | knownUnion ht hshape _ hknown =>
      exact ⟨hs, .refl state, .unionRef ht hshape (known_of_knowsUnion hknown)⟩
    | newUnion ht hshape _ hnew hmembers =>
      obtain ⟨hs₁, hext, hk⟩ := recordUnion_sound ih ht hshape hnew hmembers hs
      exact ⟨hs₁, hext, .unionRef ht hshape hk⟩

/-- Planning the entries records converters of the graph, and each entry has a
rule. -/
theorem planEntries_sound {routing : UnionRouting} {entries : List TypeId}
    (h : planEntries graph routing entries state = .ok state') (hs : state.Sound graph) :
    state'.Sound graph ∧ Extends state state'
      ∧ ∀ entry ∈ entries, ∃ rule, RuleOf graph state'.Known entry rule := by
  induction entries generalizing state with
  | nil =>
    cases h
    exact ⟨hs, Extends.refl _, by simp⟩
  | cons entry rest ih =>
    obtain ⟨⟨rule, state₁⟩, hfirst, hrest⟩ := bind_eq_ok.mp h
    obtain ⟨hs₁, hext₁, hrule⟩ := planWithin_sound graph routing (depthBound graph) hfirst hs
    obtain ⟨hs₂, hext₂, hrules⟩ := ih hrest hs₁
    refine ⟨hs₂, hext₁.trans hext₂, fun other hm => ?_⟩
    rcases List.mem_cons.mp hm with rfl | hm
    · exact ⟨rule, hrule.mono hext₂.known⟩
    · exact hrules other hm

/-- Nothing is planned at the start. -/
theorem sound_start (graph : TypeGraph) : State.start.Sound graph := by
  constructor <;> intro _ _ h <;> cases h

/-- What a walk from the start knows is recorded when it ends. -/
theorem Extends.records_of_known (h : Extends State.start state) {id : TypeId}
    (hk : state.Known id) : state.converters.Records id := by
  rcases hk with hp | hr
  · rw [h.inProgress] at hp
    cases hp
  · exact hr

/-- What a walk from the start leaves is faithful. -/
theorem State.Sound.faithful (hs : state.Sound graph) (hext : Extends State.start state) :
    state.converters.Faithful graph :=
  FaithfulBy.mono (fun _ hk => hext.records_of_known hk) hs

end Plan

namespace Converters

/-- A built plan holds the converters of its graph. -/
theorem faithful_of_build {graph : TypeGraph} {entries : List TypeId} {routing : UnionRouting}
    {plan : Converters} (h : build graph entries routing = .ok plan) :
    plan.Faithful graph := by
  unfold build at h
  split at h
  · cases h
  · obtain ⟨-, -, h⟩ := bind_eq_ok.mp h
    obtain ⟨state, hstate, h⟩ := bind_eq_ok.mp h
    cases h
    obtain ⟨hs, hext, -⟩ := Plan.planEntries_sound hstate (Plan.sound_start graph)
    have hf := hs.faithful hext
    exact ⟨hf.classes, hf.enums, hf.unions⟩

end Converters

end Hydration
