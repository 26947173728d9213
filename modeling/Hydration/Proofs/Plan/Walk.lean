import Hydration.Proofs.Plan.Build
import Hydration.Proofs.Plan.Reach

/-!
# The walk of the planner

The walk records nothing but what it reaches, and it comes to an end where every
type it reaches does: each class and each union of several members is entered once at a
time, and between two of them it takes no more steps than there are types. So a walk
that fails does so for a reason that lies in a type it reaches.
-/

namespace Hydration.Plan

variable {graph : TypeGraph} {state state' : State} {P : TypeId → Prop}

/-- The recorded types have a property. -/
def State.Within (P : TypeId → Prop) (state : State) : Prop :=
  ∀ id, state.converters.Records id → P id

theorem State.Within.enter (h : state.Within P) (id : TypeId) : (state.enter id).Within P := h

/-- A class that is allowed may be recorded. -/
theorem State.Within.recordClass (h : state.Within P) {converter : ClassConverter}
    (hid : P converter.id) : (state.recordClass converter).Within P := by
  rintro id (hr | hr | hr)
  · rcases (OrderedMap.mem_keys_insert _ _ _ _).mp hr with hr | rfl
    · exact h id (Or.inl hr)
    · exact hid
  · exact h id (Or.inr (Or.inl hr))
  · exact h id (Or.inr (Or.inr hr))

/-- A union that is allowed may be recorded. -/
theorem State.Within.recordUnion (h : state.Within P) {codec : UnionCodec} (hid : P codec.id) :
    (state.recordUnion codec).Within P := by
  rintro id (hr | hr | hr)
  · exact h id (Or.inl hr)
  · exact h id (Or.inr (Or.inl hr))
  · rcases (OrderedMap.mem_keys_insert _ _ _ _).mp hr with hr | rfl
    · exact h id (Or.inr (Or.inr hr))
    · exact hid

/-- An enum that is allowed may be recorded. -/
theorem State.Within.recordEnum (h : state.Within P) {id : TypeId} (hid : P id)
    (shape : EnumType) : (state.recordEnum id shape).Within P := by
  unfold State.recordEnum
  split
  · exact h
  · rintro other (hr | hr | hr)
    · exact h other (Or.inl hr)
    · rcases (OrderedMap.mem_keys_insert _ _ _ _).mp hr with hr | rfl
      · exact h other (Or.inr (Or.inl hr))
      · exact hid
    · exact h other (Or.inr (Or.inr hr))

/-- A planner records nothing but types with a property. -/
def Planner.Confined (P : TypeId → Prop) (plan : Planner) : Prop :=
  ∀ {context : Option PlanContext} {id : TypeId} {state state' : State} {rule : Rule},
    plan context id state = .ok (rule, state') → P id → state.Within P → state'.Within P

/-- Planning fields of types with the property records only such types. -/
theorem planFields_confined {plan : Planner} (hplan : plan.Confined P) {className : String}
    {entries : List (String × Field)} {fields : List FieldConverter}
    (h : planFields plan className entries state = .ok (fields, state'))
    (hP : ∀ entry ∈ entries, P entry.2.type) (hs : state.Within P) : state'.Within P := by
  induction entries generalizing state fields with
  | nil =>
    cases h
    exact hs
  | cons entry rest ih =>
    obtain ⟨key, field⟩ := entry
    obtain ⟨⟨rule, state₁⟩, hfirst, h⟩ := bind_eq_ok.mp h
    obtain ⟨⟨others, state₂⟩, hrest, h⟩ := bind_eq_ok.mp h
    cases h
    have hs₁ : state₁.Within P := hplan hfirst (hP (key, field) List.mem_cons_self) hs
    exact ih hrest (fun entry hm => hP entry (List.mem_cons_of_mem _ hm)) hs₁

/-- Members are added to the codec of one union. -/
theorem addMembers_id {plan : Planner} {members : List TypeId} {codec codec' : UnionCodec}
    (h : addMembers graph plan members codec state = .ok (codec', state')) :
    codec'.id = codec.id := by
  induction members generalizing state codec with
  | nil =>
    cases h
    rfl
  | cons member rest ih =>
    obtain ⟨⟨codec₁, state₁⟩, hfirst, hrest⟩ := bind_eq_ok.mp h
    have hid : codec₁.id = codec.id := by
      cases addMember_eq_ok.mp hfirst <;> rfl
    exact (ih hrest).trans hid

section Closed

variable (hclosed : ∀ id next, P id → graph.Refers id next → P next)
include hclosed

/-- Adding a member with the property records only such types. -/
theorem addMember_confined {plan : Planner} (hplan : plan.Confined P) {codec codec' : UnionCodec}
    {member : TypeId} (h : addMember graph plan codec state member = .ok (codec', state'))
    (hP : P member) (hs : state.Within P) : state'.Within P := by
  cases addMember_eq_ok.mp h with
  | array ht hitems => exact hplan hitems (hclosed _ _ hP (.items ht)) hs
  | map ht hvalues => exact hplan hvalues (hclosed _ _ hP (.values ht)) hs
  | classMember ht hmember => exact hplan hmember hP hs
  | enumeration ht => exact hs.recordEnum hP _
  | _ => exact hs

/-- Adding members with the property records only such types. -/
theorem addMembers_confined {plan : Planner} (hplan : plan.Confined P) {members : List TypeId}
    {codec codec' : UnionCodec}
    (h : addMembers graph plan members codec state = .ok (codec', state'))
    (hP : ∀ member ∈ members, P member) (hs : state.Within P) : state'.Within P := by
  induction members generalizing state codec with
  | nil =>
    cases h
    exact hs
  | cons member rest ih =>
    obtain ⟨⟨codec₁, state₁⟩, hfirst, hrest⟩ := bind_eq_ok.mp h
    have hs₁ := addMember_confined hclosed hplan hfirst (hP member List.mem_cons_self) hs
    exact ih hrest (fun other hm => hP other (List.mem_cons_of_mem _ hm)) hs₁

/-- Planning a type records only what references lead to. -/
theorem planWithin_confined (routing : UnionRouting) (bound : Nat) :
    Planner.Confined P (planWithin graph routing bound) := by
  induction bound with
  | zero =>
    intro context id state state' rule h
    cases h
  | succ bound ih =>
    intro context id state state' rule h hP hs
    cases planWithin_succ_eq_ok.mp h with
    | array ht hitems => exact ih hitems (hclosed _ _ hP (.items ht)) hs
    | map ht hvalues => exact ih hvalues (hclosed _ _ hP (.values ht)) hs
    | newClass ht _ hfields =>
      have hs₁ := planFields_confined ih hfields (fun entry he => hclosed _ _ hP (.field ht he))
        (hs.enter id)
      exact hs₁.recordClass hP
    | enumType ht => exact hs.recordEnum hP _
    | single ht hshape hmember =>
      have hmem := (TypeGraph.member_of_unionShape ht (Or.inl hshape)).1
      exact ih hmember (hclosed _ _ hP (.member ht hmem)) hs
    | nullable ht hshape hmember =>
      have hmem := (TypeGraph.member_of_unionShape ht (Or.inr hshape)).1
      exact ih hmember (hclosed _ _ hP (.member ht hmem)) hs
    | newUnion ht _ _ _ hmembers =>
      have hs₁ := addMembers_confined hclosed ih hmembers
        (fun member hm => hclosed _ _ hP (.member ht hm)) (hs.enter id)
      obtain rfl := addMembers_id hmembers
      exact hs₁.recordUnion hP
    | _ => exact hs

/-- Planning entries with the property records only what references lead to. -/
theorem planEntries_confined {routing : UnionRouting} {entries : List TypeId}
    (h : planEntries graph routing entries state = .ok state')
    (hP : ∀ entry ∈ entries, P entry) (hs : state.Within P) : state'.Within P := by
  induction entries generalizing state with
  | nil =>
    cases h
    exact hs
  | cons entry rest ih =>
    obtain ⟨⟨rule, state₁⟩, hfirst, hrest⟩ := bind_eq_ok.mp h
    have hs₁ : state₁.Within P :=
      planWithin_confined hclosed routing _ hfirst (hP entry List.mem_cons_self) hs
    exact ih hrest (fun other hm => hP other (List.mem_cons_of_mem _ hm)) hs₁

end Closed

/-- Nothing is recorded at the start. -/
theorem within_start : State.start.Within P := by
  rintro id (h | h | h) <;> cases h

/-- Types of the graph that are supported and end, and with each what it refers to. -/
structure Plannable (graph : TypeGraph) (P : TypeId → Prop) : Prop where
  /-- They are types of the graph. -/
  type : ∀ id, P id → ∃ type, graph.get? id = some type
  /-- They refer to each other only. -/
  refers : ∀ id next, P id → graph.Refers id next → P next
  /-- They are supported. -/
  supported : ∀ id, P id → graph.Supported id
  /-- They end. -/
  ends : ∀ id, P id → graph.Ends id

/-- Why there is no plan for types with a property. -/
inductive Causes (graph : TypeGraph) (routing : UnionRouting) (P : TypeId → Prop) :
    PlanError → Prop where
  /-- One of them is not part of the graph. -/
  | dangling {id : TypeId} (hid : P id) (ht : graph.get? id = none) :
      Causes graph routing P (.danglingType id)
  /-- One of them is a string with an unknown interpretation. -/
  | kind {id : TypeId} {name : String} (hid : P id)
      (ht : graph.get? id = some (.transformed (.other name))) :
      Causes graph routing P (.unsupportedStringKind name)
  /-- A member of a union of several members accepts every value. -/
  | member {id member : TypeId} {members : OrderedSet TypeId} {nullable : Bool} (hid : P id)
      (ht : graph.get? id = some (.union members))
      (hshape : graph.unionShape members = .multi nullable) (hm : member ∈ members.toList)
      (hany : graph.get? member = some .any) :
      Causes graph routing P (.unsupportedUnionMember .any)
  /-- One of them is a union of several members, which the routing rejects. -/
  | rejected {id : TypeId} {context : Option PlanContext} (hid : P id)
      (hunion : graph.IsTrueUnion id) (hrouting : routing = .reject) :
      Causes graph routing P (.unionInStructuralConverter id context)

/-- With given types under construction, a planner fails at certain types for no other
reason than those that lie in types with a property. -/
def Planner.FailsBy (graph : TypeGraph) (routing : UnionRouting) (P : TypeId → Prop)
    (progress : List TypeId) (Q : TypeId → Prop) (plan : Planner) : Prop :=
  ∀ {context : Option PlanContext} {id : TypeId} {state : State} {error : PlanError},
    plan context id state = .error error → Q id → state.Sound graph →
      state.inProgress = progress → Causes graph routing P error

section Fails

variable {routing : UnionRouting} {plan : Planner} {progress : List TypeId} {error : PlanError}

/-- Fields fail for a reason if their types do. -/
theorem planFields_fails (hsound : plan.Sound graph)
    (hplan : plan.FailsBy graph routing P progress P) {className : String}
    {entries : List (String × Field)}
    (h : planFields plan className entries state = .error error)
    (hP : ∀ entry ∈ entries, P entry.2.type) (hs : state.Sound graph)
    (hprogress : state.inProgress = progress) : Causes graph routing P error := by
  induction entries generalizing state with
  | nil => cases h
  | cons entry rest ih =>
    obtain ⟨key, field⟩ := entry
    rcases bind_eq_error.mp h with hfirst | ⟨⟨rule, state₁⟩, hfirst, h⟩
    · exact hplan hfirst (hP (key, field) List.mem_cons_self) hs hprogress
    · obtain ⟨hs₁, hext, -⟩ := hsound hfirst hs
      exact ih (bind_pure_eq_error.mp h) (fun entry hm => hP entry (List.mem_cons_of_mem _ hm)) hs₁
        (hext.inProgress.trans hprogress)

/-- The members of a union of several members fail for a reason if their parts do. -/
theorem addMembers_fails (hclosed : ∀ id next, P id → graph.Refers id next → P next)
    (hsound : plan.Sound graph) (hplan : plan.FailsBy graph routing P progress P) {id : TypeId}
    (hid : P id) {all : OrderedSet TypeId} {nullable : Bool}
    (ht : graph.get? id = some (.union all)) (hshape : graph.unionShape all = .multi nullable)
    {members : List TypeId} {codec : UnionCodec}
    (h : addMembers graph plan members codec state = .error error)
    (hm : ∀ member ∈ members, member ∈ all.toList) (hs : state.Sound graph)
    (hprogress : state.inProgress = progress) : Causes graph routing P error := by
  induction members generalizing state codec with
  | nil => cases h
  | cons member rest ih =>
    have hmember : member ∈ all.toList := hm member List.mem_cons_self
    have hP : P member := hclosed id member hid (.member ht hmember)
    rcases bind_eq_error.mp h with hfirst | ⟨⟨codec₁, state₁⟩, hfirst, h⟩
    · cases addMember_eq_error.mp hfirst with
      | dangling ht' => exact .dangling hP ht'
      | any ht' => exact .member hid ht hshape hmember ht'
      | nested ht' =>
        obtain ⟨type, htype, hkind⟩ := (TypeGraph.members_of_union ht).1 member hmember
        cases ht'.symm.trans htype
        exact absurd rfl hkind
      | kind ht' => exact .kind hP ht'
      | items ht' hitems => exact hplan hitems (hclosed _ _ hP (.items ht')) hs hprogress
      | values ht' hvalues => exact hplan hvalues (hclosed _ _ hP (.values ht')) hs hprogress
      | classMember ht' hmember => exact hplan hmember hP hs hprogress
    · obtain ⟨hs₁, hext, -⟩ := addMember_sound hsound hfirst hs
      exact ih h (fun other ho => hm other (List.mem_cons_of_mem _ ho)) hs₁
        (hext.inProgress.trans hprogress)

end Fails

/-- The depth that is left to the types not under construction. -/
def room (graph : TypeGraph) (progress : List TypeId) : Nat :=
  (graph.size - progress.length) * (graph.size + 1)

/-- Entering a type takes the room of one type. -/
theorem room_cons {id : TypeId} {progress : List TypeId} (hn : (id :: progress).Nodup)
    (hids : id :: progress ⊆ graph.ids) :
    room graph (id :: progress) + (graph.size + 1) = room graph progress := by
  have hle := TypeGraph.length_le_size hn hids
  rw [List.length_cons] at hle
  have hleft : graph.size - progress.length = graph.size - (progress.length + 1) + 1 := by omega
  rw [room, room, List.length_cons, hleft, Nat.succ_mul]

section Ends

variable (hclosed : ∀ id next, P id → graph.Refers id next → P next)
  (hends : ∀ id, P id → graph.Ends id) {routing : UnionRouting}
include hclosed hends

/-- The walk from types that end stays within the bound, so it fails for a reason. Inside a type
under construction the depth decreases, and entering another type takes room for which the full
depth is given back. -/
theorem planWithin_fails {bound : Nat} {progress : List TypeId} {depth : Nat}
    (hn : progress.Nodup) (hids : progress ⊆ graph.ids)
    (hroom : room graph progress + depth ≤ bound) :
    (planWithin graph routing bound).FailsBy graph routing P progress
      (fun id => P id ∧ graph.Shallow depth id) := by
  induction bound generalizing progress depth with
  | zero =>
    intro context id state error _ hid
    obtain rfl : depth = 0 := by omega
    exact hid.2.elim
  | succ bound ih =>
    intro context id state error h ⟨hid, hshallow⟩ hs hprogress
    cases depth with
    | zero => exact hshallow.elim
    | succ depth =>
      have hsame : room graph progress + depth ≤ bound := by omega
      have hinside : ∀ {next}, graph.RefersInside id next →
          planWithin graph routing bound context next state = .error error →
          Causes graph routing P error :=
        fun {next} hnext hfails =>
          ih hn hids hsame hfails ⟨hclosed id next hid hnext.1, hshallow next hnext⟩ hs hprogress
      have hentered : id ∈ graph.ids → id ∉ state.inProgress →
          (planWithin graph routing bound).FailsBy graph routing P (id :: state.inProgress) P := by
        rw [hprogress]
        intro hmem hnew context next state error hfails hnext
        have hn' : (id :: progress).Nodup := List.nodup_cons.mpr ⟨hnew, hn⟩
        have hids' : id :: progress ⊆ graph.ids := List.cons_subset.mpr ⟨hmem, hids⟩
        have hcons := room_cons hn' hids'
        have hroom' : room graph (id :: progress) + (graph.size + 1) ≤ bound := by omega
        exact ih hn' hids' hroom' hfails ⟨hnext, (hends next hnext).shallow⟩
      have hsound : Planner.Sound graph (planWithin graph routing bound) :=
        planWithin_sound graph routing bound
      cases planWithin_succ_eq_error.mp h with
      | dangling ht => exact .dangling hid ht
      | kind ht => exact .kind hid ht
      | items ht hitems => exact hinside (TypeGraph.refersInside_items ht) hitems
      | values ht hvalues => exact hinside (TypeGraph.refersInside_values ht) hvalues
      | fields ht hnew hfields =>
        exact planFields_fails hsound
          (hentered (TypeGraph.mem_ids_of_get? ht) (notMem_of_not_knowsClass hnew)) hfields
          (fun entry he => hclosed id _ hid (.field ht he)) (hs.enter id) rfl
      | member ht hshape hmember => exact hinside (TypeGraph.refersInside_member ht hshape) hmember
      | rejected ht hshape hrouting => exact .rejected hid ⟨_, _, ht, hshape⟩ hrouting
      | members ht hshape _ hnew hmembers =>
        exact addMembers_fails hclosed hsound
          (hentered (TypeGraph.mem_ids_of_get? ht) (notMem_of_not_knowsUnion hnew)) hid ht hshape
          hmembers (fun _ hm => hm) (hs.enter id) rfl

/-- A type that ends fails for a reason. -/
theorem planType_fails : (planType graph routing).FailsBy graph routing P [] P := by
  intro context id state error h hid hs hprogress
  have hroom : room graph [] + (graph.size + 1) ≤ depthBound graph := by
    have hsquare : room graph [] + (graph.size + 1) = (graph.size + 1) * (graph.size + 1) := by
      rw [room, List.length_nil, Nat.sub_zero, Nat.succ_mul]
    rw [hsquare, depthBound]
    omega
  exact planWithin_fails hclosed hends List.nodup_nil (List.nil_subset _) hroom h
    ⟨hid, (hends id hid).shallow⟩ hs hprogress

/-- Entries that end fail for a reason. -/
theorem planEntries_fails {entries : List TypeId} {error : PlanError}
    (h : planEntries graph routing entries state = .error error) (hm : ∀ entry ∈ entries, P entry)
    (hs : state.Sound graph) (hprogress : state.inProgress = []) :
    Causes graph routing P error := by
  induction entries generalizing state with
  | nil => cases h
  | cons entry rest ih =>
    rcases bind_eq_error.mp h with hfirst | ⟨⟨rule, state₁⟩, hfirst, hrest⟩
    · exact planType_fails hclosed hends hfirst (hm entry List.mem_cons_self) hs hprogress
    · obtain ⟨hs₁, hext, -⟩ := planWithin_sound graph routing (depthBound graph) hfirst hs
      exact ih hrest (fun other ho => hm other (List.mem_cons_of_mem _ ho)) hs₁
        (hext.inProgress.trans hprogress)

end Ends

/-- In plannable types there is no reason to fail. -/
theorem Plannable.not_causes (hP : Plannable graph P) {error : PlanError} :
    ¬Causes graph .codec P error := by
  intro h
  cases h with
  | dangling hid ht =>
    obtain ⟨type, htype⟩ := hP.type _ hid
    cases ht.symm.trans htype
  | kind hid ht => exact (hP.supported _ hid).kind _ ht
  | member hid ht hshape hm hany =>
    exact (hP.supported _ hid).members _ _ ht hshape _ hm hany
  | rejected _ _ hrouting => cases hrouting

/-- Every plannable type is planned. -/
theorem planType_total (hP : Plannable graph P) {context : Option PlanContext} {id : TypeId}
    (hid : P id) (hs : state.Sound graph) (hprogress : state.inProgress = []) :
    ∃ result, planType graph .codec context id state = .ok result := by
  cases h : planType graph .codec context id state with
  | ok result => exact ⟨result, rfl⟩
  | error error =>
    exact absurd (planType_fails hP.refers hP.ends h hid hs hprogress) hP.not_causes

/-- Plannable entries are planned. -/
theorem planEntries_total (hP : Plannable graph P) {entries : List TypeId}
    (hm : ∀ entry ∈ entries, P entry) (hs : state.Sound graph) (hprogress : state.inProgress = []) :
    ∃ state', planEntries graph .codec entries state = .ok state' := by
  cases h : planEntries graph .codec entries state with
  | ok state' => exact ⟨state', rfl⟩
  | error error =>
    exact absurd (planEntries_fails hP.refers hP.ends h hm hs hprogress) hP.not_causes

end Hydration.Plan
