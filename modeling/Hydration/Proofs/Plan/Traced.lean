import Hydration.Proofs.Plan.Mirror

/-!
# What the walk enters

The walk with a list of the classes and unions whose fields and members it goes
through, in the order in which it begins with them. Without the list it is the
walk of the planner, whether it succeeds or fails. No type is in the list twice,
since a type in it is under construction or recorded from then on.
-/

namespace Hydration

namespace Plan

/-- A computation that enters types. -/
structure Traced (α : Type) where
  /-- The types, in the order in which they are entered. -/
  entered : List TypeId
  /-- The result. -/
  result : Except PlanError α

namespace Traced

variable {α β : Type}

/-- A computation that enters nothing. -/
def of (result : Except PlanError α) : Traced α := ⟨[], result⟩

/-- Enter a type. -/
def enter (id : TypeId) : Traced Unit := ⟨[id], .ok ()⟩

instance : Monad Traced where
  pure a := .of (.ok a)
  bind x f :=
    match x.result with
    | .ok a => ⟨x.entered ++ (f a).entered, (f a).result⟩
    | .error error => ⟨x.entered, .error error⟩

/-- What a walk enters goes before what is entered after it. -/
theorem entered_bind_of_ok {x : Traced α} {f : α → Traced β} {a : α} (h : x.result = .ok a) :
    (x >>= f).entered = x.entered ++ (f a).entered := by
  simp only [bind, h]

/-- Nothing is entered after an error. -/
theorem entered_bind_of_error {x : Traced α} {f : α → Traced β} {error : PlanError}
    (h : x.result = .error error) : (x >>= f).entered = x.entered := by
  simp only [bind, h]

/-- The result of a traced walk is that of the walk. -/
theorem result_bind (x : Traced α) (f : α → Traced β) :
    (x >>= f).result = x.result >>= fun a => (f a).result := by
  cases h : x.result <;> simp [bind, Except.bind, h]

end Traced

/-! ## The walk with its list -/

/-- A planner that enters types. -/
abbrev TracedPlanner := Option PlanContext → TypeId → State → Traced (Rule × State)

/-- The planner without the list of what it enters. -/
def TracedPlanner.erase (plan : TracedPlanner) : Planner :=
  fun context id state => (plan context id state).result

/-- Plan the fields of a class in order. -/
def tracedFields (plan : TracedPlanner) (className : String) :
    List (String × Field) → State → Traced (List FieldConverter × State)
  | [], state => pure ([], state)
  | (key, field) :: rest, state => do
    let (rule, state) ← plan (some ⟨className, key⟩) field.type state
    let (fields, state) ← tracedFields plan className rest state
    return (⟨key, field.optional, rule⟩ :: fields, state)

/-- Add a member of a union to its codec. -/
def tracedMember (graph : TypeGraph) (plan : TracedPlanner) (codec : UnionCodec) (state : State)
    (member : TypeId) : Traced (UnionCodec × State) :=
  match graph.get? member with
  | none => .of (.error (.danglingType member))
  | some .any => .of (.error (.unsupportedUnionMember .any))
  | some .null => pure ({ codec with nullable := true }, state)
  | some .bool => pure ({ codec with boolean := true }, state)
  | some .integer => pure ({ codec with integer := true }, state)
  | some .double => pure ({ codec with double := true }, state)
  | some .string => pure ({ codec with string := some .plain }, state)
  | some (.transformed kind) => do
    return ({ codec with string := some (.transformed (← .of (supported kind))) }, state)
  | some (.array items) => do
    let (rule, state) ← plan none items state
    return ({ codec with array := some rule }, state)
  | some (.map values) => do
    let (rule, state) ← plan none values state
    return ({ codec with map := some rule }, state)
  | some (.classType _) => do
    let (_, state) ← plan none member state
    return ({ codec with classMember := some member }, state)
  | some (.enumType shape) =>
    pure ({ codec with enumeration := some member }, state.recordEnum member shape)
  | some (.union _) => .of (.error .nestedUnion)

/-- Add the members of a union to its codec in order. -/
def tracedMembers (graph : TypeGraph) (plan : TracedPlanner) :
    List TypeId → UnionCodec → State → Traced (UnionCodec × State)
  | [], codec, state => pure (codec, state)
  | member :: rest, codec, state => do
    let (codec, state) ← tracedMember graph plan codec state member
    tracedMembers graph plan rest codec state

/-- Plan a type within a bound, and note the classes and unions of several members that are
entered. -/
def tracedWithin (graph : TypeGraph) (routing : UnionRouting) : Nat → TracedPlanner
  | 0, _, id, _ => .of (.error (.endlessType id))
  | bound + 1, context, id, state =>
    match graph.get? id with
    | none => .of (.error (.danglingType id))
    | some .any => pure (.copy .any, state)
    | some .null => pure (.copy .null, state)
    | some .bool => pure (.copy .bool, state)
    | some .integer => pure (.copy .integer, state)
    | some .double => pure (.copy .double, state)
    | some .string => pure (.copy .string, state)
    | some (.transformed kind) => do return (.transformed (← .of (supported kind)), state)
    | some (.array items) => do
      let (rule, state) ← tracedWithin graph routing bound context items state
      return (.array rule, state)
    | some (.map values) => do
      let (rule, state) ← tracedWithin graph routing bound context values state
      return (.map rule, state)
    | some (.classType shape) =>
      if state.knowsClass id then pure (.classRef id, state)
      else do
        Traced.enter id
        let (fields, state) ←
          tracedFields (tracedWithin graph routing bound) shape.name shape.fields.entries
            (state.enter id)
        return (.classRef id, state.recordClass ⟨id, shape.name, fields⟩)
    | some (.enumType shape) => pure (.enumRef id, state.recordEnum id shape)
    | some (.union members) =>
      match graph.unionShape members with
      | .nullOnly => pure (.copy .null, state)
      | .single member => tracedWithin graph routing bound context member state
      | .nullable member => do
        let (rule, state) ← tracedWithin graph routing bound context member state
        return (.nullable rule, state)
      | .multi _ =>
        match routing with
        | .reject => .of (.error (.unionInStructuralConverter id context))
        | .codec =>
          if state.knowsUnion id then pure (.unionRef id, state)
          else do
            Traced.enter id
            let (codec, state) ←
              tracedMembers graph (tracedWithin graph routing bound) members.toList
                (UnionCodec.blank id) (state.enter id)
            return (.unionRef id, state.recordUnion codec)

/-- Plan the entries in order. -/
def tracedEntries (graph : TypeGraph) (routing : UnionRouting) :
    List TypeId → State → Traced (Unit × State)
  | [], state => pure ((), state)
  | entry :: rest, state => do
    let (_, state) ← tracedWithin graph routing (depthBound graph) none entry state
    tracedEntries graph routing rest state

/-! ## The walk without its list -/

variable {graph : TypeGraph} {routing : UnionRouting} {state : State}

/-- Without its trace the walk over fields plans them. -/
theorem result_tracedFields (plan : TracedPlanner) (className : String)
    (entries : List (String × Field)) (state : State) :
    (tracedFields plan className entries state).result
      = planFields plan.erase className entries state := by
  induction entries generalizing state with
  | nil => rfl
  | cons entry rest ih =>
    obtain ⟨key, field⟩ := entry
    rw [tracedFields, Traced.result_bind, planFields]
    refine bind_congr fun ⟨rule, state⟩ => ?_
    rw [Traced.result_bind, ih]
    rfl

/-- Without its trace the walk over a member adds it. -/
theorem result_tracedMember (plan : TracedPlanner) (codec : UnionCodec) (state : State)
    (member : TypeId) :
    (tracedMember graph plan codec state member).result
      = addMember graph plan.erase codec state member := by
  unfold tracedMember addMember
  cases graph.get? member with
  | none => rfl
  | some type =>
    cases type with
    | transformed kind => exact Traced.result_bind _ _
    | array items => exact Traced.result_bind _ _
    | map values => exact Traced.result_bind _ _
    | classType shape => exact Traced.result_bind _ _
    | _ => rfl

/-- Without its trace the walk over members adds each of them. -/
theorem result_tracedMembers (plan : TracedPlanner) (members : List TypeId) (codec : UnionCodec)
    (state : State) :
    (tracedMembers graph plan members codec state).result
      = addMembers graph plan.erase members codec state := by
  induction members generalizing codec state with
  | nil => rfl
  | cons member rest ih =>
    rw [tracedMembers, Traced.result_bind, result_tracedMember, addMembers]
    exact bind_congr fun ⟨codec, state⟩ => ih codec state

/-- Without its list the walk is that of the planner. -/
theorem erase_tracedWithin (graph : TypeGraph) (routing : UnionRouting) (bound : Nat) :
    (tracedWithin graph routing bound).erase = planWithin graph routing bound := by
  induction bound with
  | zero => rfl
  | succ bound ih =>
    funext context id state
    unfold TracedPlanner.erase tracedWithin planWithin
    rw [← ih]
    cases graph.get? id with
    | none => rfl
    | some type =>
      cases type with
      | transformed kind => exact Traced.result_bind _ _
      | array items => exact Traced.result_bind _ _
      | map values => exact Traced.result_bind _ _
      | classType shape =>
        dsimp only
        split
        · rfl
        · refine (Traced.result_bind _ _).trans ((Traced.result_bind _ _).trans ?_)
          rw [result_tracedFields]
          rfl
      | union members =>
        dsimp only
        cases graph.unionShape members with
        | nullOnly => rfl
        | single member => rfl
        | nullable member => exact Traced.result_bind _ _
        | multi nullable =>
          cases routing with
          | reject => rfl
          | codec =>
            dsimp only
            split
            · rfl
            · refine (Traced.result_bind _ _).trans ((Traced.result_bind _ _).trans ?_)
              rw [result_tracedMembers]
              rfl
      | _ => rfl

/-- Without its trace the walk over entry points plans them all. -/
theorem result_tracedEntries (entries : List TypeId) (state : State) :
    (tracedEntries graph routing entries state).result
      = (fun state => ((), state)) <$> planEntries graph routing entries state := by
  induction entries generalizing state with
  | nil => rfl
  | cons entry rest ih =>
    rw [tracedEntries, Traced.result_bind, planEntries, planType,
      ← erase_tracedWithin graph routing, map_bind]
    exact bind_congr fun ⟨_, state⟩ => ih state

/-! ## Entering once -/

/-- A class or a union has been entered. -/
def State.Entered (state : State) (id : TypeId) : Prop :=
  id ∈ state.inProgress ∨ id ∈ state.converters.classes.keys ∨ id ∈ state.converters.unions.keys

/-- A class or a union of several members. -/
def Enterable (graph : TypeGraph) (id : TypeId) : Prop :=
  (∃ shape, graph.get? id = some (.classType shape)) ∨ graph.IsTrueUnion id

/-- Entering a class adds it to those that were entered. -/
theorem entered_enter (state : State) (id other : TypeId) :
    (state.enter id).Entered other ↔ other = id ∨ state.Entered other := by
  rw [State.Entered, State.enter, List.mem_cons, or_assoc]
  rfl

theorem entered_recordEnum (state : State) (id other : TypeId) (shape : EnumType) :
    (state.recordEnum id shape).Entered other ↔ state.Entered other := by
  unfold State.recordEnum
  split <;> rfl

/-- An entered class stays so when it is recorded. -/
theorem entered_recordClass {converter : ClassConverter} (h : state.Entered converter.id)
    (other : TypeId) : (state.recordClass converter).Entered other ↔ state.Entered other := by
  have hkeys : other ∈ (state.recordClass converter).converters.classes.keys
      ↔ other ∈ state.converters.classes.keys ∨ other = converter.id :=
    OrderedMap.mem_keys_insert _ _ _ _
  have hunions : (state.recordClass converter).converters.unions = state.converters.unions := rfl
  have hprogress : other ∈ (state.recordClass converter).inProgress
      ↔ other ∈ state.inProgress ∧ other ≠ converter.id :=
    List.mem_filter.trans (and_congr_right fun _ => bne_iff_ne)
  rw [State.Entered, hkeys, hunions, hprogress]
  by_cases hid : other = converter.id
  · exact iff_of_true (Or.inr (Or.inl (Or.inr hid))) (hid ▸ h)
  · simp [State.Entered, hid]

/-- An entered union stays so when it is recorded. -/
theorem entered_recordUnion {codec : UnionCodec} (h : state.Entered codec.id) (other : TypeId) :
    (state.recordUnion codec).Entered other ↔ state.Entered other := by
  have hkeys : other ∈ (state.recordUnion codec).converters.unions.keys
      ↔ other ∈ state.converters.unions.keys ∨ other = codec.id :=
    OrderedMap.mem_keys_insert _ _ _ _
  have hclasses : (state.recordUnion codec).converters.classes = state.converters.classes := rfl
  have hprogress : other ∈ (state.recordUnion codec).inProgress
      ↔ other ∈ state.inProgress ∧ other ≠ codec.id :=
    List.mem_filter.trans (and_congr_right fun _ => bne_iff_ne)
  rw [State.Entered, hkeys, hclasses, hprogress]
  by_cases hid : other = codec.id
  · exact iff_of_true (Or.inr (Or.inr (Or.inr hid))) (hid ▸ h)
  · simp [State.Entered, hid]

/-- A class that the walk enters has not been entered. -/
theorem not_entered_of_class (hs : state.Sound graph) {id : TypeId} {shape : ClassType}
    (ht : graph.get? id = some (.classType shape)) (hnew : ¬state.knowsClass id = true) :
    ¬state.Entered id := by
  rintro (hp | hc | hu)
  · exact notMem_of_not_knowsClass hnew hp
  · exact hnew (Bool.or_eq_true_iff.mpr (Or.inl (Option.isSome_iff_exists.mpr
      (OrderedMap.mem_keys_iff.mp hc))))
  · obtain ⟨codec, hcodec⟩ := OrderedMap.mem_keys_iff.mp hu
    obtain ⟨ht', -⟩ := hs.unions id codec hcodec
    cases ht.symm.trans ht'

/-- A union that the walk enters has not been entered. -/
theorem not_entered_of_union (hs : state.Sound graph) {id : TypeId}
    {members : OrderedSet TypeId} (ht : graph.get? id = some (.union members))
    (hnew : ¬state.knowsUnion id = true) : ¬state.Entered id := by
  rintro (hp | hc | hu)
  · exact notMem_of_not_knowsUnion hnew hp
  · obtain ⟨converter, hconverter⟩ := OrderedMap.mem_keys_iff.mp hc
    obtain ⟨ht', -⟩ := hs.classes id converter hconverter
    cases ht.symm.trans ht'
  · exact hnew (Bool.or_eq_true_iff.mpr (Or.inl (Option.isSome_iff_exists.mpr
      (OrderedMap.mem_keys_iff.mp hu))))

/-- A computation from a state enters classes and unions that have not been entered, each
once, and its final state is one in which these are entered too. -/
structure Traced.Once {α : Type} (graph : TypeGraph) (state : State) (x : Traced (α × State)) :
    Prop where
  /-- They are classes and unions of several members. -/
  enterable : ∀ id ∈ x.entered, Enterable graph id
  /-- Each is entered once. -/
  nodup : x.entered.Nodup
  /-- None has been entered. -/
  fresh : ∀ id ∈ x.entered, ¬state.Entered id
  /-- They, and no others, are entered in the end. -/
  final : ∀ a state', x.result = .ok (a, state') →
    ∀ id, state'.Entered id ↔ state.Entered id ∨ id ∈ x.entered

namespace Traced.Once

variable {α β : Type}

/-- Nothing is entered. -/
theorem of_silent {x : Traced (α × State)} (h : x.entered = [])
    (hfinal : ∀ a state', x.result = .ok (a, state') →
      ∀ id, state'.Entered id ↔ state.Entered id) : x.Once graph state where
  enterable := by simp [h]
  nodup := by simp [h]
  fresh := by simp [h]
  final a state' hr id := by simp [h, hfinal a state' hr id]

theorem pure (a : α) (state : State) : Traced.Once graph state (Pure.pure (a, state)) :=
  of_silent rfl fun _ _ h _ => by
    cases h
    rfl

theorem error {error : PlanError} :
    Traced.Once graph state (Traced.of (.error error) : Traced (α × State)) :=
  of_silent rfl fun _ _ h => nomatch h

/-- What two computations enter one after the other. -/
theorem bind {x : Traced (α × State)} {f : α × State → Traced (β × State)}
    (hx : x.Once graph state)
    (hf : ∀ a state', x.result = .ok (a, state') → (f (a, state')).Once graph state') :
    (x >>= f).Once graph state := by
  cases hr : x.result with
  | error error =>
    have hentered : (x >>= f).entered = x.entered := entered_bind_of_error hr
    refine ⟨?_, ?_, ?_, fun b state' h => ?_⟩
    · exact hentered ▸ hx.enterable
    · exact hentered ▸ hx.nodup
    · exact hentered ▸ hx.fresh
    · rw [result_bind, hr] at h
      cases h
  | ok result =>
    obtain ⟨a, state₁⟩ := result
    have hentered : (x >>= f).entered = x.entered ++ (f (a, state₁)).entered :=
      entered_bind_of_ok hr
    have hnext := hf a state₁ hr
    have hmid := hx.final a state₁ hr
    refine ⟨?_, ?_, ?_, fun b state' h id => ?_⟩
    · rw [hentered]
      exact List.forall_mem_append.mpr ⟨hx.enterable, hnext.enterable⟩
    · rw [hentered, List.nodup_append']
      exact ⟨hx.nodup, hnext.nodup,
        fun id hm hm' => hnext.fresh id hm' ((hmid id).mpr (Or.inr hm))⟩
    · rw [hentered]
      exact List.forall_mem_append.mpr
        ⟨hx.fresh, fun id hm hs => hnext.fresh id hm ((hmid id).mpr (Or.inl hs))⟩
    · rw [result_bind, hr] at h
      rw [hentered, List.mem_append, ← or_assoc, ← hmid id]
      exact hnext.final b state' h id

/-- A type is entered and then what a computation enters. -/
theorem enter {x : Traced (α × State)} {id : TypeId} (hid : Enterable graph id)
    (hnew : ¬state.Entered id) (hx : x.Once graph (state.enter id)) :
    (Traced.enter id >>= fun _ => x).Once graph state where
  enterable := List.forall_mem_cons.mpr ⟨hid, hx.enterable⟩
  nodup := List.nodup_cons.mpr
    ⟨fun hm => hx.fresh id hm ((entered_enter state id id).mpr (Or.inl rfl)), hx.nodup⟩
  fresh := List.forall_mem_cons.mpr
    ⟨hnew, fun other hm hs => hx.fresh other hm ((entered_enter state id other).mpr (Or.inr hs))⟩
  final a state' h other := by
    have hentered : (Traced.enter id >>= fun _ => x).entered = id :: x.entered := rfl
    rw [hx.final a state' h other, entered_enter, hentered, List.mem_cons, or_left_comm, or_assoc]

end Traced.Once

/-- A planner that enters each class and each union once. -/
def TracedPlanner.Once (graph : TypeGraph) (plan : TracedPlanner) : Prop :=
  ∀ (context : Option PlanContext) (id : TypeId) (state : State), state.Sound graph →
    (plan context id state).Once graph state

section Parts

variable {plan : TracedPlanner} (hsound : Planner.Sound graph plan.erase)
  (honce : plan.Once graph)
include hsound honce

/-- The walk over fields enters each body once. -/
theorem tracedFields_once (className : String) (entries : List (String × Field))
    (hs : state.Sound graph) : (tracedFields plan className entries state).Once graph state := by
  induction entries generalizing state with
  | nil => exact .pure _ _
  | cons entry rest ih =>
    obtain ⟨key, field⟩ := entry
    refine (honce _ _ state hs).bind fun rule state₁ hrule => ?_
    have hs₁ : state₁.Sound graph := (hsound hrule hs).1
    exact (ih hs₁).bind fun fields state₂ _ => .pure _ _

omit hsound in
/-- The walk over a member enters each body once. -/
theorem tracedMember_once (codec : UnionCodec) (member : TypeId) (hs : state.Sound graph) :
    (tracedMember graph plan codec state member).Once graph state := by
  unfold tracedMember
  cases graph.get? member with
  | none => exact .error
  | some type =>
    cases type with
    | any => exact .error
    | union members => exact .error
    | transformed kind =>
      cases kind with
      | known kind => exact .pure _ _
      | other name => exact .error
    | array items => exact (honce _ _ state hs).bind fun rule state₁ _ => .pure _ _
    | map values => exact (honce _ _ state hs).bind fun rule state₁ _ => .pure _ _
    | classType shape => exact (honce _ _ state hs).bind fun rule state₁ _ => .pure _ _
    | enumType shape =>
      refine .of_silent rfl fun _ _ h other => ?_
      cases h
      exact entered_recordEnum state member other shape
    | _ => exact .pure _ _

/-- The walk over members enters each body once. -/
theorem tracedMembers_once (members : List TypeId) (codec : UnionCodec) (hs : state.Sound graph) :
    (tracedMembers graph plan members codec state).Once graph state := by
  induction members generalizing codec state with
  | nil => exact .pure _ _
  | cons member rest ih =>
    refine (tracedMember_once honce codec member hs).bind fun codec₁ state₁ hmember => ?_
    rw [result_tracedMember] at hmember
    exact ih codec₁ (addMember_sound hsound hmember hs).1

end Parts

/-- The walk enters each class and each union once. -/
theorem tracedWithin_once (graph : TypeGraph) (routing : UnionRouting) (bound : Nat) :
    TracedPlanner.Once graph (tracedWithin graph routing bound) := by
  induction bound with
  | zero =>
    intro context id state hs
    exact .error
  | succ bound ih =>
    intro context id state hs
    have hsound : Planner.Sound graph (tracedWithin graph routing bound).erase := by
      rw [erase_tracedWithin]
      exact planWithin_sound graph routing bound
    unfold tracedWithin
    cases ht : graph.get? id with
    | none => exact .error
    | some type =>
      cases type with
      | transformed kind =>
        cases kind with
        | known kind => exact .pure _ _
        | other name => exact .error
      | array items => exact (ih _ _ state hs).bind fun rule state₁ _ => .pure _ _
      | map values => exact (ih _ _ state hs).bind fun rule state₁ _ => .pure _ _
      | enumType shape =>
        refine .of_silent rfl fun _ _ h other => ?_
        cases h
        exact entered_recordEnum state id other shape
      | classType shape =>
        dsimp only
        split
        · exact .pure _ _
        · rename_i hnew
          refine .enter (Or.inl ⟨shape, ht⟩) (not_entered_of_class hs ht hnew) ?_
          have hfields := tracedFields_once hsound ih shape.name shape.fields.entries (hs.enter id)
          refine hfields.bind fun fields state₁ hr => .of_silent rfl fun _ _ h other => ?_
          cases h
          refine entered_recordClass ?_ other
          have hself := (entered_enter state id id).mpr (Or.inl rfl)
          exact (hfields.final _ _ hr id).mpr (Or.inl hself)
      | union members =>
        dsimp only
        cases hshape : graph.unionShape members with
        | nullOnly => exact .pure _ _
        | single member => exact ih _ _ state hs
        | nullable member => exact (ih _ _ state hs).bind fun rule state₁ _ => .pure _ _
        | multi nullable =>
          cases routing with
          | reject => exact .error
          | codec =>
            dsimp only
            split
            · exact .pure _ _
            · rename_i hnew
              refine .enter (Or.inr ⟨members, nullable, ht, hshape⟩)
                (not_entered_of_union hs ht hnew) ?_
              have hmembers := tracedMembers_once hsound ih members.toList (UnionCodec.blank id)
                (hs.enter id)
              refine hmembers.bind fun codec state₁ hr => .of_silent rfl fun _ _ h other => ?_
              cases h
              have hfinal := hmembers.final _ _ hr id
              rw [result_tracedMembers] at hr
              obtain rfl : codec.id = id := addMembers_id hr
              refine entered_recordUnion (hfinal.mpr (Or.inl ?_)) other
              exact (entered_enter state _ _).mpr (Or.inl rfl)
      | _ => exact .pure _ _

/-- The walks from the entries enter each class and each union once. -/
theorem tracedEntries_once (entries : List TypeId) (hs : state.Sound graph) :
    (tracedEntries graph routing entries state).Once graph state := by
  induction entries generalizing state with
  | nil => exact .pure _ _
  | cons entry rest ih =>
    refine (tracedWithin_once graph routing _ none entry state hs).bind fun rule state₁ hrule => ?_
    have hsound : Planner.Sound graph (tracedWithin graph routing (depthBound graph)).erase := by
      rw [erase_tracedWithin]
      exact planWithin_sound graph routing (depthBound graph)
    exact ih (hsound hrule hs).1

end Plan

namespace Converters

open Plan (Traced State Enterable)

/-- Build a plan, and note the classes and unions of several members that are entered. -/
def tracedBuild (graph : TypeGraph) (entries : List TypeId) (routing : UnionRouting) :
    Traced Converters :=
  match entries.find? fun entry => (graph.class? entry).isNone with
  | some entry => .of (.error (.notAClass entry))
  | none => do
    .of (graph.checkCycles entries)
    let (_, state) ← Plan.tracedEntries graph routing entries State.start
    return { state.converters with entries }

variable {graph : TypeGraph} {entries : List TypeId} {routing : UnionRouting}

/-- Without its list the build is that of the plan. -/
theorem result_tracedBuild :
    (tracedBuild graph entries routing).result = build graph entries routing := by
  unfold tracedBuild build
  cases entries.find? fun entry => (graph.class? entry).isNone with
  | some entry => rfl
  | none =>
    dsimp only
    rw [Traced.result_bind]
    refine bind_congr fun _ => ?_
    rw [Traced.result_bind, Plan.result_tracedEntries, bind_map_left]
    rfl

/-- A build enters nothing and fails, or it enters what the walks from its entries enter. -/
theorem tracedBuild_entered (graph : TypeGraph) (entries : List TypeId) (routing : UnionRouting) :
    ((tracedBuild graph entries routing).entered = []
        ∧ ∀ plan, build graph entries routing ≠ .ok plan)
      ∨ (tracedBuild graph entries routing).entered
        = (Plan.tracedEntries graph routing entries State.start).entered := by
  rw [← result_tracedBuild]
  unfold tracedBuild
  cases entries.find? fun entry => (graph.class? entry).isNone with
  | some entry => exact Or.inl ⟨rfl, nofun⟩
  | none =>
    dsimp only
    cases hcycles : graph.checkCycles entries with
    | error error => exact Or.inl ⟨rfl, nofun⟩
    | ok =>
      refine Or.inr ?_
      rw [Traced.entered_bind_of_ok rfl]
      cases hr : (Plan.tracedEntries graph routing entries State.start).result with
      | error error => exact Traced.entered_bind_of_error hr
      | ok result =>
        rw [Traced.entered_bind_of_ok hr]
        exact List.append_nil _

/-- A build enters classes and unions of several members, each at most once, whether it
succeeds or fails. When it succeeds, it has entered those that the plan records. -/
theorem entered_once (graph : TypeGraph) (entries : List TypeId) (routing : UnionRouting) :
    (tracedBuild graph entries routing).result = build graph entries routing
      ∧ (tracedBuild graph entries routing).entered.Nodup
      ∧ (∀ id ∈ (tracedBuild graph entries routing).entered, Enterable graph id)
      ∧ ∀ plan, build graph entries routing = .ok plan → ∀ id,
        id ∈ (tracedBuild graph entries routing).entered
          ↔ id ∈ plan.classes.keys ∨ id ∈ plan.unions.keys := by
  refine ⟨result_tracedBuild, ?_⟩
  rcases tracedBuild_entered graph entries routing with ⟨hnone, hfails⟩ | hentered
  · rw [hnone]
    exact ⟨List.nodup_nil, List.forall_mem_nil _, fun plan h => absurd h (hfails plan)⟩
  · have honce := @Plan.tracedEntries_once graph routing _ entries (Plan.sound_start graph)
    rw [hentered]
    refine ⟨honce.nodup, honce.enterable, fun plan h id => ?_⟩
    obtain ⟨-, -, state, hstate, rfl⟩ := build_eq_ok.mp h
    have hr : (Plan.tracedEntries graph routing entries State.start).result = .ok ((), state) := by
      rw [Plan.result_tracedEntries, hstate]
      rfl
    have hfinal := honce.final () state hr id
    obtain ⟨-, hext, -⟩ := Plan.planEntries_sound hstate (Plan.sound_start graph)
    have hstart : ¬State.start.Entered id := by
      rintro (hm | hm | hm) <;> cases hm
    have hnone : id ∉ state.inProgress := by
      rw [hext.inProgress]
      exact List.not_mem_nil
    exact ((or_iff_right hstart).symm.trans hfinal.symm).trans (or_iff_right hnone)

end Converters

end Hydration
