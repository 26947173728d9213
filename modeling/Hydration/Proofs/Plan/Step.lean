import Hydration.Plan.Builder
import Hydration.Proofs.Structure

/-!
# Steps of the planner

What the walk does at one type, and what is added to a codec for one member,
given what a planner does at the types inside. Every invariant of the walk is a
case analysis of these two relations. Two others say why the walk stops at a
type, and why a member is refused; one of the two happens, and so each of the
relations is all that can.
-/

namespace Hydration.Plan

/-- A member is added to a codec. -/
inductive Adds (graph : TypeGraph) (plan : Planner) (codec : UnionCodec) (state : State)
    (member : TypeId) : UnionCodec → State → Prop where
  /-- Null. -/
  | null (ht : graph.get? member = some .null) :
      Adds graph plan codec state member { codec with nullable := true } state
  /-- Booleans. -/
  | bool (ht : graph.get? member = some .bool) :
      Adds graph plan codec state member { codec with boolean := true } state
  /-- Integers. -/
  | integer (ht : graph.get? member = some .integer) :
      Adds graph plan codec state member { codec with integer := true } state
  /-- Doubles. -/
  | double (ht : graph.get? member = some .double) :
      Adds graph plan codec state member { codec with double := true } state
  /-- Strings as they are. -/
  | string (ht : graph.get? member = some .string) :
      Adds graph plan codec state member { codec with string := some .plain } state
  /-- Strings with an interpretation. -/
  | transformed {kind : TransformKind}
      (ht : graph.get? member = some (.transformed (.known kind))) :
      Adds graph plan codec state member { codec with string := some (.transformed kind) } state
  /-- Arrays, by the rule of their items. -/
  | array {items : TypeId} {rule : Rule} {state' : State}
      (ht : graph.get? member = some (.array items))
      (hitems : plan none items state = .ok (rule, state')) :
      Adds graph plan codec state member { codec with array := some rule } state'
  /-- Maps, by the rule of their values. -/
  | map {values : TypeId} {rule : Rule} {state' : State}
      (ht : graph.get? member = some (.map values))
      (hvalues : plan none values state = .ok (rule, state')) :
      Adds graph plan codec state member { codec with map := some rule } state'
  /-- A class, which is planned. -/
  | classMember {shape : ClassType} {rule : Rule} {state' : State}
      (ht : graph.get? member = some (.classType shape))
      (hmember : plan none member state = .ok (rule, state')) :
      Adds graph plan codec state member { codec with classMember := some member } state'
  /-- An enum, which is recorded. -/
  | enumeration {shape : EnumType} (ht : graph.get? member = some (.enumType shape)) :
      Adds graph plan codec state member { codec with enumeration := some member }
        (state.recordEnum member shape)

/-- A member is refused. -/
inductive Refuses (graph : TypeGraph) (plan : Planner) (state : State) (member : TypeId) :
    PlanError → Prop where
  /-- It is not part of the graph. -/
  | dangling (ht : graph.get? member = none) :
      Refuses graph plan state member (.danglingType member)
  /-- It accepts every value. -/
  | any (ht : graph.get? member = some .any) :
      Refuses graph plan state member (.unsupportedUnionMember .any)
  /-- It is a union. -/
  | nested {members : OrderedSet TypeId} (ht : graph.get? member = some (.union members)) :
      Refuses graph plan state member .nestedUnion
  /-- It is a string with an unknown interpretation. -/
  | kind {name : String} (ht : graph.get? member = some (.transformed (.other name))) :
      Refuses graph plan state member (.unsupportedStringKind name)
  /-- It is an array whose items are not planned. -/
  | items {items : TypeId} {error : PlanError} (ht : graph.get? member = some (.array items))
      (hitems : plan none items state = .error error) : Refuses graph plan state member error
  /-- It is a map whose values are not planned. -/
  | values {values : TypeId} {error : PlanError} (ht : graph.get? member = some (.map values))
      (hvalues : plan none values state = .error error) : Refuses graph plan state member error
  /-- It is a class that is not planned. -/
  | classMember {shape : ClassType} {error : PlanError}
      (ht : graph.get? member = some (.classType shape))
      (hmember : plan none member state = .error error) : Refuses graph plan state member error

/-- The walk plans a type. -/
inductive Step (graph : TypeGraph) (routing : UnionRouting) (plan : Planner)
    (context : Option PlanContext) (id : TypeId) (state : State) : Rule → State → Prop where
  /-- Anything. -/
  | any (ht : graph.get? id = some .any) :
      Step graph routing plan context id state (.copy .any) state
  /-- Null. -/
  | null (ht : graph.get? id = some .null) :
      Step graph routing plan context id state (.copy .null) state
  /-- Booleans. -/
  | bool (ht : graph.get? id = some .bool) :
      Step graph routing plan context id state (.copy .bool) state
  /-- Integers. -/
  | integer (ht : graph.get? id = some .integer) :
      Step graph routing plan context id state (.copy .integer) state
  /-- Doubles. -/
  | double (ht : graph.get? id = some .double) :
      Step graph routing plan context id state (.copy .double) state
  /-- Strings as they are. -/
  | string (ht : graph.get? id = some .string) :
      Step graph routing plan context id state (.copy .string) state
  /-- Strings with an interpretation. -/
  | transformed {kind : TransformKind} (ht : graph.get? id = some (.transformed (.known kind))) :
      Step graph routing plan context id state (.transformed kind) state
  /-- Arrays, by the rule of their items. -/
  | array {items : TypeId} {rule : Rule} {state' : State}
      (ht : graph.get? id = some (.array items))
      (hitems : plan context items state = .ok (rule, state')) :
      Step graph routing plan context id state (.array rule) state'
  /-- Maps, by the rule of their values. -/
  | map {values : TypeId} {rule : Rule} {state' : State}
      (ht : graph.get? id = some (.map values))
      (hvalues : plan context values state = .ok (rule, state')) :
      Step graph routing plan context id state (.map rule) state'
  /-- A class that is planned or under construction. -/
  | knownClass {shape : ClassType} (ht : graph.get? id = some (.classType shape))
      (hknown : state.knowsClass id = true) :
      Step graph routing plan context id state (.classRef id) state
  /-- A class that the walk enters. -/
  | newClass {shape : ClassType} {fields : List FieldConverter} {state' : State}
      (ht : graph.get? id = some (.classType shape)) (hnew : ¬state.knowsClass id = true)
      (hfields : planFields plan shape.name shape.fields.entries (state.enter id)
        = .ok (fields, state')) :
      Step graph routing plan context id state (.classRef id)
        (state'.recordClass ⟨id, shape.name, fields⟩)
  /-- An enum. -/
  | enumType {shape : EnumType} (ht : graph.get? id = some (.enumType shape)) :
      Step graph routing plan context id state (.enumRef id) (state.recordEnum id shape)
  /-- A union of nothing but null. -/
  | nullOnly {members : OrderedSet TypeId} (ht : graph.get? id = some (.union members))
      (hshape : graph.unionShape members = .nullOnly) :
      Step graph routing plan context id state (.copy .null) state
  /-- A union that stands for its only member. -/
  | single {members : OrderedSet TypeId} {member : TypeId} {rule : Rule} {state' : State}
      (ht : graph.get? id = some (.union members))
      (hshape : graph.unionShape members = .single member)
      (hmember : plan context member state = .ok (rule, state')) :
      Step graph routing plan context id state rule state'
  /-- A union of null and a member. -/
  | nullable {members : OrderedSet TypeId} {member : TypeId} {rule : Rule} {state' : State}
      (ht : graph.get? id = some (.union members))
      (hshape : graph.unionShape members = .nullable member)
      (hmember : plan context member state = .ok (rule, state')) :
      Step graph routing plan context id state (.nullable rule) state'
  /-- A union of several members that is planned or under construction. -/
  | knownUnion {members : OrderedSet TypeId} {nullable : Bool}
      (ht : graph.get? id = some (.union members))
      (hshape : graph.unionShape members = .multi nullable) (hrouting : routing = .codec)
      (hknown : state.knowsUnion id = true) :
      Step graph routing plan context id state (.unionRef id) state
  /-- A union of several members that the walk enters. -/
  | newUnion {members : OrderedSet TypeId} {nullable : Bool} {codec : UnionCodec} {state' : State}
      (ht : graph.get? id = some (.union members))
      (hshape : graph.unionShape members = .multi nullable) (hrouting : routing = .codec)
      (hnew : ¬state.knowsUnion id = true)
      (hmembers : addMembers graph plan members.toList (UnionCodec.blank id) (state.enter id)
        = .ok (codec, state')) :
      Step graph routing plan context id state (.unionRef id) (state'.recordUnion codec)

/-- The walk stops at a type. -/
inductive Stops (graph : TypeGraph) (routing : UnionRouting) (plan : Planner)
    (context : Option PlanContext) (id : TypeId) (state : State) : PlanError → Prop where
  /-- It is not part of the graph. -/
  | dangling (ht : graph.get? id = none) :
      Stops graph routing plan context id state (.danglingType id)
  /-- It is a string with an unknown interpretation. -/
  | kind {name : String} (ht : graph.get? id = some (.transformed (.other name))) :
      Stops graph routing plan context id state (.unsupportedStringKind name)
  /-- It is an array whose items are not planned. -/
  | items {items : TypeId} {error : PlanError} (ht : graph.get? id = some (.array items))
      (hitems : plan context items state = .error error) :
      Stops graph routing plan context id state error
  /-- It is a map whose values are not planned. -/
  | values {values : TypeId} {error : PlanError} (ht : graph.get? id = some (.map values))
      (hvalues : plan context values state = .error error) :
      Stops graph routing plan context id state error
  /-- It is a class that the walk enters and whose fields are not planned. -/
  | fields {shape : ClassType} {error : PlanError} (ht : graph.get? id = some (.classType shape))
      (hnew : ¬state.knowsClass id = true)
      (hfields : planFields plan shape.name shape.fields.entries (state.enter id) = .error error) :
      Stops graph routing plan context id state error
  /-- It is a union that stands for a member, or makes one nullable, which is not planned. -/
  | member {members : OrderedSet TypeId} {member : TypeId} {error : PlanError}
      (ht : graph.get? id = some (.union members))
      (hshape : graph.unionShape members = .single member
        ∨ graph.unionShape members = .nullable member)
      (hmember : plan context member state = .error error) :
      Stops graph routing plan context id state error
  /-- It is a union of several members, which the routing rejects. -/
  | rejected {members : OrderedSet TypeId} {nullable : Bool}
      (ht : graph.get? id = some (.union members))
      (hshape : graph.unionShape members = .multi nullable) (hrouting : routing = .reject) :
      Stops graph routing plan context id state (.unionInStructuralConverter id context)
  /-- It is a union of several members that the walk enters and of which one is refused. -/
  | members {members : OrderedSet TypeId} {nullable : Bool} {error : PlanError}
      (ht : graph.get? id = some (.union members))
      (hshape : graph.unionShape members = .multi nullable) (hrouting : routing = .codec)
      (hnew : ¬state.knowsUnion id = true)
      (hmembers : addMembers graph plan members.toList (UnionCodec.blank id) (state.enter id)
        = .error error) :
      Stops graph routing plan context id state error

section Member

variable {graph : TypeGraph} {plan : Planner} {codec codec' : UnionCodec} {state state' : State}
  {member : TypeId}

/-- A member is added to the codec as described. -/
theorem Adds.addMember_eq (h : Adds graph plan codec state member codec' state') :
    addMember graph plan codec state member = .ok (codec', state') := by
  unfold addMember
  cases h with
  | array ht hitems =>
    rw [ht]
    exact bind_eq_ok.mpr ⟨_, hitems, rfl⟩
  | map ht hvalues =>
    rw [ht]
    exact bind_eq_ok.mpr ⟨_, hvalues, rfl⟩
  | classMember ht hmember =>
    rw [ht]
    exact bind_eq_ok.mpr ⟨_, hmember, rfl⟩
  | transformed ht =>
    rw [ht]
    rfl
  | _ ht => rw [ht]

/-- A member is refused as described. -/
theorem Refuses.addMember_eq {error : PlanError} (h : Refuses graph plan state member error) :
    addMember graph plan codec state member = .error error := by
  unfold addMember
  cases h with
  | dangling ht => rw [ht]
  | any ht => rw [ht]
  | nested ht => rw [ht]
  | kind ht =>
    rw [ht]
    rfl
  | items ht hitems =>
    rw [ht]
    exact bind_eq_error.mpr (Or.inl hitems)
  | values ht hvalues =>
    rw [ht]
    exact bind_eq_error.mpr (Or.inl hvalues)
  | classMember ht hmember =>
    rw [ht]
    exact bind_eq_error.mpr (Or.inl hmember)

/-- Every member is added or refused. -/
theorem adds_or_refuses (graph : TypeGraph) (plan : Planner) (codec : UnionCodec) (state : State)
    (member : TypeId) : (∃ codec' state', Adds graph plan codec state member codec' state')
      ∨ ∃ error, Refuses graph plan state member error := by
  cases ht : graph.get? member with
  | none => exact Or.inr ⟨_, .dangling ht⟩
  | some type =>
    cases type with
    | any => exact Or.inr ⟨_, .any ht⟩
    | union members => exact Or.inr ⟨_, .nested ht⟩
    | null => exact Or.inl ⟨_, _, .null ht⟩
    | bool => exact Or.inl ⟨_, _, .bool ht⟩
    | integer => exact Or.inl ⟨_, _, .integer ht⟩
    | double => exact Or.inl ⟨_, _, .double ht⟩
    | string => exact Or.inl ⟨_, _, .string ht⟩
    | transformed kind =>
      cases kind with
      | known kind => exact Or.inl ⟨_, _, .transformed ht⟩
      | other name => exact Or.inr ⟨_, .kind ht⟩
    | array items =>
      cases hitems : plan none items state with
      | ok result => exact Or.inl ⟨_, _, .array ht hitems⟩
      | error error => exact Or.inr ⟨_, .items ht hitems⟩
    | map values =>
      cases hvalues : plan none values state with
      | ok result => exact Or.inl ⟨_, _, .map ht hvalues⟩
      | error error => exact Or.inr ⟨_, .values ht hvalues⟩
    | classType shape =>
      cases hmember : plan none member state with
      | ok result => exact Or.inl ⟨_, _, .classMember ht hmember⟩
      | error error => exact Or.inr ⟨_, .classMember ht hmember⟩
    | enumType shape => exact Or.inl ⟨_, _, .enumeration ht⟩

/-- A member is added as the relation says. -/
theorem addMember_eq_ok : addMember graph plan codec state member = .ok (codec', state')
    ↔ Adds graph plan codec state member codec' state' := by
  refine ⟨fun h => ?_, Adds.addMember_eq⟩
  rcases adds_or_refuses graph plan codec state member with ⟨codec₁, state₁, hadds⟩ | ⟨error, hr⟩
  · cases h.symm.trans hadds.addMember_eq
    exact hadds
  · cases h.symm.trans hr.addMember_eq

/-- A member is refused as the relation says. -/
theorem addMember_eq_error {error : PlanError} :
    addMember graph plan codec state member = .error error
      ↔ Refuses graph plan state member error := by
  refine ⟨fun h => ?_, Refuses.addMember_eq⟩
  rcases adds_or_refuses graph plan codec state member with ⟨codec₁, state₁, hadds⟩ | ⟨error', hr⟩
  · cases h.symm.trans hadds.addMember_eq
  · cases h.symm.trans hr.addMember_eq
    exact hr

end Member

section Walk

variable {graph : TypeGraph} {routing : UnionRouting} {bound : Nat}
  {context : Option PlanContext} {id : TypeId} {state state' : State} {rule : Rule}

/-- Planning takes the step that is described. -/
theorem Step.planWithin_eq
    (h : Step graph routing (planWithin graph routing bound) context id state rule state') :
    planWithin graph routing (bound + 1) context id state = .ok (rule, state') := by
  unfold planWithin
  cases h with
  | array ht hitems =>
    rw [ht]
    exact bind_eq_ok.mpr ⟨_, hitems, rfl⟩
  | map ht hvalues =>
    rw [ht]
    exact bind_eq_ok.mpr ⟨_, hvalues, rfl⟩
  | knownClass ht hknown =>
    rw [ht]
    exact if_pos hknown
  | newClass ht hnew hfields =>
    rw [ht]
    exact (if_neg hnew).trans (bind_eq_ok.mpr ⟨_, hfields, rfl⟩)
  | nullOnly ht hshape =>
    rw [ht]
    dsimp only
    rw [hshape]
  | single ht hshape hmember =>
    rw [ht]
    dsimp only
    rw [hshape]
    exact hmember
  | nullable ht hshape hmember =>
    rw [ht]
    dsimp only
    rw [hshape]
    exact bind_eq_ok.mpr ⟨_, hmember, rfl⟩
  | knownUnion ht hshape hrouting hknown =>
    rw [ht, hrouting]
    dsimp only
    rw [hshape]
    exact if_pos hknown
  | newUnion ht hshape hrouting hnew hmembers =>
    rw [hrouting] at hmembers
    rw [ht, hrouting]
    dsimp only
    rw [hshape]
    exact (if_neg hnew).trans (bind_eq_ok.mpr ⟨_, hmembers, rfl⟩)
  | transformed ht =>
    rw [ht]
    rfl
  | _ ht => rw [ht]

/-- Planning stops as described. -/
theorem Stops.planWithin_eq {error : PlanError}
    (h : Stops graph routing (planWithin graph routing bound) context id state error) :
    planWithin graph routing (bound + 1) context id state = .error error := by
  unfold planWithin
  cases h with
  | dangling ht => rw [ht]
  | kind ht =>
    rw [ht]
    rfl
  | items ht hitems =>
    rw [ht]
    exact bind_eq_error.mpr (Or.inl hitems)
  | values ht hvalues =>
    rw [ht]
    exact bind_eq_error.mpr (Or.inl hvalues)
  | fields ht hnew hfields =>
    rw [ht]
    exact (if_neg hnew).trans (bind_eq_error.mpr (Or.inl hfields))
  | member ht hshape hmember =>
    rw [ht]
    dsimp only
    rcases hshape with hshape | hshape <;> rw [hshape]
    · exact hmember
    · exact bind_eq_error.mpr (Or.inl hmember)
  | rejected ht hshape hrouting =>
    rw [ht, hrouting]
    dsimp only
    rw [hshape]
  | members ht hshape hrouting hnew hmembers =>
    rw [hrouting] at hmembers
    rw [ht, hrouting]
    dsimp only
    rw [hshape]
    exact (if_neg hnew).trans (bind_eq_error.mpr (Or.inl hmembers))

/-- The walk takes a step at a union, or it stops there. -/
theorem step_or_stops_of_union {plan : Planner} {members : OrderedSet TypeId}
    (ht : graph.get? id = some (.union members)) :
    (∃ rule state', Step graph routing plan context id state rule state')
      ∨ ∃ error, Stops graph routing plan context id state error := by
  cases hshape : graph.unionShape members with
  | nullOnly => exact Or.inl ⟨_, _, .nullOnly ht hshape⟩
  | single member =>
    cases hmember : plan context member state with
    | ok result => exact Or.inl ⟨_, _, .single ht hshape hmember⟩
    | error error => exact Or.inr ⟨_, .member ht (Or.inl hshape) hmember⟩
  | nullable member =>
    cases hmember : plan context member state with
    | ok result => exact Or.inl ⟨_, _, .nullable ht hshape hmember⟩
    | error error => exact Or.inr ⟨_, .member ht (Or.inr hshape) hmember⟩
  | multi nullable =>
    cases hrouting : routing with
    | reject => exact Or.inr ⟨_, .rejected ht hshape rfl⟩
    | codec =>
      by_cases hknown : state.knowsUnion id = true
      · exact Or.inl ⟨_, _, .knownUnion ht hshape rfl hknown⟩
      · cases hmembers : addMembers graph plan members.toList (UnionCodec.blank id)
            (state.enter id) with
        | ok result => exact Or.inl ⟨_, _, .newUnion ht hshape rfl hknown hmembers⟩
        | error error => exact Or.inr ⟨_, .members ht hshape rfl hknown hmembers⟩

/-- Planning a type takes a step or stops. -/
theorem step_or_stops (graph : TypeGraph) (routing : UnionRouting) (plan : Planner)
    (context : Option PlanContext) (id : TypeId) (state : State) :
    (∃ rule state', Step graph routing plan context id state rule state')
      ∨ ∃ error, Stops graph routing plan context id state error := by
  cases ht : graph.get? id with
  | none => exact Or.inr ⟨_, .dangling ht⟩
  | some type =>
    cases type with
    | union members => exact step_or_stops_of_union ht
    | any => exact Or.inl ⟨_, _, .any ht⟩
    | null => exact Or.inl ⟨_, _, .null ht⟩
    | bool => exact Or.inl ⟨_, _, .bool ht⟩
    | integer => exact Or.inl ⟨_, _, .integer ht⟩
    | double => exact Or.inl ⟨_, _, .double ht⟩
    | string => exact Or.inl ⟨_, _, .string ht⟩
    | transformed kind =>
      cases kind with
      | known kind => exact Or.inl ⟨_, _, .transformed ht⟩
      | other name => exact Or.inr ⟨_, .kind ht⟩
    | array items =>
      cases hitems : plan context items state with
      | ok result => exact Or.inl ⟨_, _, .array ht hitems⟩
      | error error => exact Or.inr ⟨_, .items ht hitems⟩
    | map values =>
      cases hvalues : plan context values state with
      | ok result => exact Or.inl ⟨_, _, .map ht hvalues⟩
      | error error => exact Or.inr ⟨_, .values ht hvalues⟩
    | classType shape =>
      by_cases hknown : state.knowsClass id = true
      · exact Or.inl ⟨_, _, .knownClass ht hknown⟩
      · cases hfields : planFields plan shape.name shape.fields.entries (state.enter id) with
        | ok result => exact Or.inl ⟨_, _, .newClass ht hknown hfields⟩
        | error error => exact Or.inr ⟨_, .fields ht hknown hfields⟩
    | enumType shape => exact Or.inl ⟨_, _, .enumType ht⟩

/-- The walk plans a type as the relation says, and the types inside within a smaller
bound. -/
theorem planWithin_succ_eq_ok :
    planWithin graph routing (bound + 1) context id state = .ok (rule, state')
      ↔ Step graph routing (planWithin graph routing bound) context id state rule state' := by
  refine ⟨fun h => ?_, Step.planWithin_eq⟩
  rcases step_or_stops graph routing (planWithin graph routing bound) context id state with
    ⟨rule₁, state₁, hstep⟩ | ⟨error, hstops⟩
  · cases h.symm.trans hstep.planWithin_eq
    exact hstep
  · cases h.symm.trans hstops.planWithin_eq

/-- The walk stops at a type as the relation says. -/
theorem planWithin_succ_eq_error {error : PlanError} :
    planWithin graph routing (bound + 1) context id state = .error error
      ↔ Stops graph routing (planWithin graph routing bound) context id state error := by
  refine ⟨fun h => ?_, Stops.planWithin_eq⟩
  rcases step_or_stops graph routing (planWithin graph routing bound) context id state with
    ⟨rule₁, state₁, hstep⟩ | ⟨error', hstops⟩
  · cases h.symm.trans hstep.planWithin_eq
  · cases h.symm.trans hstops.planWithin_eq
    exact hstops

end Walk

end Hydration.Plan
