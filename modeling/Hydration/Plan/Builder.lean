import Hydration.Plan.Cycles

/-!
# Building plans

Planning walks the graph depth first from the entries. A class, enum or union
that has a converter, or whose converter is under construction, is referred
to; otherwise its converter is built first and recorded when it is complete.
The walk enters each class and each union of several members once, so its
depth is bounded by the square of the number of types unless a type contains
itself through arrays, maps and nullable unions alone.
-/

namespace Hydration

namespace Plan

/-- The converters so far and those under construction. -/
structure State where
  /-- The complete converters. -/
  converters : Converters
  /-- The classes and unions under construction. -/
  inProgress : List TypeId
  deriving DecidableEq

/-- Nothing is planned and nothing is under construction. -/
def State.start : State := ⟨Converters.empty, []⟩

/-- Whether a class has a converter or is under construction. -/
def State.knowsClass (state : State) (id : TypeId) : Bool :=
  state.converters.classes.contains id || decide (id ∈ state.inProgress)

/-- Whether a union has a codec or is under construction. -/
def State.knowsUnion (state : State) (id : TypeId) : Bool :=
  state.converters.unions.contains id || decide (id ∈ state.inProgress)

/-- Begin the construction of a class or union. -/
def State.enter (state : State) (id : TypeId) : State :=
  { state with inProgress := id :: state.inProgress }

/-- Record the converter of a class, which is no longer under construction. -/
def State.recordClass (state : State) (converter : ClassConverter) : State where
  converters :=
    { state.converters with
      classes := state.converters.classes.insert converter.id converter }
  inProgress := state.inProgress.filter fun other => other != converter.id

/-- Record the codec of a union, which is no longer under construction. -/
def State.recordUnion (state : State) (codec : UnionCodec) : State where
  converters :=
    { state.converters with unions := state.converters.unions.insert codec.id codec }
  inProgress := state.inProgress.filter fun other => other != codec.id

/-- Record the converter of an enum unless it has one. -/
def State.recordEnum (state : State) (id : TypeId) (shape : EnumType) : State :=
  if state.converters.enums.contains id then state
  else
    { state with
      converters :=
        { state.converters with
          enums := state.converters.enums.insert id ⟨id, shape.name, shape.cases⟩ } }

/-- A planner for one type in a context. -/
abbrev Planner := Option PlanContext → TypeId → State → Except PlanError (Rule × State)

/-- Plan the fields of a class in order. -/
def planFields (plan : Planner) (className : String) :
    List (String × Field) → State → Except PlanError (List FieldConverter × State)
  | [], state => .ok ([], state)
  | (key, field) :: rest, state => do
    let (rule, state) ← plan (some ⟨className, key⟩) field.type state
    let (fields, state) ← planFields plan className rest state
    return (⟨key, field.optional, rule⟩ :: fields, state)

/-- The interpretation that a converter needs. -/
def supported (kind : StringKind) : Except PlanError TransformKind :=
  match kind with
  | .known kind => .ok kind
  | .other name => .error (.unsupportedStringKind name)

/-- Add a member of a union to its codec. -/
def addMember (graph : TypeGraph) (plan : Planner) (codec : UnionCodec) (state : State)
    (member : TypeId) : Except PlanError (UnionCodec × State) :=
  match graph.get? member with
  | none => .error (.danglingType member)
  | some .any => .error (.unsupportedUnionMember .any)
  | some .null => .ok ({ codec with nullable := true }, state)
  | some .bool => .ok ({ codec with boolean := true }, state)
  | some .integer => .ok ({ codec with integer := true }, state)
  | some .double => .ok ({ codec with double := true }, state)
  | some .string => .ok ({ codec with string := some .plain }, state)
  | some (.transformed kind) => do
    return ({ codec with string := some (.transformed (← supported kind)) }, state)
  | some (.array items) => do
    let (rule, state) ← plan none items state
    return ({ codec with array := some rule }, state)
  | some (.map values) => do
    let (rule, state) ← plan none values state
    return ({ codec with map := some rule }, state)
  | some (.classType _) => do
    let (_, state) ← plan none member state
    return ({ codec with classMember := some member }, state)
  | some (.enumType shape) =>
    .ok ({ codec with enumeration := some member }, state.recordEnum member shape)
  | some (.union _) => .error .nestedUnion

/-- Add the members of a union to its codec in order. -/
def addMembers (graph : TypeGraph) (plan : Planner) :
    List TypeId → UnionCodec → State → Except PlanError (UnionCodec × State)
  | [], codec, state => .ok (codec, state)
  | member :: rest, codec, state => do
    let (codec, state) ← addMember graph plan codec state member
    addMembers graph plan rest codec state

/-- Plan a type within a bound on the depth of the walk. -/
def planWithin (graph : TypeGraph) (routing : UnionRouting) : Nat → Planner
  | 0, _, id, _ => .error (.endlessType id)
  | bound + 1, context, id, state =>
    match graph.get? id with
    | none => .error (.danglingType id)
    | some .any => .ok (.copy .any, state)
    | some .null => .ok (.copy .null, state)
    | some .bool => .ok (.copy .bool, state)
    | some .integer => .ok (.copy .integer, state)
    | some .double => .ok (.copy .double, state)
    | some .string => .ok (.copy .string, state)
    | some (.transformed kind) => do return (.transformed (← supported kind), state)
    | some (.array items) => do
      let (rule, state) ← planWithin graph routing bound context items state
      return (.array rule, state)
    | some (.map values) => do
      let (rule, state) ← planWithin graph routing bound context values state
      return (.map rule, state)
    | some (.classType shape) =>
      if state.knowsClass id then .ok (.classRef id, state)
      else do
        let (fields, state) ←
          planFields (planWithin graph routing bound) shape.name shape.fields.entries
            (state.enter id)
        return (.classRef id, state.recordClass ⟨id, shape.name, fields⟩)
    | some (.enumType shape) => .ok (.enumRef id, state.recordEnum id shape)
    | some (.union members) =>
      match graph.unionShape members with
      | .nullOnly => .ok (.copy .null, state)
      | .single member => planWithin graph routing bound context member state
      | .nullable member => do
        let (rule, state) ← planWithin graph routing bound context member state
        return (.nullable rule, state)
      | .multi _ =>
        match routing with
        | .reject => .error (.unionInStructuralConverter id context)
        | .codec =>
          if state.knowsUnion id then .ok (.unionRef id, state)
          else do
            let (codec, state) ←
              addMembers graph (planWithin graph routing bound) members.toList
                (UnionCodec.blank id) (state.enter id)
            return (.unionRef id, state.recordUnion codec)

/-- A depth that the walk does not exceed on graphs without endless types. -/
def depthBound (graph : TypeGraph) : Nat := (graph.size + 1) * (graph.size + 1) + 1

/-- Plan a type. -/
def planType (graph : TypeGraph) (routing : UnionRouting) : Planner :=
  planWithin graph routing (depthBound graph)

/-- Plan the entries in order. -/
def planEntries (graph : TypeGraph) (routing : UnionRouting) :
    List TypeId → State → Except PlanError State
  | [], state => .ok state
  | entry :: rest, state => do
    let (_, state) ← planType graph routing none entry state
    planEntries graph routing rest state

end Plan

namespace Converters

/-- The converters that the entry classes need. -/
def build (graph : TypeGraph) (entries : List TypeId) (routing : UnionRouting) :
    Except PlanError Converters :=
  match entries.find? fun entry => (graph.class? entry).isNone with
  | some entry => .error (.notAClass entry)
  | none => do
    graph.checkCycles entries
    let state ← Plan.planEntries graph routing entries Plan.State.start
    return { state.converters with entries }

/-- The codec of a union of several members, with the converters of the
classes and enums that it reaches. -/
def buildUnion (graph : TypeGraph) (union : TypeId) : Except PlanError Converters := do
  let (rule, state) ← Plan.planType graph .codec none union Plan.State.start
  match graph.get? union, rule with
  | some (.union _), .unionRef _ => return state.converters
  | _, _ => throw (.notATrueUnion union)

end Converters

end Hydration
