import Hydration.TypeGraph.Basic

/-!
# What types stand for

The treatment of a union depends on its members other than null: none, one, or
several. A union of a single member stands for that member, and a union of
null and one other member makes that member nullable. Descriptions and the
chain of single-member unions follow references that may, in a graph built by
hand, never end; both are bounded by the number of types, and running out of
the bound is a result of its own.
-/

namespace Hydration

/-- How a union is treated. -/
inductive UnionShape where
  /-- Null is the only member. -/
  | nullOnly
  /-- One member, not null: the union stands for it. -/
  | single (member : TypeId)
  /-- Null and one other member. -/
  | nullable (member : TypeId)
  /-- Several members other than null, and whether null is one too. -/
  | multi (nullable : Bool)
  deriving DecidableEq

namespace TypeGraph

/-- Whether a type is the null type. -/
def isNullType (graph : TypeGraph) (id : TypeId) : Bool := graph.get? id == some .null

/-- The shape of a union with the given members. -/
def unionShape (graph : TypeGraph) (members : OrderedSet TypeId) : UnionShape :=
  let nullable := members.toList.any graph.isNullType
  match members.toList.filter fun member => !graph.isNullType member with
  | [] => .nullOnly
  | [only] => if nullable then .nullable only else .single only
  | _ => .multi nullable

/-- The member that a union with null makes nullable. -/
def nullableMember? (graph : TypeGraph) (id : TypeId) : Option TypeId :=
  match graph.get? id with
  | some (.union members) =>
    match graph.unionShape members with
    | .nullable member => some member
    | _ => none
  | _ => none

/-- The type at the end of a chain of single-member unions, if it ends within
a number of steps. -/
def standsForWithin (graph : TypeGraph) : Nat → TypeId → Option TypeId
  | 0, _ => none
  | bound + 1, id =>
    match graph.get? id with
    | some (.union members) =>
      match graph.unionShape members with
      | .single member => standsForWithin graph bound member
      | _ => some id
    | _ => some id

/-- The type that a type stands for. -/
def standsFor? (graph : TypeGraph) (id : TypeId) : Option TypeId :=
  graph.standsForWithin (graph.size + 1) id

/-- Whether a value of a type may be null. -/
def acceptsNull (graph : TypeGraph) (id : TypeId) : Bool :=
  match (graph.standsFor? id).bind graph.get? with
  | some .any => true
  | some .null => true
  | some (.union members) =>
    match graph.unionShape members with
    | .nullOnly => true
    | .nullable _ => true
    | .single _ => false
    | .multi nullable => nullable
  | _ => false

/-- A short description of a type, if it ends within a number of levels. -/
def describeWithin (graph : TypeGraph) : Nat → TypeId → Option String
  | 0, _ => none
  | bound + 1, id =>
    match graph.get? id with
    | none => none
    | some .any => some "any"
    | some .null => some "null"
    | some .bool => some "bool"
    | some .integer => some "integer"
    | some .double => some "double"
    | some .string => some "string"
    | some (.transformed kind) => some ("string<" ++ kind.name ++ ">")
    | some (.array items) =>
      (describeWithin graph bound items).map fun inner => "array<" ++ inner ++ ">"
    | some (.map values) =>
      (describeWithin graph bound values).map fun inner => "map<" ++ inner ++ ">"
    | some (.classType shape) => some shape.name
    | some (.enumType shape) => some shape.name
    | some (.union members) =>
      (members.toList.mapM fun member => describeWithin graph bound member).map fun arms =>
        " | ".intercalate arms

/-- A short description of a type. -/
def describe? (graph : TypeGraph) (id : TypeId) : Option String :=
  graph.describeWithin (graph.size + 1) id

/-- The display name of a class or enum. -/
def displayName? (graph : TypeGraph) (id : TypeId) : Option String :=
  match graph.get? id with
  | some (.classType shape) => some shape.name
  | some (.enumType shape) => some shape.name
  | _ => none

end TypeGraph

end Hydration
