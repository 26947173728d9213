import Hydration.OrderedMap
import Hydration.Transform.Kind

/-!
# Type graphs

A type graph is a list of types that refer to each other by position. Classes
and enums are identified by their position and never by their shape, so two
classes with equal fields are still two types. A graph is sound: every
reference is in range and the members of each union are of distinct kinds,
none of them a union.
-/

namespace Hydration

/-- The position of a type in its graph. -/
structure TypeId where
  /-- The position, counted from zero. -/
  index : Nat
  deriving DecidableEq

/-- The text of a type id. -/
def TypeId.text (id : TypeId) : String := "#" ++ toString id.index

/-- A field of a class. -/
structure Field where
  /-- The type of the field's values. -/
  type : TypeId
  /-- Whether the field may be absent. -/
  optional : Bool
  deriving DecidableEq

/-- A class: its display name and its fields in declared order. -/
structure ClassType where
  /-- The display name, before styling. -/
  name : String
  /-- The fields by JSON key. -/
  fields : OrderedMap String Field
  deriving DecidableEq

/-- An enum: its display name and its cases in declared order. -/
structure EnumType where
  /-- The display name, before styling. -/
  name : String
  /-- The JSON tags of the cases. -/
  cases : OrderedSet String
  deriving DecidableEq

/-- A type of a graph. -/
inductive Ty where
  /-- Every JSON value. -/
  | any
  /-- The null value. -/
  | null
  /-- Truth values. -/
  | bool
  /-- Integers of sixty-four bits. -/
  | integer
  /-- Numbers. -/
  | double
  /-- Strings. -/
  | string
  /-- Strings with an interpretation. -/
  | transformed (kind : StringKind)
  /-- Arrays with elements of a type. -/
  | array (items : TypeId)
  /-- Objects with arbitrary keys and values of a type. -/
  | map (values : TypeId)
  /-- Instances of a class. -/
  | classType (shape : ClassType)
  /-- The cases of an enum. -/
  | enumType (shape : EnumType)
  /-- Values of one of several types. -/
  | union (members : OrderedSet TypeId)
  deriving DecidableEq

/-- The kinds of types. A union holds at most one member of each kind, and
strings with and without an interpretation are of one kind. -/
inductive TypeKind where
  /-- Every JSON value. -/
  | any
  /-- The null value. -/
  | null
  /-- Truth values. -/
  | bool
  /-- Integers. -/
  | integer
  /-- Numbers. -/
  | double
  /-- Strings. -/
  | string
  /-- Arrays. -/
  | array
  /-- Maps. -/
  | map
  /-- Classes. -/
  | classKind
  /-- Enums. -/
  | enumKind
  /-- Unions. -/
  | union
  deriving DecidableEq

/-- The name of a kind. -/
def TypeKind.name : TypeKind → String
  | any => "any"
  | null => "null"
  | bool => "bool"
  | integer => "integer"
  | double => "double"
  | string => "string"
  | array => "array"
  | map => "map"
  | classKind => "class"
  | enumKind => "enum"
  | union => "union"

/-- The kind of a type. -/
def Ty.kind : Ty → TypeKind
  | any => .any
  | null => .null
  | bool => .bool
  | integer => .integer
  | double => .double
  | string => .string
  | transformed _ => .string
  | array _ => .array
  | map _ => .map
  | classType _ => .classKind
  | enumType _ => .enumKind
  | union _ => .union

/-- What is wrong with a graph under construction. -/
inductive GraphError where
  /-- Two members of a union are of one kind. -/
  | duplicateUnionKind (kind : TypeKind)
  /-- A member of a union is a union. -/
  | nestedUnion
  /-- A union has no members. -/
  | emptyUnion
  /-- A reference is out of range. -/
  | danglingType (id : TypeId)
  /-- A definition was given for something that is not a class. -/
  | notAClass (id : TypeId)
  /-- A class was declared and not defined. -/
  | undefinedClass (name : String)
  deriving DecidableEq

/-- The text of a graph error. -/
def GraphError.message : GraphError → String
  | duplicateUnionKind kind => "union contains two members of kind " ++ kind.name
  | nestedUnion => "union contains a nested union"
  | emptyUnion => "union has no members"
  | danglingType id => "type reference " ++ id.text ++ " is not part of the graph"
  | notAClass id => id.text ++ " is not a class"
  | undefinedClass name => "class `" ++ name ++ "` was declared but never defined"

namespace TypeGraph

/-- The fault of a reference, if it is out of range. -/
def danglingFault? (types : List Ty) (id : TypeId) : Option GraphError :=
  if id.index < types.length then none else some (.danglingType id)

/-- The first fault among the members of a union, after members of the kinds
already seen. -/
def memberFault? (types : List Ty) (seen : List TypeKind) : List TypeId → Option GraphError
  | [] => none
  | member :: rest =>
    match types[member.index]? with
    | none => some (.danglingType member)
    | some type =>
      if type.kind = .union then some .nestedUnion
      else if type.kind ∈ seen then some (.duplicateUnionKind type.kind)
      else memberFault? types (type.kind :: seen) rest

/-- The first fault of a type. -/
def typeFault? (types : List Ty) : Ty → Option GraphError
  | .array inner => danglingFault? types inner
  | .map inner => danglingFault? types inner
  | .classType shape => shape.fields.values.findSome? fun field => danglingFault? types field.type
  | .union members =>
    match members.toList with
    | [] => some .emptyUnion
    | ids => memberFault? types [] ids
  | _ => none

/-- The first fault of a list of types with top levels: types in order, then
top levels in order. -/
def fault? (types : List Ty) (topLevels : OrderedMap String TypeId) : Option GraphError :=
  match types.findSome? (typeFault? types) with
  | some fault => some fault
  | none => topLevels.values.findSome? (danglingFault? types)

end TypeGraph

/-- A sound list of types with named entry points. -/
structure TypeGraph where
  /-- The types by position. -/
  types : List Ty
  /-- The entry points by name. -/
  topLevels : OrderedMap String TypeId
  /-- No reference dangles and every union is well formed. -/
  sound : TypeGraph.fault? types topLevels = none

namespace TypeGraph

/-- The type with an id. -/
def get? (graph : TypeGraph) (id : TypeId) : Option Ty := graph.types[id.index]?

/-- The number of types. -/
def size (graph : TypeGraph) : Nat := graph.types.length

/-- Whether there are no types. -/
def isEmpty (graph : TypeGraph) : Bool := graph.types.isEmpty

/-- The ids of all types, in order. -/
def ids (graph : TypeGraph) : List TypeId := (List.range graph.size).map TypeId.mk

/-- The class with an id, if it is one. -/
def class? (graph : TypeGraph) (id : TypeId) : Option ClassType :=
  match graph.get? id with
  | some (.classType shape) => some shape
  | _ => none

/-- The enum with an id, if it is one. -/
def enum? (graph : TypeGraph) (id : TypeId) : Option EnumType :=
  match graph.get? id with
  | some (.enumType shape) => some shape
  | _ => none

/-- The classes with their ids, in order. -/
def classes (graph : TypeGraph) : List (TypeId × ClassType) :=
  graph.ids.filterMap fun id => (graph.class? id).map fun shape => (id, shape)

/-- The enums with their ids, in order. -/
def enums (graph : TypeGraph) : List (TypeId × EnumType) :=
  graph.ids.filterMap fun id => (graph.enum? id).map fun shape => (id, shape)

/-- The type of an entry point. -/
def topLevel? (graph : TypeGraph) (name : String) : Option TypeId := graph.topLevels.get? name

/-- The first class with a display name. -/
def classNamed? (graph : TypeGraph) (name : String) : Option TypeId :=
  (graph.classes.find? fun entry => entry.2.name == name).map Prod.fst

end TypeGraph

end Hydration
