import Hydration.TypeGraph.Shape

/-!
# Converter plans

A plan says how values at each place of a document are converted. Rules stop
at references to classes, enums and unions; the plan holds one converter for
each of those that its entries reach. The string member of a union is
converted without reference to others, so its rule has a type of its own.
-/

namespace Hydration

/-- The types whose values are copied after a check of their shape. -/
inductive Primitive where
  /-- Every JSON value. -/
  | any
  /-- The null value. -/
  | null
  /-- Truth values. -/
  | bool
  /-- Integers. -/
  | integer
  /-- Numbers. -/
  | double
  /-- Strings. -/
  | string
  deriving DecidableEq

/-- The name of a primitive. -/
def Primitive.name : Primitive → String
  | any => "any"
  | null => "null"
  | bool => "bool"
  | integer => "integer"
  | double => "double"
  | string => "string"

/-- How a value at one place is converted. -/
inductive Rule where
  /-- Copied after a check of its shape. -/
  | copy (primitive : Primitive)
  /-- Parsed and formatted under an interpretation. -/
  | transformed (kind : TransformKind)
  /-- Checked against the cases of an enum. -/
  | enumRef (id : TypeId)
  /-- Handed to the converter of a class. -/
  | classRef (id : TypeId)
  /-- Converted element by element. -/
  | array (items : Rule)
  /-- Converted value by value. -/
  | map (values : Rule)
  /-- Null, or converted by the inner rule. -/
  | nullable (inner : Rule)
  /-- Handed to the codec of a union. -/
  | unionRef (id : TypeId)
  deriving DecidableEq

/-- What a rule expects, in error texts. -/
def Rule.describe : Rule → String
  | copy primitive => primitive.name
  | transformed kind => kind.name ++ " string"
  | enumRef _ => "enum case"
  | classRef _ => "object"
  | array _ => "array"
  | map _ => "map"
  | nullable inner => "nullable " ++ inner.describe
  | unionRef _ => "union"

/-- How the string member of a union is converted. -/
inductive StringRule where
  /-- Copied. -/
  | plain
  /-- Parsed and formatted under an interpretation. -/
  | transformed (kind : TransformKind)
  deriving DecidableEq

/-- The rule that a string member follows. -/
def StringRule.rule : StringRule → Rule
  | plain => .copy .string
  | transformed kind => .transformed kind

/-- The conversion of a field. -/
structure FieldConverter where
  /-- The JSON key. -/
  key : String
  /-- Whether the field may be absent. -/
  optional : Bool
  /-- How its values are converted. -/
  rule : Rule
  deriving DecidableEq

/-- The conversion of the instances of a class. -/
structure ClassConverter where
  /-- The class. -/
  id : TypeId
  /-- Its display name. -/
  name : String
  /-- Its fields in declared order. -/
  fields : List FieldConverter
  deriving DecidableEq

/-- The conversion of the cases of an enum. -/
structure EnumConverter where
  /-- The enum. -/
  id : TypeId
  /-- Its display name. -/
  name : String
  /-- The JSON tags of its cases. -/
  cases : OrderedSet String
  deriving DecidableEq

/-- The conversion of the values of a union of several members, by the shape
of the value. -/
structure UnionCodec where
  /-- The union. -/
  id : TypeId
  /-- Whether null is a member. -/
  nullable : Bool
  /-- Whether truth values are a member. -/
  boolean : Bool
  /-- Whether integers are a member. -/
  integer : Bool
  /-- Whether numbers are a member. -/
  double : Bool
  /-- The rule of the string member. -/
  string : Option StringRule
  /-- The enum member. -/
  enumeration : Option TypeId
  /-- The class member. -/
  classMember : Option TypeId
  /-- The rule of the values of the map member. -/
  map : Option Rule
  /-- The rule of the elements of the array member. -/
  array : Option Rule
  deriving DecidableEq

/-- The codec of a union without members. -/
def UnionCodec.blank (id : TypeId) : UnionCodec where
  id := id
  nullable := false
  boolean := false
  integer := false
  double := false
  string := none
  enumeration := none
  classMember := none
  map := none
  array := none

/-- The kinds of a codec's members, in a fixed order. -/
def UnionCodec.memberKinds (codec : UnionCodec) : List TypeKind :=
  (if codec.nullable then [TypeKind.null] else [])
    ++ (if codec.boolean then [TypeKind.bool] else [])
    ++ (if codec.integer then [TypeKind.integer] else [])
    ++ (if codec.double then [TypeKind.double] else [])
    ++ (if codec.string.isSome then [TypeKind.string] else [])
    ++ (if codec.array.isSome then [TypeKind.array] else [])
    ++ (if codec.classMember.isSome then [TypeKind.classKind] else [])
    ++ (if codec.map.isSome then [TypeKind.map] else [])
    ++ (if codec.enumeration.isSome then [TypeKind.enumKind] else [])

/-- The converters of everything that the entries reach. -/
structure Converters where
  /-- The entry classes. -/
  entries : List TypeId
  /-- The converters of classes, dependencies first. -/
  classes : OrderedMap TypeId ClassConverter
  /-- The converters of enums. -/
  enums : OrderedMap TypeId EnumConverter
  /-- The codecs of unions. -/
  unions : OrderedMap TypeId UnionCodec
  deriving DecidableEq

/-- The plan without converters. -/
def Converters.empty : Converters :=
  ⟨[], OrderedMap.empty, OrderedMap.empty, OrderedMap.empty⟩

/-- What becomes of a union of several members other than null. -/
inductive UnionRouting where
  /-- It has a codec. -/
  | codec
  /-- There is no plan. -/
  | reject
  deriving DecidableEq

/-- The field that is being planned. -/
structure PlanContext where
  /-- The display name of the class. -/
  className : String
  /-- The key of the field. -/
  key : String
  deriving DecidableEq

/-- The text of a planning context. -/
def PlanContext.text (context : PlanContext) : String := context.className ++ "." ++ context.key

/-- Why there is no plan. -/
inductive PlanError where
  /-- An interpretation is not known. -/
  | unsupportedStringKind (name : String)
  /-- A union of several members where there are no codecs. -/
  | unionInStructuralConverter (union : TypeId) (context : Option PlanContext)
  /-- A union member that its token does not tell from the others. -/
  | unsupportedUnionMember (kind : TypeKind)
  /-- A cycle of classes that no finite value satisfies. -/
  | unbreakableCycle (path : List String)
  /-- A union member is a union. -/
  | nestedUnion
  /-- An entry is not a class. -/
  | notAClass (id : TypeId)
  /-- A type has no codec, because it is no union of several members. -/
  | notATrueUnion (id : TypeId)
  /-- A reference is out of range. -/
  | danglingType (id : TypeId)
  /-- A type contains itself without a class or a union between. -/
  | endlessType (id : TypeId)
  deriving DecidableEq

/-- The text of a planning error. -/
def PlanError.message : PlanError → String
  | unsupportedStringKind name => "unsupported transformed string kind `" ++ name ++ "`"
  | unionInStructuralConverter union context =>
    "union " ++ union.text ++ " in `" ++ (context.map PlanContext.text).getD ""
      ++ "` has several non-null members; the structural converter does not handle it"
  | unsupportedUnionMember kind =>
    "union member of kind " ++ kind.name ++ " cannot be decoded by the union codec"
  | unbreakableCycle path =>
    "class cycle without an optional or nullable break: " ++ " -> ".intercalate path
  | nestedUnion => GraphError.nestedUnion.message
  | notAClass id => (GraphError.notAClass id).message
  | notATrueUnion id => id.text ++ " is not a union of several non-null members"
  | danglingType id => (GraphError.danglingType id).message
  | endlessType id => "type " ++ id.text ++ " contains itself without end"

end Hydration
