import Hydration.Json.Basic
import Hydration.Plan.Basic

/-!
# The written form of plans

Plans as JSON documents: converters by the number of their type, rules tagged
with their kind.
-/

namespace Hydration

/-- A type id as a number. -/
def TypeId.toJson (id : TypeId) : Json := .number (.ofNat id.index)

/-- The key of a type id. -/
def TypeId.key (id : TypeId) : String := toString id.index

/-- A rule tagged with its kind. -/
def Rule.toJson : Rule → Json
  | copy primitive => .object [("rule", .string "copy"), ("primitive", .string primitive.name)]
  | transformed kind => .object [("rule", .string "transformed"), ("kind", .string kind.name)]
  | enumRef id => .object [("rule", .string "enum"), ("id", id.toJson)]
  | classRef id => .object [("rule", .string "class"), ("id", id.toJson)]
  | array items => .object [("rule", .string "array"), ("items", items.toJson)]
  | map values => .object [("rule", .string "map"), ("values", values.toJson)]
  | nullable inner => .object [("rule", .string "nullable"), ("inner", inner.toJson)]
  | unionRef id => .object [("rule", .string "union"), ("id", id.toJson)]

/-- A field converter. -/
def FieldConverter.toJson (field : FieldConverter) : Json :=
  .object [("key", .string field.key), ("optional", .bool field.optional),
    ("rule", field.rule.toJson)]

/-- A class converter. -/
def ClassConverter.toJson (converter : ClassConverter) : Json :=
  .object [("id", converter.id.toJson), ("name", .string converter.name),
    ("fields", .array (converter.fields.map FieldConverter.toJson))]

/-- An enum converter. -/
def EnumConverter.toJson (converter : EnumConverter) : Json :=
  .object [("id", converter.id.toJson), ("name", .string converter.name),
    ("cases", .array (converter.cases.toList.map .string))]

/-- A value or null. -/
def optionalJson {α : Type} (write : α → Json) : Option α → Json
  | some value => write value
  | none => .null

/-- A union codec. -/
def UnionCodec.toJson (codec : UnionCodec) : Json :=
  .object [("id", codec.id.toJson), ("nullable", .bool codec.nullable),
    ("boolean", .bool codec.boolean), ("integer", .bool codec.integer),
    ("double", .bool codec.double),
    ("string", optionalJson (fun rule => rule.rule.toJson) codec.string),
    ("enumeration", optionalJson TypeId.toJson codec.enumeration),
    ("class", optionalJson TypeId.toJson codec.classMember),
    ("map", optionalJson Rule.toJson codec.map),
    ("array", optionalJson Rule.toJson codec.array)]

/-- Values keyed by type ids. -/
def keyedJson {α : Type} (write : α → Json) (entries : OrderedMap TypeId α) : Json :=
  .object (entries.entries.map fun entry => (entry.1.key, write entry.2))

/-- A plan. -/
def Converters.toJson (converters : Converters) : Json :=
  .object [("entries", .array (converters.entries.map TypeId.toJson)),
    ("classes", keyedJson ClassConverter.toJson converters.classes),
    ("enums", keyedJson EnumConverter.toJson converters.enums),
    ("unions", keyedJson UnionCodec.toJson converters.unions)]

end Hydration
