import Hydration.Naming.Assignment
import Hydration.Outline.TextUnit
import Hydration.Plan.Basic
import Hydration.Text.Quoted

/-!
# The outline of a plan

One unit for each enum, class and union codec of a plan, in this order, with
the identifiers of everything that is converted and the rule of each field.
-/

namespace Hydration

/-- A type as its identifier, or as its number if it has none. -/
def GraphNames.typeText (names : GraphNames) (id : TypeId) : String :=
  (names.typeName? id).getD id.text

/-- A rule in the words of an outline. -/
def Rule.outlineText (names : GraphNames) : Rule → String
  | copy primitive => (Rule.copy primitive).describe
  | transformed kind => (Rule.transformed kind).describe
  | enumRef id => names.typeText id
  | classRef id => names.typeText id
  | array items => "[" ++ items.outlineText names ++ "]"
  | map values => "\x7b" ++ values.outlineText names ++ "\x7d"
  | nullable inner => inner.outlineText names ++ "?"
  | unionRef id => "union " ++ id.text

namespace Outline

/-- The identifier of a case, or its tag if it has none. -/
def caseText (names : GraphNames) (id : TypeId) (tag : String) : String :=
  (((names.enums.get? id).bind fun idents => idents.cases.get? tag)).getD tag

/-- The unit of an enum. -/
def enumUnit (names : GraphNames) (id : TypeId) (converter : EnumConverter) (name : String) :
    Writing Unit := do
  Writing.line ("enum " ++ name ++ " (" ++ id.text ++ ")")
  Writing.indented (Writing.each
    (fun tag => Writing.line (caseText names id tag ++ " = " ++ Text.Quoted.encode tag))
    converter.cases.toList)

/-- The lines of a field. -/
def fieldLines (names : GraphNames) (field : FieldConverter) (idents : PropertyIdents) :
    Writing Unit := do
  let presence := if field.optional then "optional" else "required"
  Writing.line (idents.name ++ " <- " ++ Text.Quoted.encode field.key ++ ": "
    ++ field.rule.outlineText names ++ " (" ++ presence ++ ")")
  Writing.indented do
    Writing.line (idents.getter ++ " / " ++ idents.setter)
    Writing.line (idents.hydrator ++ " / " ++ idents.dehydrator)

/-- The unit of a class. -/
def classUnit (names : GraphNames) (id : TypeId) (converter : ClassConverter)
    (idents : ClassIdents) : Writing Unit := do
  Writing.line ("class " ++ idents.name ++ " (" ++ id.text ++ ")")
  Writing.indented do
    Writing.line ("hydrate: " ++ idents.hydrate)
    Writing.line ("dehydrate: " ++ idents.dehydrate)
    Writing.each
      (fun field =>
        match idents.properties.get? field.key with
        | some property => fieldLines names field property
        | none => return ())
      converter.fields

/-- The members of a union codec with their rules, in the order of encoding. -/
def codecLines (names : GraphNames) (codec : UnionCodec) : List String :=
  (if codec.boolean then ["bool: bool"] else [])
    ++ (if codec.integer then ["integer: integer"] else [])
    ++ (if codec.double then ["double: double"] else [])
    ++ (codec.string.map fun rule => "string: " ++ rule.rule.outlineText names).toList
    ++ (codec.array.map fun rule => "array: [" ++ rule.outlineText names ++ "]").toList
    ++ (codec.classMember.map fun id => "class: " ++ names.typeText id).toList
    ++ (codec.map.map fun rule => "map: \x7b" ++ rule.outlineText names ++ "\x7d").toList
    ++ (codec.enumeration.map fun id => "enum: " ++ names.typeText id).toList
    ++ (if codec.nullable then ["null"] else [])

/-- The unit of a union codec. -/
def unionUnit (names : GraphNames) (id : TypeId) (codec : UnionCodec) : Writing Unit := do
  Writing.line ("union " ++ id.text)
  Writing.indented (Writing.each Writing.line (codecLines names codec))

/-- Add the unit of an enum. -/
def addEnum (names : GraphNames) (outline : Outline) (entry : TypeId × EnumConverter) : Outline :=
  let name := (names.typeName? entry.1).getD entry.2.name
  outline.record ("enum " ++ name) (enumUnit names entry.1 entry.2 name)

/-- Add the unit of a class, if it has identifiers. -/
def addClass (names : GraphNames) (outline : Outline) (entry : TypeId × ClassConverter) :
    Outline :=
  match names.classes.get? entry.1 with
  | some idents =>
    outline.record ("class " ++ idents.name) (classUnit names entry.1 entry.2 idents)
  | none => outline

/-- Add the unit of a union codec. -/
def addUnion (names : GraphNames) (outline : Outline) (entry : TypeId × UnionCodec) : Outline :=
  outline.record ("union " ++ entry.1.text) (unionUnit names entry.1 entry.2)

/-- The outline of a plan. -/
def ofPlan (names : GraphNames) (plan : Converters) : Outline :=
  let outline := plan.enums.entries.foldl (addEnum names) empty
  let outline := plan.classes.entries.foldl (addClass names) outline
  plan.unions.entries.foldl (addUnion names) outline

end Outline

end Hydration
