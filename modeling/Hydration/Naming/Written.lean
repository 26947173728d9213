import Hydration.Naming.Assignment
import Hydration.Plan.Written

/-!
# The written form of names

The identifiers of a graph as a JSON document, by the number of their type,
the key of their property and the tag of their case.
-/

namespace Hydration

/-- The identifiers of a property. -/
def PropertyIdents.toJson (idents : PropertyIdents) : Json :=
  .object [("name", .string idents.name), ("getter", .string idents.getter),
    ("setter", .string idents.setter), ("hydrator", .string idents.hydrator),
    ("dehydrator", .string idents.dehydrator), ("nullable", .bool idents.nullable)]

/-- The identifiers of a class. -/
def ClassIdents.toJson (idents : ClassIdents) : Json :=
  .object [("name", .string idents.name), ("hydrate", .string idents.hydrate),
    ("dehydrate", .string idents.dehydrate),
    ("properties",
      .object (idents.properties.entries.map fun entry => (entry.1, entry.2.toJson)))]

/-- The identifiers of an enum. -/
def EnumIdents.toJson (idents : EnumIdents) : Json :=
  .object [("name", .string idents.name),
    ("cases", .object (idents.cases.entries.map fun entry => (entry.1, .string entry.2)))]

/-- The identifiers of a graph. -/
def GraphNames.toJson (names : GraphNames) : Json :=
  .object [("classes", keyedJson ClassIdents.toJson names.classes),
    ("enums", keyedJson EnumIdents.toJson names.enums)]

end Hydration
