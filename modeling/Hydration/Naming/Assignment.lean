import Hydration.Naming.Registry
import Hydration.TypeGraph.Shape

/-!
# Names of a type graph

One walk over a graph registers every name that a target emits: first the
type names, in declared order, so that they win over everything derived; then
for each class its conversion functions and, in a scope of its own, the five
names of each property; then the cases of each enum in a scope of its own.
-/

namespace Hydration

/-- The names of a property. -/
structure PropertyNames where
  /-- The JSON key. -/
  key : String
  /-- Whether a null value is accepted. -/
  nullable : Bool
  /-- The property. -/
  name : NameId
  /-- The function that reads it. -/
  getter : NameId
  /-- The function that writes it. -/
  setter : NameId
  /-- The function that converts it to JSON. -/
  hydrator : NameId
  /-- The function that converts it from JSON. -/
  dehydrator : NameId

/-- The names of a class. -/
structure ClassNames where
  /-- The class. -/
  name : NameId
  /-- The function that converts it to JSON. -/
  hydrate : NameId
  /-- The function that converts it from JSON. -/
  dehydrate : NameId
  /-- The properties in declared order. -/
  properties : List PropertyNames

/-- The names of an enum. -/
structure EnumNames where
  /-- The enum. -/
  name : NameId
  /-- The cases by tag, in declared order. -/
  cases : List (String × NameId)

/-- The registered names of a graph. -/
structure NameAssignment where
  /-- The registry of all names. -/
  registry : NameRegistry
  /-- The names of the classes. -/
  classes : List (TypeId × ClassNames)
  /-- The names of the enums. -/
  enums : List (TypeId × EnumNames)

namespace NameAssignment

/-- Register the type names of classes and enums in declared order. -/
def typeNames (graph : TypeGraph) :
    List TypeId → NameRegistry → List (TypeId × NameId) × NameRegistry
  | [], registry => ([], registry)
  | id :: rest, registry =>
    match graph.displayName? id with
    | some display =>
      let (name, registry) := registry.registerPrimary NameRegistry.global .type display
      let (names, registry) := typeNames graph rest registry
      ((id, name) :: names, registry)
    | none => typeNames graph rest registry

/-- Register the names of a property. -/
def propertyNames (graph : TypeGraph) (templates : DerivedTemplates) (scope : ScopeId)
    (key : String) (field : Field) (registry : NameRegistry) : PropertyNames × NameRegistry :=
  let (name, registry) := registry.registerPrimary scope .property key
  let (getter, registry) := registry.registerDerived name .function templates.getter
  let (setter, registry) := registry.registerDerived name .function templates.setter
  let (hydrator, registry) := registry.registerDerived name .function templates.hydrator
  let (dehydrator, registry) := registry.registerDerived name .function templates.dehydrator
  let nullable := field.optional || graph.acceptsNull field.type
  (⟨key, nullable, name, getter, setter, hydrator, dehydrator⟩, registry)

/-- Register the names of properties in order. -/
def allPropertyNames (graph : TypeGraph) (templates : DerivedTemplates) (scope : ScopeId) :
    List (String × Field) → NameRegistry → List PropertyNames × NameRegistry
  | [], registry => ([], registry)
  | (key, field) :: rest, registry =>
    let (property, registry) := propertyNames graph templates scope key field registry
    let (properties, registry) := allPropertyNames graph templates scope rest registry
    (property :: properties, registry)

/-- The registered type name of a class or enum. -/
def typeName (names : List (TypeId × NameId)) (id : TypeId) : NameId :=
  (Entries.get? id names).getD ⟨0⟩

/-- Register the functions of a class with a type name, then its properties in a scope. -/
def registerClass (graph : TypeGraph) (policy : NamingPolicy) (name : NameId) (shape : ClassType)
    (registry : NameRegistry) : ClassNames × NameRegistry :=
  let hydrate := registry.registerDerived name .function policy.templates.classHydrate
  let dehydrate := hydrate.2.registerDerived name .function policy.templates.classDehydrate
  let opened := dehydrate.2.addScope NameRegistry.global shape.name policy.propertyReserved
  let properties :=
    allPropertyNames graph policy.templates opened.1 shape.fields.entries opened.2
  (⟨name, hydrate.1, dehydrate.1, properties.1⟩, properties.2)

/-- Register the names of classes in order. -/
def classNames (graph : TypeGraph) (policy : NamingPolicy) (names : List (TypeId × NameId)) :
    List (TypeId × ClassType) → NameRegistry → List (TypeId × ClassNames) × NameRegistry
  | [], registry => ([], registry)
  | (id, shape) :: rest, registry =>
    let (registered, registry) := registerClass graph policy (typeName names id) shape registry
    let (classes, registry) := classNames graph policy names rest registry
    ((id, registered) :: classes, registry)

/-- Register the names of cases in order. -/
def caseNames (scope : ScopeId) :
    List String → NameRegistry → List (String × NameId) × NameRegistry
  | [], registry => ([], registry)
  | tag :: rest, registry =>
    let (name, registry) := registry.registerPrimary scope .enumCase tag
    let (names, registry) := caseNames scope rest registry
    ((tag, name) :: names, registry)

/-- Register the cases of an enum in a scope. -/
def registerEnum (shape : EnumType) (registry : NameRegistry) :
    List (String × NameId) × NameRegistry :=
  let opened := registry.addScope NameRegistry.global shape.name []
  caseNames opened.1 shape.cases.toList opened.2

/-- Register the names of the cases of enums in order. -/
def enumNames (names : List (TypeId × NameId)) :
    List (TypeId × EnumType) → NameRegistry → List (TypeId × EnumNames) × NameRegistry
  | [], registry => ([], registry)
  | (id, shape) :: rest, registry =>
    let (cases, registry) := registerEnum shape registry
    let (enums, registry) := enumNames names rest registry
    ((id, ⟨typeName names id, cases⟩) :: enums, registry)

/-- Register every name of a graph. -/
def ofGraph (graph : TypeGraph) (policy : NamingPolicy) : NameAssignment :=
  let registry := NameRegistry.empty.forbid NameRegistry.global policy.reserved
  let (names, registry) := typeNames graph graph.ids registry
  let (classes, registry) := classNames graph policy names graph.classes registry
  let (enums, registry) := enumNames names graph.enums registry
  ⟨registry, classes, enums⟩

end NameAssignment

/-- The identifiers of a property. -/
structure PropertyIdents where
  /-- The property. -/
  name : String
  /-- The function that reads it. -/
  getter : String
  /-- The function that writes it. -/
  setter : String
  /-- The function that converts it to JSON. -/
  hydrator : String
  /-- The function that converts it from JSON. -/
  dehydrator : String
  /-- Whether a null value is accepted. -/
  nullable : Bool
  deriving DecidableEq

/-- The identifiers of a class. -/
structure ClassIdents where
  /-- The class. -/
  name : String
  /-- The function that converts it to JSON. -/
  hydrate : String
  /-- The function that converts it from JSON. -/
  dehydrate : String
  /-- The properties by JSON key. -/
  properties : OrderedMap String PropertyIdents
  deriving DecidableEq

/-- The identifiers of an enum. -/
structure EnumIdents where
  /-- The enum. -/
  name : String
  /-- The cases by JSON tag. -/
  cases : OrderedMap String String
  deriving DecidableEq

/-- The identifiers of a graph. -/
structure GraphNames where
  /-- The identifiers of the classes. -/
  classes : OrderedMap TypeId ClassIdents
  /-- The identifiers of the enums. -/
  enums : OrderedMap TypeId EnumIdents
  deriving DecidableEq

namespace NameAssignment

/-- The identifiers of a property, given the text of each name. -/
def propertyIdents (text : NameId → String) (names : PropertyNames) : PropertyIdents where
  name := text names.name
  getter := text names.getter
  setter := text names.setter
  hydrator := text names.hydrator
  dehydrator := text names.dehydrator
  nullable := names.nullable

/-- The identifiers of a class, given the text of each name. -/
def classIdents (text : NameId → String) (names : ClassNames) : ClassIdents where
  name := text names.name
  hydrate := text names.hydrate
  dehydrate := text names.dehydrate
  properties := OrderedMap.ofList
    (names.properties.map fun property => (property.key, propertyIdents text property))

/-- The identifiers of an enum, given the text of each name. -/
def enumIdents (text : NameId → String) (names : EnumNames) : EnumIdents where
  name := text names.name
  cases := OrderedMap.ofList (names.cases.map fun entry => (entry.1, text entry.2))

/-- The identifiers of all names, given the text of each. -/
def collect (assignment : NameAssignment) (texts : List String) : GraphNames :=
  let table := texts.toArray
  let text (name : NameId) : String := table[name.index]?.getD ""
  { classes := OrderedMap.ofList
      (assignment.classes.map fun entry => (entry.1, classIdents text entry.2))
    enums := OrderedMap.ofList
      (assignment.enums.map fun entry => (entry.1, enumIdents text entry.2)) }

/-- The identifiers of all names under a policy. -/
def resolve (assignment : NameAssignment) (policy : NamingPolicy) :
    Except NamingError GraphNames := do
  return assignment.collect (← assignment.registry.resolve policy)

end NameAssignment

namespace GraphNames

/-- The identifiers of a graph under a policy. -/
def resolve (graph : TypeGraph) (policy : NamingPolicy) : Except NamingError GraphNames :=
  (NameAssignment.ofGraph graph policy).resolve policy

/-- The identifier of a class or enum. -/
def typeName? (names : GraphNames) (id : TypeId) : Option String :=
  match names.classes.get? id with
  | some idents => some idents.name
  | none => (names.enums.get? id).map EnumIdents.name

end GraphNames

end Hydration
