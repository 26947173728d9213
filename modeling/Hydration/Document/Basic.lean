import Hydration.TypeGraph.Builder

/-!
# Graph documents

The written form of a type graph: named classes and enums, type expressions
over their names, and named entry points. Document order is declaration order.
Lowering gives every named type its id first, so that expressions may refer
forward, and then adds the types of field expressions and of entry points. An
unknown name is reported with its location in the document.
-/

namespace Hydration

/-- A type expression. -/
inductive TypeExpr where
  /-- A primitive or a named type. -/
  | name (name : String)
  /-- An array of elements. -/
  | array (items : TypeExpr)
  /-- A map to values. -/
  | map (values : TypeExpr)
  /-- A union of members. -/
  | union (members : List TypeExpr)
  /-- A string with an interpretation. -/
  | transformed (kind : String)

namespace TypeExpr

mutual

/-- Whether two expressions are equal. -/
def same : TypeExpr → TypeExpr → Bool
  | name a, name b => a == b
  | array a, array b => same a b
  | map a, map b => same a b
  | union a, union b => sameMembers a b
  | transformed a, transformed b => a == b
  | _, _ => false

/-- Whether two lists of expressions are equal. -/
def sameMembers : List TypeExpr → List TypeExpr → Bool
  | [], [] => true
  | a :: as, b :: bs => same a b && sameMembers as bs
  | _, _ => false

end

mutual

/-- `same` decides equality of expressions. -/
theorem same_iff : ∀ a b : TypeExpr, same a b = true ↔ a = b
  | name _, b => by cases b <;> simp [same]
  | array a, b => by cases b <;> simp [same, same_iff a]
  | map a, b => by cases b <;> simp [same, same_iff a]
  | union a, b => by cases b <;> simp [same, sameMembers_iff a]
  | transformed _, b => by cases b <;> simp [same]

/-- `sameMembers` decides equality of lists of expressions. -/
theorem sameMembers_iff : ∀ a b : List TypeExpr, sameMembers a b = true ↔ a = b
  | [], b => by cases b <;> simp [sameMembers]
  | a :: as, b => by cases b <;> simp [sameMembers, same_iff a, sameMembers_iff as]

end

instance : DecidableEq TypeExpr := fun a b => decidable_of_iff _ (same_iff a b)

/-- The primitive with a name. -/
def primitive? : String → Option Ty
  | "any" => some .any
  | "null" => some .null
  | "bool" => some .bool
  | "integer" => some .integer
  | "double" => some .double
  | "string" => some .string
  | _ => none

end TypeExpr

/-- A field of a class in a document. -/
structure FieldDoc where
  /-- The type of the field's values. -/
  type : TypeExpr
  /-- Whether the field may be absent. -/
  optional : Bool
  deriving DecidableEq

/-- A named type in a document. -/
inductive NamedType where
  /-- A class with its fields. -/
  | classDoc (fields : OrderedMap String FieldDoc)
  /-- An enum with its cases. -/
  | enumDoc (cases : List String)
  deriving DecidableEq

/-- A graph document. -/
structure GraphDocument where
  /-- The entry points by name. -/
  topLevels : OrderedMap String TypeExpr
  /-- The named types in declared order. -/
  types : OrderedMap String NamedType
  deriving DecidableEq

/-- Why a document is not a graph. -/
inductive LoweringError where
  /-- A name is neither a primitive nor declared. -/
  | unknownType (name location : String)
  /-- The types do not form a graph. -/
  | graph (error : GraphError)
  deriving DecidableEq

/-- The text of a lowering error. -/
def LoweringError.message : LoweringError → String
  | unknownType name location => location ++ ": unknown type `" ++ name ++ "`"
  | graph error => error.message

namespace GraphDocument

/-- Declare the named types in order. -/
def declare : List (String × NamedType) → List (String × TypeId) × Draft → List (String × TypeId) × Draft
  | [], state => state
  | (name, .classDoc _) :: rest, (named, draft) =>
    let (id, draft) := draft.declareClass name
    declare rest (named ++ [(name, id)], draft)
  | (name, .enumDoc cases) :: rest, (named, draft) =>
    let (id, draft) := draft.add (.enumType ⟨name, OrderedSet.ofList cases⟩)
    declare rest (named ++ [(name, id)], draft)

mutual

/-- Add the type of an expression at a location. -/
def lowerExpr (named : List (String × TypeId)) :
    TypeExpr → String → Draft → Except LoweringError (TypeId × Draft)
  | .name name, location, draft =>
    match TypeExpr.primitive? name with
    | some type => .ok (draft.add type)
    | none =>
      match Entries.get? name named with
      | some id => .ok (id, draft)
      | none => .error (.unknownType name location)
  | .array items, location, draft => do
    let (inner, draft) ← lowerExpr named items (location ++ "[]") draft
    return draft.add (.array inner)
  | .map values, location, draft => do
    let (inner, draft) ← lowerExpr named values (location ++ "\x7b\x7d") draft
    return draft.add (.map inner)
  | .union members, location, draft => do
    let (ids, draft) ← lowerMembers named members 0 location draft
    return draft.add (.union (OrderedSet.ofList ids))
  | .transformed kind, _, draft => .ok (draft.add (.transformed (StringKind.ofName kind)))

/-- Add the types of union members, counted from an index. -/
def lowerMembers (named : List (String × TypeId)) :
    List TypeExpr → Nat → String → Draft → Except LoweringError (List TypeId × Draft)
  | [], _, _, draft => .ok ([], draft)
  | member :: rest, index, location, draft => do
    let (id, draft) ← lowerExpr named member (location ++ "|" ++ toString index) draft
    let (ids, draft) ← lowerMembers named rest (index + 1) location draft
    return (id :: ids, draft)

end

/-- Add the types of a class's fields. -/
def lowerFields (named : List (String × TypeId)) (className : String) :
    List (String × FieldDoc) → Draft → Except LoweringError (List (String × Field) × Draft)
  | [], draft => .ok ([], draft)
  | (key, field) :: rest, draft => do
    let location := "types." ++ className ++ ".fields." ++ key
    let (type, draft) ← lowerExpr named field.type location draft
    let (fields, draft) ← lowerFields named className rest draft
    return ((key, ⟨type, field.optional⟩) :: fields, draft)

/-- Define the classes in order. -/
def lowerClasses (named : List (String × TypeId)) :
    List (String × NamedType) → Draft → Except LoweringError Draft
  | [], draft => .ok draft
  | (_, .enumDoc _) :: rest, draft => lowerClasses named rest draft
  | (name, .classDoc fields) :: rest, draft => do
    let (lowered, draft) ← lowerFields named name fields.entries draft
    let id := (Entries.get? name named).getD draft.nextId
    match draft.defineClass id (OrderedMap.ofList lowered) with
    | .ok draft => lowerClasses named rest draft
    | .error error => throw (.graph error)

/-- Add the types of the entry points. -/
def lowerTopLevels (named : List (String × TypeId)) :
    List (String × TypeExpr) → Draft → Except LoweringError (List (String × TypeId) × Draft)
  | [], draft => .ok ([], draft)
  | (name, expr) :: rest, draft => do
    let (id, draft) ← lowerExpr named expr ("top_levels." ++ name) draft
    let (ids, draft) ← lowerTopLevels named rest draft
    return ((name, id) :: ids, draft)

/-- The graph of a document. -/
def toGraph (doc : GraphDocument) : Except LoweringError TypeGraph := do
  let (named, draft) := declare doc.types.entries ([], Draft.empty)
  let draft ← lowerClasses named doc.types.entries draft
  let (topLevels, draft) ← lowerTopLevels named doc.topLevels.entries draft
  let draft := topLevels.foldl (fun draft entry => draft.topLevel entry.1 entry.2) draft
  match draft.build with
  | .ok graph => return graph
  | .error error => throw (.graph error)

end GraphDocument

end Hydration
