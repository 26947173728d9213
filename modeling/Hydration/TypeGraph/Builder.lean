import Hydration.TypeGraph.Basic

/-!
# Building type graphs

A draft accumulates types and entry points; `Draft.build` checks it and makes
a graph of it. A class may be declared before it is defined, so that fields
can refer to their own class. `BuildStep` is one operation on a draft as a
value, and `Draft.run` performs a sequence of them.
-/

namespace Hydration

/-- A graph under construction. -/
structure Draft where
  /-- The types so far. -/
  types : List Ty
  /-- The classes that were declared and not yet defined, oldest first. -/
  pending : List TypeId
  /-- The entry points so far. -/
  topLevels : OrderedMap String TypeId
  deriving DecidableEq

namespace Draft

/-- The draft without types. -/
def empty : Draft := ⟨[], [], OrderedMap.empty⟩

/-- The id that the next type will have. -/
def nextId (draft : Draft) : TypeId := ⟨draft.types.length⟩

/-- Add a type at the end. -/
def add (draft : Draft) (type : Ty) : TypeId × Draft :=
  (draft.nextId, { draft with types := draft.types ++ [type] })

/-- Add a null type and its union with another type. -/
def nullable (draft : Draft) (inner : TypeId) : TypeId × Draft :=
  let (null, draft) := draft.add .null
  draft.add (.union (OrderedSet.ofList [null, inner]))

/-- Reserve the id of a class whose fields follow. -/
def declareClass (draft : Draft) (name : String) : TypeId × Draft :=
  let (id, draft) := draft.add (.classType ⟨name, OrderedMap.empty⟩)
  (id, { draft with pending := draft.pending ++ [id] })

/-- Give a class its fields. -/
def defineClass (draft : Draft) (id : TypeId) (fields : OrderedMap String Field) :
    Except GraphError Draft :=
  match draft.types[id.index]? with
  | some (.classType shape) =>
    .ok { draft with
      types := draft.types.set id.index (.classType { shape with fields })
      pending := draft.pending.filter fun other => other != id }
  | _ => .error (.notAClass id)

/-- Name an entry point. -/
def topLevel (draft : Draft) (name : String) (id : TypeId) : Draft :=
  { draft with topLevels := draft.topLevels.insert name id }

/-- The display name of a pending class. -/
def pendingName (draft : Draft) (id : TypeId) : String :=
  match draft.types[id.index]? with
  | some (.classType shape) => shape.name
  | _ => id.text

/-- The graph of a draft, or the first thing that is wrong with it. -/
def build (draft : Draft) : Except GraphError TypeGraph :=
  match draft.pending with
  | id :: _ => .error (.undefinedClass (draft.pendingName id))
  | [] =>
    match h : TypeGraph.fault? draft.types draft.topLevels with
    | some fault => .error fault
    | none => .ok ⟨draft.types, draft.topLevels, h⟩

end Draft

/-- An operation on a draft. -/
inductive BuildStep where
  /-- Add a type. -/
  | add (type : Ty)
  /-- Add a null type and its union with another type. -/
  | nullable (inner : TypeId)
  /-- Declare a class. -/
  | declareClass (name : String)
  /-- Define a class. -/
  | defineClass (id : TypeId) (fields : OrderedMap String Field)
  /-- Name an entry point. -/
  | topLevel (name : String) (id : TypeId)

/-- What an operation answers. -/
inductive BuildAnswer where
  /-- The id of the added type. -/
  | added (id : TypeId)
  /-- Nothing. -/
  | done
  /-- A refusal, which leaves the draft as it was. -/
  | refused (error : GraphError)
  deriving DecidableEq

namespace Draft

/-- Perform an operation. -/
def step (draft : Draft) : BuildStep → BuildAnswer × Draft
  | .add type => ((.added (draft.add type).1), (draft.add type).2)
  | .nullable inner => (.added (draft.nullable inner).1, (draft.nullable inner).2)
  | .declareClass name => (.added (draft.declareClass name).1, (draft.declareClass name).2)
  | .defineClass id fields =>
    match draft.defineClass id fields with
    | .ok draft => (.done, draft)
    | .error error => (.refused error, draft)
  | .topLevel name id => (.done, draft.topLevel name id)

/-- Perform operations in order. -/
def run (draft : Draft) : List BuildStep → List BuildAnswer × Draft
  | [] => ([], draft)
  | step :: rest =>
    let (answer, draft) := draft.step step
    let (answers, draft) := draft.run rest
    (answer :: answers, draft)

end Draft

end Hydration
