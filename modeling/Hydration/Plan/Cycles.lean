import Hydration.Plan.Basic

/-!
# Cycles of classes

A required field whose type is a class, directly or through unions of a single
member, is a hard edge: every instance contains an instance of its target. A
cycle of hard edges has no finite instance. Arrays, maps, optional fields and
the other unions break a cycle. The search goes depth first with the path to
the current class; a class on that path closes a cycle, and a class whose
targets have all been searched is not searched again.
-/

namespace Hydration.TypeGraph

/-- The class that a required field of a type has to contain. -/
def hardTarget? (graph : TypeGraph) (type : TypeId) : Option TypeId :=
  (graph.standsFor? type).filter fun target => (graph.class? target).isSome

/-- The targets of the hard edges of a class, in the order of its fields. -/
def hardTargets (graph : TypeGraph) (id : TypeId) : List TypeId :=
  match graph.class? id with
  | some shape =>
    (shape.fields.values.filter fun field => !field.optional).filterMap fun field =>
      graph.hardTarget? field.type
  | none => []

/-- The display name of a type on a cycle. -/
def cycleName (graph : TypeGraph) (id : TypeId) : String :=
  (graph.displayName? id).getD id.text

/-- The names along a cycle that closes at a class of the path. -/
def cyclePath (graph : TypeGraph) (path : List TypeId) (id : TypeId) : List String :=
  (path.dropWhile (fun other => other != id) ++ [id]).map graph.cycleName

/-- Search the hard edges from a class at the end of a path; `done` holds the
classes already searched, and the result holds them and the new ones. -/
def visitWithin (graph : TypeGraph) :
    Nat → List TypeId → TypeId → List TypeId → Except PlanError (List TypeId)
  | 0, _, id, _ => .error (.endlessType id)
  | bound + 1, path, id, done =>
    if id ∈ done then .ok done
    else if id ∈ path then .error (.unbreakableCycle (graph.cyclePath path id))
    else do
      let done ← (graph.hardTargets id).foldlM
        (fun done next => visitWithin graph bound (path ++ [id]) next done) done
      return id :: done

/-- Search from one class that is on no path. -/
def visit (graph : TypeGraph) (done : List TypeId) (id : TypeId) :
    Except PlanError (List TypeId) :=
  graph.visitWithin (graph.size + 2) [] id done

/-- Refuse a graph with a cycle of hard edges. Every class is searched, since
an edge that breaks a cycle can still lead into another. -/
def checkCycles (graph : TypeGraph) (entries : List TypeId) : Except PlanError Unit := do
  let _ ← (entries ++ graph.classes.map Prod.fst).foldlM graph.visit []
  return ()

end Hydration.TypeGraph
