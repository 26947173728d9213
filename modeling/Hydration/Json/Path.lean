import Hydration.Json.Basic

/-!
# Positions in JSON values

A path is a root text followed by steps to members and elements. Error texts
name the place of a fault by it. `Json.at?` is the value at the end of the
steps, and `at?_append` says that paths compose.
-/

namespace Hydration

namespace Json

/-- One step into a value. -/
inductive Step where
  /-- To the member with a key. -/
  | key (name : String)
  /-- To the element with an index. -/
  | index (position : Nat)
  deriving DecidableEq

/-- The text of a step. -/
def Step.text : Step → String
  | key name => "." ++ name
  | index position => "[" ++ toString position ++ "]"

/-- The value one step below a value. -/
def child? (value : Json) (step : Step) : Option Json :=
  match value, step with
  | object members, .key name => Entries.get? name members
  | array items, .index position => items[position]?
  | _, _ => none

/-- The value at the end of the steps. -/
def at? (value : Json) (steps : List Step) : Option Json := steps.foldlM child? value

/-- Steps taken one after the other. -/
theorem at?_append (value : Json) (front back : List Step) :
    value.at? (front ++ back) = (value.at? front).bind (fun inner => inner.at? back) := by
  unfold at?
  rw [List.foldlM_append]
  rfl

end Json

/-- A place in a value, counted from a root. -/
structure Path where
  /-- The text that stands for the root. -/
  root : String
  /-- The steps from the root, outermost first. -/
  steps : List Json.Step
  deriving DecidableEq

namespace Path

/-- The usual root. -/
def top : Path := ⟨"$", []⟩

/-- The place of a member. -/
def child (path : Path) (key : String) : Path := { path with steps := path.steps ++ [.key key] }

/-- The place of an element. -/
def item (path : Path) (index : Nat) : Path := { path with steps := path.steps ++ [.index index] }

/-- The text of a path. -/
def text (path : Path) : String := path.root ++ String.join (path.steps.map Json.Step.text)

end Path

end Hydration
