import Hydration.Proofs.Json.Edits
import Hydration.Typed.Value

/-!
# Typed values changed at one place

The steps into a document lead into what is read from it as well, where a union value
is passed through to the array, instance or map that it holds. `objectAt?` is the
instance at the end of the steps; `modify` changes it and leaves the rest as it is.
-/

namespace Hydration

/-- The element at a step. -/
def Json.Step.item? {α : Type} (step : Step) (items : List α) : Option α :=
  match step with
  | .index position => items[position]?
  | .key _ => none

/-- The value of the entry at a step. -/
def Json.Step.entry? {α : Type} (step : Step) (entries : List (String × α)) : Option α :=
  match step with
  | .key name => Entries.get? name entries
  | .index _ => none

/-- The value of the field at a step. -/
def Instance.child? {α : Type} (object : Instance α) (step : Json.Step) : Option α :=
  (step.entry? object.fields).join

/-- The value of the field at a step changed, if the field is present. -/
def Instance.modifyChild {α : Type} (step : Json.Step) (change : α → α) (object : Instance α) :
    Instance α :=
  { object with fields := step.modifyEntry (Option.map change) object.fields }

/-- The value of a field dropped. -/
def Instance.absent {α : Type} (key : String) (object : Instance α) : Instance α :=
  { object with fields := Entries.modify key (fun _ => none) object.fields }

namespace TypedValue

/-- The value one step below a value. -/
def child? (step : Json.Step) : TypedValue → Option TypedValue
  | array items => step.item? items
  | map entries => step.entry? entries
  | object value => value.child? step
  | union slots =>
    (slots.array.bind step.item?).or
      ((slots.object.bind fun value => value.child? step).or (slots.map.bind step.entry?))
  | _ => none

/-- The instance that a value is or holds as a union value. -/
def object? : TypedValue → Option TypedObject
  | object value => some value
  | union slots => slots.object
  | _ => none

/-- The instance at the end of the steps. -/
def objectAt? : List Json.Step → TypedValue → Option TypedObject
  | [], value => value.object?
  | step :: rest, value => (value.child? step).bind (objectAt? rest)

/-- The value one step below changed. -/
def modifyChild (step : Json.Step) (change : TypedValue → TypedValue) : TypedValue → TypedValue
  | array items => array (step.modifyItem change items)
  | map entries => map (step.modifyEntry change entries)
  | object value => object (value.modifyChild step change)
  | union slots => union { slots with
      array := slots.array.map (step.modifyItem change)
      object := slots.object.map (Instance.modifyChild step change)
      map := slots.map.map (step.modifyEntry change) }
  | value => value

/-- The instance that a value is or holds changed. -/
def modifyObject (change : TypedObject → TypedObject) : TypedValue → TypedValue
  | object value => object (change value)
  | union slots => union { slots with object := slots.object.map change }
  | value => value

/-- The instance at the end of the steps changed. -/
def modify (steps : List Json.Step) (change : TypedObject → TypedObject) (value : TypedValue) :
    TypedValue :=
  steps.foldr modifyChild (modifyObject change) value

/-- The union value that holds a value alone. -/
def alone : TypedValue → TypedValue
  | array items => union { UnionSlots.null with array := some items }
  | map entries => union { UnionSlots.null with map := some entries }
  | object value => union { UnionSlots.null with object := some value }
  | union slots => union slots
  | _ => union UnionSlots.null

theorem objectAt?_cons (step : Json.Step) (rest : List Json.Step) (value : TypedValue) :
    value.objectAt? (step :: rest) = (value.child? step).bind (objectAt? rest) := rfl

theorem modify_cons (step : Json.Step) (rest : List Json.Step)
    (change : TypedObject → TypedObject) (value : TypedValue) :
    value.modify (step :: rest) change = value.modifyChild step (modify rest change) := rfl

/-- The steps lead into a union value as into the value that it holds. -/
theorem objectAt?_alone (steps : List Json.Step) (value : TypedValue) :
    value.alone.objectAt? steps = value.objectAt? steps := by
  cases steps with
  | nil => cases value <;> rfl
  | cons step rest =>
    have hchild : value.alone.child? step = value.child? step := by
      cases value <;> simp [alone, child?, UnionSlots.null]
    rw [objectAt?_cons, objectAt?_cons, hchild]

/-- What a union value holds is changed as the value alone is. -/
theorem modify_alone (steps : List Json.Step) (change : TypedObject → TypedObject)
    (value : TypedValue) : value.alone.modify steps change = (value.modify steps change).alone := by
  cases steps <;> cases value <;> rfl

end TypedValue

/-- The instance at the end of the steps from an instance changed. -/
def Instance.modify (steps : List Json.Step) (change : TypedObject → TypedObject)
    (object : TypedObject) : TypedObject :=
  match steps with
  | [] => change object
  | step :: rest => object.modifyChild step (TypedValue.modify rest change)

/-- A changed object stays an object. -/
theorem TypedValue.modify_object (steps : List Json.Step) (change : TypedObject → TypedObject)
    (object : TypedObject) :
    (TypedValue.object object).modify steps change = .object (object.modify steps change) := by
  cases steps <;> rfl

end Hydration
