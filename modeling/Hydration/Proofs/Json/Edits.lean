import Hydration.Proofs.Json.Keys

/-!
# Values changed at one place

`Json.modify` changes the value at the end of a path and leaves the rest as it is:
one step goes to the member that a key finds or to the element with an index, as
`Json.child?` does. `Json.without` takes the member of a key away.
-/

namespace Hydration

namespace Entries

variable {κ ν : Type} [DecidableEq κ]

/-- The entries with the first value of a key changed. -/
def modify (key : κ) (change : ν → ν) : List (κ × ν) → List (κ × ν)
  | [] => []
  | (k, v) :: rest =>
    if k = key then (k, change v) :: rest else (k, v) :: modify key change rest

/-- A change of the value of a key changes what that key finds only. -/
theorem get?_modify (key other : κ) (change : ν → ν) (entries : List (κ × ν)) :
    get? other (modify key change entries)
      = if key = other then (get? other entries).map change else get? other entries := by
  induction entries with
  | nil => simp [modify]
  | cons entry rest ih =>
    obtain ⟨k, v⟩ := entry
    by_cases hk : k = key
    · subst hk
      by_cases ho : k = other <;> simp [modify, get?, ho]
    · by_cases ho : k = other
      · subst ho
        simp [modify, get?, hk, Ne.symm hk]
      · simp [modify, get?, hk, ho, ih]

/-- The found value is the one after entries with other keys. -/
theorem get?_append_cons {key : κ} {front : List (κ × ν)} (h : key ∉ front.map Prod.fst)
    (value : ν) (back : List (κ × ν)) : get? key (front ++ (key, value) :: back) = some value := by
  induction front with
  | nil => exact if_pos rfl
  | cons entry rest ih =>
    rw [List.map_cons, List.mem_cons, not_or] at h
    rw [List.cons_append, get?, if_neg (Ne.symm h.1), ih h.2]

/-- An entry is not found by another key than its own. -/
theorem get?_append_cons_of_ne {key other : κ} (h : key ≠ other) (value : ν)
    (front back : List (κ × ν)) :
    get? other (front ++ (key, value) :: back) = get? other (front ++ back) := by
  induction front with
  | nil => exact if_neg h
  | cons entry rest ih => rw [List.cons_append, List.cons_append, get?, get?, ih]

/-- The changed value is the one after entries with other keys. -/
theorem modify_append_cons {key : κ} {front : List (κ × ν)} (h : key ∉ front.map Prod.fst)
    (change : ν → ν) (value : ν) (back : List (κ × ν)) :
    modify key change (front ++ (key, value) :: back)
      = front ++ (key, change value) :: back := by
  induction front with
  | nil => exact if_pos rfl
  | cons entry rest ih =>
    rw [List.map_cons, List.mem_cons, not_or] at h
    rw [List.cons_append, modify, if_neg (Ne.symm h.1), ih h.2, List.cons_append]

/-- A change that does nothing leaves the entries as they are. -/
theorem modify_id (key : κ) (entries : List (κ × ν)) : modify key id entries = entries := by
  induction entries with
  | nil => rfl
  | cons entry rest ih =>
    obtain ⟨k, v⟩ := entry
    rw [modify, ih]
    split <;> rfl

/-- The entries with other keys. -/
def without (key : κ) (entries : List (κ × ν)) : List (κ × ν) :=
  entries.filter fun entry => entry.1 ≠ key

/-- Without a key every other key finds what it did. -/
theorem get?_without (key other : κ) (entries : List (κ × ν)) :
    get? other (without key entries) = if key = other then none else get? other entries := by
  induction entries with
  | nil => simp [without]
  | cons entry rest ih =>
    obtain ⟨k, v⟩ := entry
    have hcons : without key ((k, v) :: rest)
        = if k = key then without key rest else (k, v) :: without key rest := by
      by_cases hk : k = key <;> simp [without, hk]
    rw [hcons]
    by_cases hk : k = key
    · subst hk
      rw [if_pos rfl, ih]
      by_cases ho : k = other <;> simp [get?, ho]
    · by_cases ho : k = other
      · subst ho
        simp [get?, hk, Ne.symm hk]
      · simp [get?, hk, ho, ih]

end Entries

namespace Json

/-- The element at a step changed. -/
def Step.modifyItem {α : Type} (step : Step) (change : α → α) (items : List α) : List α :=
  match step with
  | .index position => items.modify position change
  | .key _ => items

/-- The changed element is the one after as many elements as the index says. -/
theorem Step.modifyItem_index {α : Type} (front back : List α) (item : α) (change : α → α) :
    (Step.index front.length).modifyItem change (front ++ item :: back)
      = front ++ change item :: back :=
  List.modifyTailIdx_add (List.modifyHead change) 0 front (item :: back)

/-- The value of the entry at a step changed. -/
def Step.modifyEntry {α : Type} (step : Step) (change : α → α) (entries : List (String × α)) :
    List (String × α) :=
  match step with
  | .key name => Entries.modify name change entries
  | .index _ => entries

/-- The child at a step changed. -/
def modifyChild (step : Step) (change : Json → Json) : Json → Json
  | array items => array (step.modifyItem change items)
  | object members => object (step.modifyEntry change members)
  | value => value

/-- The value at the end of the steps changed. -/
def modify (value : Json) (steps : List Step) (change : Json → Json) : Json :=
  steps.foldr modifyChild change value

/-- Steps taken one after the other. -/
theorem modify_append (value : Json) (front back : List Step) (change : Json → Json) :
    value.modify (front ++ back) change
      = value.modify front fun inner => inner.modify back change := by
  rw [modify, List.foldr_append]
  rfl

/-- A change that does nothing leaves the value as it is. -/
theorem modify_id (value : Json) (steps : List Step) : value.modify steps id = value := by
  induction steps generalizing value with
  | nil => rfl
  | cons step rest ih =>
    have hrest : rest.foldr modifyChild id = id := funext ih
    rw [modify, List.foldr_cons, hrest]
    cases value with
    | array items => cases step <;> simp [modifyChild, Step.modifyItem]
    | object members => cases step <;> simp [modifyChild, Step.modifyEntry, Entries.modify_id]
    | _ => rfl

/-- A change at the step to an element. -/
theorem modify_index (front back : List Json) (item : Json) (change : Json → Json) :
    (array (front ++ item :: back)).modify [.index front.length] change
      = array (front ++ change item :: back) :=
  congrArg array (Step.modifyItem_index front back item change)

/-- A change at the step to a member. -/
theorem modify_key (members : List (String × Json)) (key : String) (change : Json → Json) :
    (object members).modify [.key key] change = object (Entries.modify key change members) := rfl

/-- The object without the member of a key. -/
def without (key : String) : Json → Json
  | .object members => .object (Entries.without key members)
  | value => value

/-- Changing a child leaves the kind of the value. -/
theorem kind_modifyChild (step : Step) (change : Json → Json) (value : Json) :
    (value.modifyChild step change).kind = value.kind := by
  cases value <;> rfl

/-- A change that keeps the kind of what it changes keeps the kind of the whole. -/
theorem kind_modify {value inner : Json} {steps : List Step} {change : Json → Json}
    (h : value.at? steps = some inner) (hk : (change inner).kind = inner.kind) :
    (value.modify steps change).kind = value.kind := by
  cases steps with
  | nil =>
    cases h
    exact hk
  | cons step rest => exact kind_modifyChild step _ value

end Json

end Hydration
