import Hydration.Json.Path
import Hydration.Proofs.Structure

/-!
# Values whose keys are distinct

A reader of text records each key of an object once, so the values that it
gives are well keyed. In a well-keyed value a step to a key leads to each member.
-/

namespace Hydration.Json

/-- The keys of a value: those of an object, and none of any other value. -/
def keys : Json → List String
  | object members => members.map Prod.fst
  | _ => []

/-- The keys of every object in a value are distinct. -/
inductive WellKeyed : Json → Prop where
  /-- The keys of the value are distinct, and its parts are well keyed. -/
  | intro {value : Json} (hk : value.keys.Nodup) (hp : ∀ part ∈ value.parts, WellKeyed part) :
      WellKeyed value

/-- A value without parts is well keyed. -/
theorem wellKeyed_of_parts_eq_nil {value : Json} (h : value.parts = []) : value.WellKeyed := by
  refine .intro ?_ fun part hp => by rw [h] at hp; cases hp
  cases value with
  | object members =>
    have hnil : members = [] := List.map_eq_nil_iff.mp h
    rw [hnil]
    exact List.nodup_nil
  | _ => exact List.nodup_nil

/-- An array is well keyed if its elements are. -/
theorem wellKeyed_array_iff {items : List Json} :
    (array items).WellKeyed ↔ ∀ item ∈ items, item.WellKeyed := by
  constructor
  · rintro ⟨-, hp⟩
    exact hp
  · exact fun h => .intro List.nodup_nil h

/-- An object is well keyed if its keys are distinct and the values of its members are
well keyed. -/
theorem wellKeyed_object_iff {members : List (String × Json)} :
    (object members).WellKeyed
      ↔ (members.map Prod.fst).Nodup ∧ ∀ member ∈ members, member.2.WellKeyed := by
  constructor
  · rintro ⟨hk, hp⟩
    exact ⟨hk, fun member hm => hp _ (List.mem_map_of_mem hm)⟩
  · rintro ⟨hk, hp⟩
    refine .intro hk fun part hpart => ?_
    obtain ⟨member, hm, rfl⟩ := List.mem_map.mp hpart
    exact hp member hm

/-- One step leads to the child. -/
theorem at?_singleton (value : Json) (step : Step) : value.at? [step] = value.child? step := by
  unfold at?
  rw [List.foldlM_cons]
  cases value.child? step <;> rfl

/-- A step to an index leads to the element there. -/
theorem at?_index (front back : List Json) (item : Json) :
    (array (front ++ item :: back)).at? [.index front.length] = some item := by
  rw [at?_singleton, child?, List.getElem?_append_right (Nat.le_refl _), Nat.sub_self]
  rfl

/-- In an object with distinct keys, a step to a key leads to its member. -/
theorem at?_key {members : List (String × Json)} {member : String × Json}
    (hk : (object members).keys.Nodup) (hm : member ∈ members) :
    (object members).at? [.key member.1] = some member.2 := by
  rw [at?_singleton, child?]
  exact Entries.get?_of_mem hk hm

end Hydration.Json
