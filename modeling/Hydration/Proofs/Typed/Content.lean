import Hydration.Proofs.Typed.Relaxed

/-!
# What an interpreter takes from a plan

Dehydrating and hydrating look converters up by their ids and ask for nothing else. Two
plans that hold the same converters, in whatever order, are therefore interpreted alike:
with the same results and the same errors.
-/

namespace Hydration.Converters

/-- Two plans hold the same converters for the same entries, perhaps in another order. -/
structure SameContent (plan plan' : Converters) : Prop where
  /-- The entries are the same. -/
  entries : plan.entries = plan'.entries
  /-- The classes have the same converters. -/
  classes : plan.classes.entries.Perm plan'.classes.entries
  /-- The enums have the same converters. -/
  enums : plan.enums.entries.Perm plan'.enums.entries
  /-- The unions have the same codecs. -/
  unions : plan.unions.entries.Perm plan'.unions.entries

namespace SameContent

variable {plan plan' : Converters} (h : plan.SameContent plan')
include h

/-- No field is relaxed between plans of the same content. -/
theorem relaxed : plan.Relaxed (fun _ _ => False) plan' where
  classes id := by
    rw [OrderedMap.perm_entries_iff.mp h.classes id]
    cases plan'.classes.get? id with
    | none => exact .none
    | some converter => exact .some ⟨rfl, List.forall₂_same.mpr fun field _ => .same field⟩
  enums := OrderedMap.perm_entries_iff.mp h.enums
  unions := OrderedMap.perm_entries_iff.mp h.unions

/-- Documents are dehydrated alike, to the same typed value or with the same error. -/
theorem dehydrate_eq (id : TypeId) (value : Json) :
    plan.dehydrate id value = plan'.dehydrate id value := h.relaxed.dehydrate_eq id value

/-- Instances are hydrated alike, to the same document or with the same error. -/
theorem hydrate_eq (object : TypedObject) : plan.hydrate object = plan'.hydrate object :=
  h.relaxed.hydrate_eq fun _ _ _ hfalse => hfalse.elim

end SameContent

end Hydration.Converters
