import Hydration.Proofs.Naming.Picked
import Hydration.Proofs.Structure
import Mathlib.Data.List.Perm.Subperm

/-!
# Attempts

The texts that are tried for a candidate are the candidate itself and then its
alternatives, a limited number in all; the first free one is found. With numeric
suffixes the attempts are distinct, so one of them is free whenever there are fewer
texts that are not.
-/

namespace Hydration

namespace NamingPolicy

/-- The text that is tried for a candidate at an attempt, counted from zero. -/
def attempt (policy : NamingPolicy) (candidate : String) (index : Nat) : String :=
  if index = 0 then candidate else policy.disambiguate candidate index

@[simp] theorem attempt_zero (policy : NamingPolicy) (candidate : String) :
    policy.attempt candidate 0 = candidate := rfl

@[simp] theorem attempt_succ (policy : NamingPolicy) (candidate : String) (index : Nat) :
    policy.attempt candidate (index + 1) = policy.disambiguate candidate (index + 1) := rfl

variable {policy : NamingPolicy}

/-- A numeric suffix is not empty. -/
theorem numericSuffix_ne (candidate : String) (index : Nat) :
    numericSuffix candidate index ≠ candidate := fun h =>
  Nat.repr_ne_empty (String.append_eq_left_iff.mp h)

/-- A numeric suffix can be read back from its digits. -/
theorem numericSuffix_injective (candidate : String) :
    Function.Injective (numericSuffix candidate) := by
  intro i j h
  have hsuffix : (i + 1).repr = (j + 1).repr := (String.append_right_inj candidate).mp h
  exact Nat.succ.inj (ofDigitChars_repr.injective hsuffix)

/-- With numeric suffixes no text is tried twice. -/
theorem attempt_injective (hd : policy.disambiguate = numericSuffix) (candidate : String) :
    Function.Injective (policy.attempt candidate) := by
  intro i j h
  cases i with
  | zero =>
    cases j with
    | zero => rfl
    | succ j =>
      rw [attempt_zero, attempt_succ, hd] at h
      exact absurd h.symm (numericSuffix_ne candidate (j + 1))
  | succ i =>
    cases j with
    | zero =>
      rw [attempt_zero, attempt_succ, hd] at h
      exact absurd h (numericSuffix_ne candidate (i + 1))
    | succ j =>
      rw [attempt_succ, attempt_succ, hd] at h
      exact numericSuffix_injective candidate h

/-- With numeric suffixes, all attempts are among some texts only if there are at least
as many of these. -/
theorem maxAttempts_le_length (hd : policy.disambiguate = numericSuffix) {candidate : String}
    (texts : List String)
    (h : ∀ index < policy.maxAttempts, policy.attempt candidate index ∈ texts) :
    policy.maxAttempts ≤ texts.length := by
  have hn : ((List.range policy.maxAttempts).map (policy.attempt candidate)).Nodup :=
    List.nodup_range.map (attempt_injective hd candidate)
  have hs : (List.range policy.maxAttempts).map (policy.attempt candidate) ⊆ texts := by
    intro text hm
    obtain ⟨index, hindex, rfl⟩ := List.mem_map.mp hm
    exact h index (List.mem_range.mp hindex)
  have hle := (List.subperm_of_subset hn hs).length_le
  rwa [List.length_map, List.length_range] at hle

end NamingPolicy

namespace NameRegistry

variable {policy : NamingPolicy} {free : String → Bool} {candidate text : String}

/-- The attempts are searched in order. -/
theorem firstFree_eq_find? (policy : NamingPolicy) (free : String → Bool) (candidate : String)
    (remaining start : Nat) :
    firstFree policy.disambiguate free candidate remaining start
      = ((List.range' start remaining).map (policy.attempt candidate)).find? free := by
  induction remaining generalizing start with
  | zero => rfl
  | succ remaining ih =>
    rw [firstFree, ih, List.range'_succ, List.map_cons, List.find?_cons]
    change (if free (policy.attempt candidate start) = true then _ else _) = _
    cases free (policy.attempt candidate start) <;> rfl

/-- The text that is found is the first free one of the attempts. -/
theorem firstFree_eq_some_iff {limit : Nat} :
    firstFree policy.disambiguate free candidate limit 0 = some text
      ↔ ∃ index < limit, text = policy.attempt candidate index ∧ free text = true
        ∧ ∀ earlier < index, free (policy.attempt candidate earlier) = false := by
  rw [firstFree_eq_find?, List.find?_eq_some_iff_getElem]
  simp only [List.length_map, List.length_range', List.getElem_map, List.getElem_range',
    Nat.one_mul, Nat.zero_add, Bool.not_eq_true']
  constructor
  · rintro ⟨hfree, index, hlt, rfl, hearlier⟩
    exact ⟨index, hlt, rfl, hfree, hearlier⟩
  · rintro ⟨index, hlt, rfl, hfree, hearlier⟩
    exact ⟨hfree, index, hlt, rfl, hearlier⟩

/-- Nothing is found when no attempt is free. -/
theorem firstFree_eq_none_iff {limit : Nat} :
    firstFree policy.disambiguate free candidate limit 0 = none
      ↔ ∀ index < limit, free (policy.attempt candidate index) = false := by
  rw [firstFree_eq_find?, ← List.range_eq_range', List.find?_eq_none]
  simp only [List.mem_map, List.mem_range, forall_exists_index, and_imp,
    forall_apply_eq_imp_iff₂, Bool.not_eq_true]

end NameRegistry

end Hydration
