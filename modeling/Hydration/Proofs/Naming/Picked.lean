import Hydration.Naming.Registry
import Mathlib.Data.List.Nodup

/-!
# Picked texts

A name gets the first free text among its candidate and the alternatives. What
is picked is determined by the display text, by the texts that are taken and by
the forbidden words; it is none of the latter two. Texts that are picked one
after the other, each taken for the next, are therefore distinct.
-/

namespace Hydration

/-- A text is the first of the candidate for a display text and its
alternatives that is neither taken nor forbidden. -/
def NamingPolicy.Picks (policy : NamingPolicy) (forbidden taken : List String) (style : NameStyle)
    (display text : String) : Prop :=
  NameRegistry.firstFree policy.disambiguate (NameRegistry.isFree forbidden taken)
    (policy.style style display forbidden) policy.maxAttempts 0 = some text

namespace NameRegistry

/-- The text that is found is free. -/
theorem free_of_firstFree {disambiguate : String → Nat → String} {free : String → Bool}
    {candidate text : String} {remaining attempt : Nat}
    (h : firstFree disambiguate free candidate remaining attempt = some text) :
    free text = true := by
  induction remaining generalizing attempt with
  | zero => cases h
  | succ remaining ih =>
    rw [firstFree] at h
    by_cases hfree : free (if attempt = 0 then candidate else disambiguate candidate attempt) = true
    · rw [if_pos hfree] at h
      cases h
      exact hfree
    · rw [if_neg hfree] at h
      exact ih h

end NameRegistry

namespace NamingPolicy

variable {policy : NamingPolicy} {forbidden taken : List String} {style : NameStyle}
  {display text : String}

/-- A text that is picked is not taken. -/
theorem Picks.not_taken (h : policy.Picks forbidden taken style display text) : text ∉ taken :=
  (NameRegistry.isFree_iff.mp (NameRegistry.free_of_firstFree h)).1

/-- A text that is picked is not forbidden. -/
theorem Picks.not_forbidden (h : policy.Picks forbidden taken style display text) :
    text ∉ forbidden :=
  (NameRegistry.isFree_iff.mp (NameRegistry.free_of_firstFree h)).2

/-- What is picked depends on nothing else. -/
theorem Picks.unique {other : String} (h : policy.Picks forbidden taken style display text)
    (ho : policy.Picks forbidden taken style display other) : text = other :=
  Option.some.inj (h.symm.trans ho)

end NamingPolicy

/-- A text that was picked for a display text. -/
structure PickedName where
  /-- The style of the name. -/
  style : NameStyle
  /-- The display text. -/
  display : String
  /-- The text. -/
  text : String

/-- Texts are picked one after the other; each is taken for the next. -/
def NamingPolicy.PicksAll (policy : NamingPolicy) (forbidden : List String) :
    List String → List PickedName → Prop
  | _, [] => True
  | taken, next :: rest =>
    policy.Picks forbidden taken next.style next.display next.text
      ∧ policy.PicksAll forbidden (taken ++ [next.text]) rest

/-- Texts that are picked in two parts are picked one after the other. -/
theorem NamingPolicy.PicksAll.append {policy : NamingPolicy} {forbidden taken : List String}
    {first second : List PickedName} (h : policy.PicksAll forbidden taken first)
    (h' : policy.PicksAll forbidden (taken ++ first.map PickedName.text) second) :
    policy.PicksAll forbidden taken (first ++ second) := by
  induction first generalizing taken with
  | nil =>
    rw [List.map_nil, List.append_nil] at h'
    exact h'
  | cons next rest ih =>
    refine ⟨h.1, ih h.2 ?_⟩
    rw [List.append_assoc]
    exact h'

section Picked

variable {policy : NamingPolicy} {forbidden taken : List String} {picked : List PickedName}

/-- Texts that are picked one after the other are picked in two parts. -/
theorem NamingPolicy.PicksAll.split {first second : List PickedName}
    (h : policy.PicksAll forbidden taken (first ++ second)) :
    policy.PicksAll forbidden taken first
      ∧ policy.PicksAll forbidden (taken ++ first.map PickedName.text) second := by
  induction first generalizing taken with
  | nil =>
    rw [List.map_nil, List.append_nil]
    exact ⟨trivial, h⟩
  | cons next rest ih =>
    obtain ⟨hrest, hsecond⟩ := ih h.2
    rw [List.append_assoc] at hsecond
    exact ⟨⟨h.1, hrest⟩, hsecond⟩

/-- What is picked for the same display texts is the same. -/
theorem NamingPolicy.PicksAll.unique {others : List PickedName}
    (h : policy.PicksAll forbidden taken picked) (ho : policy.PicksAll forbidden taken others)
    (hsame : picked.map (fun next => (next.style, next.display))
      = others.map fun next => (next.style, next.display)) :
    picked.map PickedName.text = others.map PickedName.text := by
  induction picked generalizing taken others with
  | nil =>
    rw [List.map_nil, List.nil_eq, List.map_eq_nil_iff] at hsame
    rw [hsame]
  | cons next rest ih =>
    obtain _ | ⟨other, tail⟩ := others
    · cases hsame
    · obtain ⟨hhead, htail⟩ := List.cons.inj hsame
      obtain ⟨hstyle, hdisplay⟩ := Prod.mk.inj hhead
      have hfirst := ho.1
      rw [← hstyle, ← hdisplay] at hfirst
      have htext := h.1.unique hfirst
      have hrest := ho.2
      rw [← htext] at hrest
      rw [List.map_cons, List.map_cons, htext, ih h.2 hrest htail]

/-- No text that is picked was taken before. -/
theorem NamingPolicy.PicksAll.not_taken (h : policy.PicksAll forbidden taken picked) :
    ∀ text ∈ picked.map PickedName.text, text ∉ taken := by
  induction picked generalizing taken with
  | nil => simp
  | cons next rest ih =>
    intro text hm
    rcases List.mem_cons.mp hm with rfl | hm
    · exact h.1.not_taken
    · have hrest := ih h.2 text hm
      exact fun ht => hrest (List.mem_append_left _ ht)

/-- No text that is picked is forbidden. -/
theorem NamingPolicy.PicksAll.not_forbidden (h : policy.PicksAll forbidden taken picked) :
    ∀ text ∈ picked.map PickedName.text, text ∉ forbidden := by
  induction picked generalizing taken with
  | nil => simp
  | cons next rest ih =>
    intro text hm
    rcases List.mem_cons.mp hm with rfl | hm
    · exact h.1.not_forbidden
    · exact ih h.2 text hm

/-- The texts that are picked are distinct. -/
theorem NamingPolicy.PicksAll.nodup (h : policy.PicksAll forbidden taken picked) :
    (picked.map PickedName.text).Nodup := by
  induction picked generalizing taken with
  | nil => exact List.nodup_nil
  | cons next rest ih =>
    refine List.nodup_cons.mpr ⟨fun hm => ?_, ih h.2⟩
    exact h.2.not_taken _ hm (List.mem_append_right _ List.mem_cons_self)

end Picked

end Hydration
