import Hydration.Outline.TextUnit
import Hydration.Proofs.Structure
import Mathlib.Data.List.Induction

/-!
# The units of a history

An outline is built by calls that each write a named unit. A call that fails
leaves no trace, whatever it wrote before and whether or not its unit was known.
So the outline is told by the calls that succeeded: each of their names stands
once, where it first succeeded, with the text it was last given.
-/

namespace Hydration

theorem Entries.get?_eq_lookup {κ ν : Type} [DecidableEq κ] (key : κ) (entries : List (κ × ν)) :
    get? key entries = entries.lookup key := by
  induction entries with
  | nil => rfl
  | cons entry rest ih =>
    rw [get?, ih, List.lookup_cons]
    by_cases h : entry.1 = key
    · rw [if_pos h, beq_iff_eq.mpr h.symm]
    · rw [if_neg h, beq_eq_false_iff_ne.mpr (Ne.symm h)]

/-- A list of distinct elements has no repeated ones to erase. -/
theorem eraseDups_of_nodup {α : Type} [DecidableEq α] {list : List α} (h : list.Nodup) :
    list.eraseDups = list := by
  induction list with
  | nil => rfl
  | cons a rest ih =>
    obtain ⟨ha, hrest⟩ := List.nodup_cons.mp h
    have hfilter : rest.filter (fun b => !b == a) = rest :=
      List.filter_eq_self.mpr fun b hb => by
        have hne : b ≠ a := fun hba => ha (hba ▸ hb)
        rw [beq_eq_false_iff_ne.mpr hne, Bool.not_false]
    rw [List.eraseDups_cons, hfilter, ih hrest]

namespace OrderedMap

variable {κ ν : Type} [DecidableEq κ]

/-- The map is what is left of entries recorded one after the other: each key stands where it
was first recorded, with the value that was recorded last. -/
structure Keeps (m : OrderedMap κ ν) (recorded : List (κ × ν)) : Prop where
  /-- Every recorded key stands once, in the order of first entries. -/
  keys_eq : m.keys = (recorded.map Prod.fst).eraseDups
  /-- A key has the value of its last entry. -/
  get?_eq : ∀ key, m.get? key = recorded.reverse.lookup key

/-- A map keeps its own entries. -/
theorem keeps_entries (m : OrderedMap κ ν) : m.Keeps m.entries where
  keys_eq := (eraseDups_of_nodup m.nodup).symm
  get?_eq key := by
    rw [get?, Entries.get?_eq_of_perm m.nodup m.entries.reverse_perm.symm, Entries.get?_eq_lookup]

variable {m : OrderedMap κ ν} {recorded : List (κ × ν)}

/-- One more entry is kept when it is inserted. -/
theorem Keeps.insert (h : m.Keeps recorded) (key : κ) (value : ν) :
    (m.insert key value).Keeps (recorded ++ [(key, value)]) where
  keys_eq := by
    have hone : [key].eraseDups = [key] := eraseDups_of_nodup (List.nodup_singleton key)
    rw [keys_insert, h.keys_eq, List.map_append, List.map_singleton, List.eraseDups_append]
    by_cases hkey : key ∈ recorded.map Prod.fst
    · have hnone : [key].removeAll (recorded.map Prod.fst) = [] := by
        simp [List.removeAll, List.mem_map.mp hkey]
      rw [if_pos (List.mem_eraseDups.mpr hkey), hnone, List.eraseDups_nil, List.append_nil]
    · have hnew : [key].removeAll (recorded.map Prod.fst) = [key] := by
        simp [List.removeAll, hkey]
      rw [if_neg (mt List.mem_eraseDups.mp hkey), hnew, hone]
  get?_eq other := by
    rw [get?_insert, h.get?_eq, List.reverse_append, List.reverse_singleton,
      List.singleton_append, List.lookup_cons]
    by_cases hkey : key = other
    · rw [if_pos hkey, beq_iff_eq.mpr hkey.symm]
    · rw [if_neg hkey, beq_eq_false_iff_ne.mpr (Ne.symm hkey)]

/-- The values in order. -/
theorem values_eq (m : OrderedMap κ ν) : m.values = m.keys.filterMap m.get? := by
  rw [values, keys, List.filterMap_map, ← List.filterMap_eq_map]
  exact List.filterMap_congr fun entry hm => (mem_entries_iff.mp hm).symm

end OrderedMap

/-- A call that writes a named unit. -/
structure UnitCall where
  /-- What a failure says. -/
  Fault : Type
  /-- The name of the unit. -/
  name : String
  /-- What writes the unit, from its start. -/
  body : Writing (Except Fault Unit)

/-- The unit of a call that succeeds: its name and all that was written. -/
def UnitCall.success? (call : UnitCall) : Option (String × String) :=
  match call.body.run TextUnit.empty with
  | (.ok (), u) => some (call.name, u.buffer)
  | (.error _, _) => none

namespace Outline

/-- The outline after a call. -/
def after (outline : Outline) (call : UnitCall) : Outline := (outline.unit call.name call.body).2

/-- The outline after calls one after the other. -/
def afterAll (outline : Outline) (calls : List UnitCall) : Outline := calls.foldl after outline

/-- The units in the order in which they were written: those that stand in the outline, and
those of the calls that succeed. -/
def written (outline : Outline) (calls : List UnitCall) : List (String × String) :=
  outline.units.entries ++ calls.filterMap UnitCall.success?

/-- A call that succeeds records its unit and does nothing else. -/
theorem after_of_success {call : UnitCall} {unit : String × String} (h : call.success? = some unit)
    (outline : Outline) :
    outline.after call = { outline with units := outline.units.insert unit.1 unit.2 } := by
  unfold UnitCall.success? at h
  unfold after Outline.unit
  split at h
  · rename_i u hrun
    rw [hrun, ← Option.some.inj h]
  · cases h

/-- A call that fails does nothing. -/
theorem after_of_failure {call : UnitCall} (h : call.success? = none) (outline : Outline) :
    outline.after call = outline := by
  unfold UnitCall.success? at h
  unfold after Outline.unit
  split at h
  · cases h
  · rename_i hrun
    rw [hrun]

/-- A call returns a failure exactly when it has no success to record. -/
theorem success?_eq_none {call : UnitCall} {outline : Outline} {fault : call.Fault}
    (h : (outline.unit call.name call.body).1 = .error fault) : call.success? = none := by
  unfold Outline.unit at h
  unfold UnitCall.success?
  split at h
  · cases h
  · rename_i hrun
    rw [hrun]

variable (outline : Outline) (calls : List UnitCall)

/-- Calls leave the header of an outline. -/
theorem header_afterAll : (outline.afterAll calls).header = outline.header := by
  unfold afterAll
  induction calls using List.reverseRecOn with
  | nil => rfl
  | append_singleton calls call ih =>
    rw [List.foldl_append, List.foldl_cons, List.foldl_nil]
    cases hs : call.success? with
    | none => rw [after_of_failure hs, ih]
    | some unit => rw [after_of_success hs, ih]

/-- The units are kept from what was written. -/
theorem keeps_afterAll : (outline.afterAll calls).units.Keeps (outline.written calls) := by
  unfold afterAll written
  induction calls using List.reverseRecOn with
  | nil =>
    rw [List.filterMap_nil, List.append_nil]
    exact outline.units.keeps_entries
  | append_singleton calls call ih =>
    rw [List.foldl_append, List.foldl_cons, List.foldl_nil, List.filterMap_append]
    cases hs : call.success? with
    | none =>
      rw [after_of_failure hs, List.filterMap_cons_none hs, List.filterMap_nil, List.append_nil]
      exact ih
    | some unit =>
      rw [after_of_success hs, List.filterMap_cons_some hs, List.filterMap_nil, ← List.append_assoc]
      exact ih.insert unit.1 unit.2

/-- **The units of a history.** After calls one after the other, a further call that fails
leaves the outline as it is. The header is that of the beginning, each name that was written
stands once, in the order of first successes and with its last text, and the whole is the
header block and these texts with a line feed between two of them. -/
theorem afterAll_keeps :
    (∀ (call : UnitCall) (fault : call.Fault),
        ((outline.afterAll calls).unit call.name call.body).1 = .error fault →
        ((outline.afterAll calls).unit call.name call.body).2 = outline.afterAll calls)
      ∧ (outline.afterAll calls).header = outline.header
      ∧ (outline.afterAll calls).units.Keeps (outline.written calls)
      ∧ (outline.afterAll calls).render
        = headerText outline.header ++ "\n".intercalate
          (((outline.written calls).map Prod.fst).eraseDups.filterMap fun name =>
            (outline.written calls).reverse.lookup name) := by
  have hkeeps := keeps_afterAll outline calls
  refine ⟨fun call fault h => ?_, header_afterAll outline calls, hkeeps, ?_⟩
  · exact after_of_failure (success?_eq_none h) _
  · rw [render, header_afterAll, OrderedMap.values_eq, hkeeps.keys_eq]
    rw [funext hkeeps.get?_eq]

/-- A unit written twice and one that fails at its second writing. -/
def rewritten : List UnitCall :=
  [⟨String, "a", WriteStep.performAll [.text "one\n"]⟩,
    ⟨String, "b", WriteStep.performAll [.text "two\n"]⟩,
    ⟨String, "c", WriteStep.performAll [.text "lost", .fail "stop"]⟩,
    ⟨String, "a", WriteStep.performAll [.text "three\n"]⟩]

/-- A failure on a known unit, after text was written. -/
def interrupted : UnitCall := ⟨String, "b", WriteStep.performAll [.text "four\n", .fail "stop"]⟩

/-- A unit that is written again keeps its place and gets its last text, and a call that is
interrupted changes nothing. -/
theorem afterAll_keeps_rewritten :
    ((empty.setHeader "Plan").afterAll rewritten).after interrupted
        = (empty.setHeader "Plan").afterAll rewritten
      ∧ ((empty.setHeader "Plan").afterAll rewritten).units.keys = ["a", "b"]
      ∧ ((empty.setHeader "Plan").afterAll rewritten).units.get? "a" = some "three\n"
      ∧ ((empty.setHeader "Plan").afterAll rewritten).render
        = "// Plan\n\nthree\n\ntwo\n" := by
  obtain ⟨hfail, -, hkeeps, hrender⟩ := afterAll_keeps (empty.setHeader "Plan") rewritten
  exact ⟨hfail interrupted "stop" rfl, hkeeps.keys_eq.trans (by decide),
    (hkeeps.get?_eq "a").trans (by decide), hrender.trans (by decide)⟩

end Outline

end Hydration
