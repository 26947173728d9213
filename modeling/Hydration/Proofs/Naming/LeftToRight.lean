import Hydration.Proofs.Naming.Attempts
import Hydration.Proofs.Naming.Resolution

/-!
# Resolution from left to right

Resolution is one pass over the names in the order of their registration, and the
ready names and the texts taken in each scope can be left out of it. A name takes the
first of its attempts that no enclosing scope forbids and that no earlier name in an
enclosing scope has; if there is none, the pass ends with the candidate of this name.
-/

namespace Hydration.NameRegistry

/-- The display text of a name, given the final texts of the names before it. -/
inductive Displays (before : List String) : NameSource → String → Prop where
  /-- It is given. -/
  | primary (display : String) : Displays before (.primary display) display
  /-- It is computed from the final text of its base. -/
  | derived {base : NameId} {text : String} (h : before[base.index]? = some text)
      (derive : String → String) : Displays before (.derived base derive) (derive text)

/-- A text is left for a name in a scope, given the final texts of the names before it. -/
structure Available (registry : NameRegistry) (before : List String) (scope : ScopeId)
    (text : String) : Prop where
  /-- It is forbidden neither in the scope nor in one around it. -/
  allowed : ∀ (outer : ScopeId) (found : Scope), registry.Encloses outer scope →
    registry.scopes[outer.index]? = some found → text ∉ found.forbidden
  /-- No earlier name in the scope or in one around it has it. -/
  unused : ∀ (index : Nat) (earlier : NameEntry), registry.names[index]? = some earlier →
    registry.Encloses earlier.scope scope → before[index]? ≠ some text

/-- The candidate of a name is its styled display text. -/
def IsCandidate (registry : NameRegistry) (policy : NamingPolicy) (before : List String)
    (entry : NameEntry) (candidate : String) : Prop :=
  ∃ display, Displays before entry.source display
    ∧ candidate = policy.style entry.style display
        (registry.forbiddenIn (registry.chain entry.scope))

/-- A name takes the first of its attempts that is left. -/
def Takes (registry : NameRegistry) (policy : NamingPolicy) (before : List String)
    (entry : NameEntry) (text : String) : Prop :=
  ∃ candidate, registry.IsCandidate policy before entry candidate
    ∧ ∃ index < policy.maxAttempts, text = policy.attempt candidate index
      ∧ registry.Available before entry.scope text
      ∧ ∀ earlier < index,
          ¬registry.Available before entry.scope (policy.attempt candidate earlier)

/-- No attempt of a name is left. -/
def Exhausts (registry : NameRegistry) (policy : NamingPolicy) (before : List String)
    (entry : NameEntry) (candidate : String) : Prop :=
  registry.IsCandidate policy before entry candidate
    ∧ ∀ index < policy.maxAttempts,
        ¬registry.Available before entry.scope (policy.attempt candidate index)

/-- Texts are those of the first names, each taken after the ones before it. -/
def LeftToRight (registry : NameRegistry) (policy : NamingPolicy) (texts : List String) : Prop :=
  ∀ (index : Nat) (text : String), texts[index]? = some text →
    ∃ entry, registry.names[index]? = some entry
      ∧ registry.Takes policy (texts.take index) entry text

variable {registry : NameRegistry} {policy : NamingPolicy} {assigned : List AssignedName}

/-- The forbidden words of a chain are those of the scopes around its scope. -/
theorem mem_forbiddenIn_chain (hw : registry.WellFormed) {scope : ScopeId}
    (hs : registry.HasScope scope) {word : String} :
    word ∈ registry.forbiddenIn (registry.chain scope)
      ↔ ∃ outer found, registry.Encloses outer scope
        ∧ registry.scopes[outer.index]? = some found ∧ word ∈ found.forbidden := by
  rw [forbiddenIn, List.mem_flatMap]
  constructor
  · rintro ⟨outer, hm, hword⟩
    split at hword
    · rename_i found hfound
      exact ⟨outer, found, (mem_chain_iff hw hs).mp hm, hfound, hword⟩
    · cases hword
  · rintro ⟨outer, found, henc, hfound, hword⟩
    refine ⟨outer, (mem_chain_iff hw hs).mpr henc, ?_⟩
    rw [hfound]
    exact hword

/-- A name gets no text when none of its attempts is free. -/
theorem assign_eq_error {name : NameId} {entry : NameEntry} {e : NamingError} :
    registry.assign policy assigned name entry = .error e
      ↔ firstFree policy.disambiguate
            (isFree (registry.forbiddenIn (registry.chain entry.scope))
              (takenIn (registry.chain entry.scope) assigned))
            (policy.style entry.style (displayText assigned entry.source)
              (registry.forbiddenIn (registry.chain entry.scope))) policy.maxAttempts 0 = none
        ∧ e = .unresolvableName
            (policy.style entry.style (displayText assigned entry.source)
              (registry.forbiddenIn (registry.chain entry.scope)))
            (registry.label entry.scope) policy.maxAttempts := by
  unfold assign
  dsimp only
  split
  · rename_i text hfirst
    simp [hfirst]
  · rename_i hfirst
    simp [hfirst, eq_comm]

/-- The texts that follow from left to right are those before the last one, followed by
one that its name takes after them. -/
theorem leftToRight_snoc_iff {texts : List String} {text : String} :
    registry.LeftToRight policy (texts ++ [text])
      ↔ registry.LeftToRight policy texts
        ∧ ∃ entry, registry.names[texts.length]? = some entry
          ∧ registry.Takes policy texts entry text := by
  constructor
  · intro h
    constructor
    · intro index other hother
      have hlt : index < texts.length := (List.getElem?_eq_some_iff.mp hother).1
      obtain ⟨entry, he, htakes⟩ := h index other (by rw [List.getElem?_append_left hlt, hother])
      rw [List.take_append_of_le_length hlt.le] at htakes
      exact ⟨entry, he, htakes⟩
    · have hlast := h texts.length text List.getElem?_concat_length
      rwa [List.take_left] at hlast
  · rintro ⟨h, entry, he, htakes⟩ index other hother
    rcases getElem?_snoc hother with hbefore | ⟨hle, rfl⟩
    · have hlt : index < texts.length := (List.getElem?_eq_some_iff.mp hbefore).1
      rw [List.take_append_of_le_length hlt.le]
      exact h index other hbefore
    · have hlt := (List.getElem?_eq_some_iff.mp hother).1
      rw [List.length_append, List.length_singleton] at hlt
      obtain rfl : index = texts.length := by omega
      rw [List.take_left]
      exact ⟨entry, he, htakes⟩

section Greedy

variable (hw : registry.WellFormed) (hg : registry.Greedy policy assigned)
include hw hg

/-- A text is free among the assigned names exactly when it is left. -/
theorem Greedy.free_iff {scope : ScopeId} (hs : registry.HasScope scope) {text : String} :
    isFree (registry.forbiddenIn (registry.chain scope))
        (takenIn (registry.chain scope) assigned) text = true
      ↔ registry.Available (assigned.map AssignedName.text) scope text := by
  rw [isFree_iff, mem_takenIn, mem_forbiddenIn_chain hw hs]
  constructor
  · rintro ⟨htaken, hforbidden⟩
    refine ⟨fun outer found henc hfound hm => hforbidden ⟨outer, found, henc, hfound, hm⟩,
      fun index earlier he henc htext => htaken ?_⟩
    rw [List.getElem?_map, Option.map_eq_some_iff] at htext
    obtain ⟨other, hother, rfl⟩ := htext
    obtain ⟨entry, hentry, -, hscope, -⟩ := hg.at hother
    cases he.symm.trans hentry
    exact ⟨other, List.mem_of_getElem? hother,
      (mem_chain_iff hw hs).mpr (hscope ▸ henc), rfl⟩
  · rintro ⟨hallowed, hunused⟩
    constructor
    · rintro ⟨other, hm, hchain, rfl⟩
      obtain ⟨index, hother⟩ := List.getElem?_of_mem hm
      obtain ⟨entry, hentry, -, hscope, -⟩ := hg.at hother
      refine hunused index entry hentry (hscope ▸ (mem_chain_iff hw hs).mp hchain) ?_
      rw [List.getElem?_map, hother, Option.map_some]
    · rintro ⟨outer, found, henc, hfound, hword⟩
      exact hallowed outer found henc hfound hword

/-- The display text of the next name is computed from the final texts before it, that of its base
among them. -/
theorem Greedy.displays_iff {entry : NameEntry} (he : registry.names[assigned.length]? = some entry)
    {display : String} :
    Displays (assigned.map AssignedName.text) entry.source display
      ↔ displayText assigned entry.source = display := by
  cases hsource : entry.source with
  | primary given =>
    constructor
    · rintro ⟨⟩
      rfl
    · rintro rfl
      exact .primary given
  | derived base derive =>
    have hlt := hw.bases assigned.length entry base derive he hsource
    have hbase := List.getElem?_eq_getElem hlt
    have htext : textOf assigned base = assigned[base.index].text := hg.textOf_eq hbase
    have hfinal : (assigned.map AssignedName.text)[base.index]?
        = some (assigned[base.index].text) := by
      rw [List.getElem?_map, hbase, Option.map_some]
    constructor
    · rintro ⟨⟩
      rename_i text h
      cases hfinal.symm.trans h
      rw [displayText, htext]
    · rintro rfl
      rw [displayText, htext]
      exact .derived hfinal derive

/-- The candidate of the next name. -/
theorem Greedy.isCandidate_iff {entry : NameEntry}
    (he : registry.names[assigned.length]? = some entry) {candidate : String} :
    registry.IsCandidate policy (assigned.map AssignedName.text) entry candidate
      ↔ candidate = policy.style entry.style (displayText assigned entry.source)
          (registry.forbiddenIn (registry.chain entry.scope)) := by
  constructor
  · rintro ⟨display, hdisplay, rfl⟩
    rw [(hg.displays_iff hw he).mp hdisplay]
  · rintro rfl
    exact ⟨_, (hg.displays_iff hw he).mpr rfl, rfl⟩

/-- The next name takes the text that is picked. -/
theorem Greedy.takes_iff {entry : NameEntry} (he : registry.names[assigned.length]? = some entry)
    {text : String} :
    registry.Takes policy (assigned.map AssignedName.text) entry text
      ↔ policy.Picks (registry.forbiddenIn (registry.chain entry.scope))
          (takenIn (registry.chain entry.scope) assigned) entry.style
          (displayText assigned entry.source) text := by
  have hs := hw.scopes assigned.length entry he
  rw [NamingPolicy.Picks, firstFree_eq_some_iff]
  simp only [← Bool.not_eq_true, hg.free_iff hw hs]
  constructor
  · rintro ⟨candidate, hcandidate, htakes⟩
    rw [(hg.isCandidate_iff hw he).mp hcandidate] at htakes
    exact htakes
  · intro htakes
    exact ⟨_, (hg.isCandidate_iff hw he).mpr rfl, htakes⟩

/-- The next name gets no text when its attempts are exhausted. -/
theorem Greedy.assign_eq_error_iff {entry : NameEntry}
    (he : registry.names[assigned.length]? = some entry) {e : NamingError} :
    registry.assign policy assigned ⟨assigned.length⟩ entry = .error e
      ↔ ∃ candidate, registry.Exhausts policy (assigned.map AssignedName.text) entry candidate
        ∧ e = .unresolvableName candidate (registry.label entry.scope) policy.maxAttempts := by
  have hs := hw.scopes assigned.length entry he
  rw [assign_eq_error, firstFree_eq_none_iff]
  simp only [← Bool.not_eq_true, hg.free_iff hw hs]
  constructor
  · rintro ⟨hall, rfl⟩
    exact ⟨_, ⟨(hg.isCandidate_iff hw he).mpr rfl, hall⟩, rfl⟩
  · rintro ⟨candidate, ⟨hcandidate, hall⟩, rfl⟩
    cases (hg.isCandidate_iff hw he).mp hcandidate
    exact ⟨hall, rfl⟩

end Greedy

/-- Names are assigned one after the other exactly when their texts follow from left to
right. -/
theorem exists_greedy_iff (hw : registry.WellFormed) {texts : List String} :
    (∃ assigned, registry.Greedy policy assigned ∧ assigned.map AssignedName.text = texts)
      ↔ registry.LeftToRight policy texts := by
  constructor
  · rintro ⟨assigned, hg, rfl⟩
    induction hg with
    | nil =>
      intro index text h
      cases h
    | @snoc assigned entry text hg he hp ih =>
      rw [List.map_append, List.map_singleton, leftToRight_snoc_iff, List.length_map]
      exact ⟨ih, entry, he, (hg.takes_iff hw he).mpr hp⟩
  · intro h
    induction texts using List.reverseRecOn with
    | nil => exact ⟨[], .nil, rfl⟩
    | append_singleton texts text ih =>
      obtain ⟨hbefore, entry, he, htakes⟩ := leftToRight_snoc_iff.mp h
      obtain ⟨assigned, hg, rfl⟩ := ih hbefore
      rw [List.length_map] at he
      refine ⟨_, hg.snoc he ((hg.takes_iff hw he).mp htakes), ?_⟩
      rw [List.map_append, List.map_singleton]

/-- Assigning the names from one on begins with this one. -/
theorem assignAll_from {start : Nat} {entry : NameEntry} (he : registry.names[start]? = some entry)
    (assigned : List AssignedName) :
    registry.assignAll policy
        ((List.range' start (registry.size - start)).map NameId.mk) assigned
      = (registry.assign policy assigned ⟨start⟩ entry >>= fun next =>
          registry.assignAll policy
            ((List.range' (start + 1) (registry.size - (start + 1))).map NameId.mk)
            (assigned ++ [next])) := by
  have hlt : start < registry.size := (List.getElem?_eq_some_iff.mp he).1
  have hsize : registry.size - start = registry.size - (start + 1) + 1 := by omega
  rw [hsize, List.range'_succ, List.map_cons, assignAll]
  dsimp only
  rw [he]

/-- Assigning all names comes to assigning those after the first ones. -/
theorem Greedy.assignAll_eq (hg : registry.Greedy policy assigned) :
    registry.assignAll policy ((List.range' 0 registry.size).map NameId.mk) []
      = registry.assignAll policy
          ((List.range' assigned.length (registry.size - assigned.length)).map NameId.mk)
          assigned := by
  induction hg with
  | nil => rfl
  | @snoc assigned entry text hg he hp ih =>
    rw [ih, assignAll_from he, assign_eq_ok.mpr ⟨text, hp, rfl⟩, List.length_append,
      List.length_singleton]
    rfl

/-- If names are not assigned, one of them gets no text after those before it. -/
theorem Greedy.exists_failed (hg : registry.Greedy policy assigned) {e : NamingError}
    (h : registry.assignAll policy
        ((List.range' assigned.length (registry.size - assigned.length)).map NameId.mk) assigned
      = .error e) :
    ∃ before entry, registry.Greedy policy before ∧ registry.names[before.length]? = some entry
      ∧ registry.assign policy before ⟨before.length⟩ entry = .error e := by
  -- The induction is on the number of names that are left.
  generalize hleft : registry.size - assigned.length = left
  induction left generalizing assigned with
  | zero =>
    rw [hleft] at h
    cases h
  | succ left ih =>
    have hlt : assigned.length < registry.names.length := by
      rw [size] at hleft
      omega
    have he := List.getElem?_eq_getElem hlt
    rw [assignAll_from he] at h
    rcases bind_eq_error.mp h with hfailed | ⟨next, hnext, hrest⟩
    · exact ⟨assigned, _, hg, he, hfailed⟩
    · obtain ⟨text, hp, rfl⟩ := assign_eq_ok.mp hnext
      refine ih (hg.snoc he hp) ?_ ?_
      · rw [List.length_append, List.length_singleton]
        exact hrest
      · rw [List.length_append, List.length_singleton]
        omega

/-- A resolution succeeds with the texts of all names. -/
theorem resolve_eq_ok_iff (hw : registry.WellFormed) {texts : List String} :
    registry.resolve policy = .ok texts
      ↔ ∃ assigned, registry.Resolved policy assigned ∧ assigned.map AssignedName.text = texts := by
  constructor
  · intro h
    obtain ⟨assigned, -, hr, htexts⟩ := resolved_of_resolve hw h
    exact ⟨assigned, hr, htexts⟩
  · rintro ⟨assigned, hr, rfl⟩
    have hall := hr.greedy.assignAll_eq
    rw [hr.length, Nat.sub_self, List.range'_zero, List.map_nil, assignAll] at hall
    rw [resolve, resolutionOrder_eq hw.bases, List.range_eq_range', hall]
    refine congrArg Except.ok (List.ext_getElem (by simp [hr.length]) fun index _ hi => ?_)
    rw [List.length_map] at hi
    rw [List.getElem_map, List.getElem_map, List.getElem_range',
      Nat.zero_add, Nat.one_mul, hr.greedy.textOf_eq (List.getElem?_eq_getElem hi)]

/-- A resolution fails with the first name that gets no text. -/
theorem resolve_eq_error_iff (hw : registry.WellFormed) {e : NamingError} :
    registry.resolve policy = .error e
      ↔ ∃ before entry, registry.Greedy policy before
        ∧ registry.names[before.length]? = some entry
        ∧ registry.assign policy before ⟨before.length⟩ entry = .error e := by
  rw [resolve, bind_pure_eq_error, resolutionOrder_eq hw.bases, List.range_eq_range']
  constructor
  · exact Greedy.nil.exists_failed
  · rintro ⟨before, entry, hg, he, hfailed⟩
    rw [hg.assignAll_eq, assignAll_from he]
    exact bind_eq_error.mpr (Or.inl hfailed)

/-- Resolution is the pass from left to right: it gives the texts that all names take one
after the other, and it fails at the first name whose attempts are exhausted, with its
candidate and the label of its scope. -/
theorem resolve_leftToRight (hb : registry.Built) (policy : NamingPolicy) :
    (∀ texts, registry.resolve policy = .ok texts
      ↔ texts.length = registry.size ∧ registry.LeftToRight policy texts)
    ∧ ∀ e, registry.resolve policy = .error e
      ↔ ∃ before entry scope candidate, registry.LeftToRight policy before
        ∧ registry.names[before.length]? = some entry
        ∧ registry.scopes[entry.scope.index]? = some scope
        ∧ registry.Exhausts policy before entry candidate
        ∧ e = .unresolvableName candidate scope.label policy.maxAttempts := by
  have hw := hb.wellFormed
  constructor
  · intro texts
    rw [resolve_eq_ok_iff hw, ← exists_greedy_iff hw]
    constructor
    · rintro ⟨assigned, hr, rfl⟩
      exact ⟨(List.length_map _).trans hr.length, assigned, hr.greedy, rfl⟩
    · rintro ⟨hlength, assigned, hg, rfl⟩
      exact ⟨assigned, ⟨hg, (List.length_map _).symm.trans hlength⟩, rfl⟩
  · intro e
    rw [resolve_eq_error_iff hw]
    constructor
    · rintro ⟨assigned, entry, hg, he, hfailed⟩
      obtain ⟨candidate, hexhausts, rfl⟩ := (hg.assign_eq_error_iff hw he).mp hfailed
      have hscope := List.getElem?_eq_getElem (hw.scopes assigned.length entry he)
      refine ⟨_, entry, _, candidate, (exists_greedy_iff hw).mp ⟨assigned, hg, rfl⟩,
        by rw [List.length_map, he], hscope, hexhausts, ?_⟩
      rw [label, hscope]
    · rintro ⟨before, entry, scope, candidate, hleft, he, hscope, hexhausts, rfl⟩
      obtain ⟨assigned, hg, rfl⟩ := (exists_greedy_iff hw).mpr hleft
      rw [List.length_map] at he
      refine ⟨assigned, entry, hg, he,
        (hg.assign_eq_error_iff hw he).mpr ⟨candidate, hexhausts, ?_⟩⟩
      rw [label, hscope]

/-- No styling, and two texts for each name. -/
def twoAttempts : NamingPolicy := { NamingPolicy.verbatim with maxAttempts := 2 }

/-- The pass over a nested registry, with enough attempts and with too few of them for its
property. -/
theorem resolve_leftToRight_nested :
    nestedRegistry.Built
      ∧ nestedRegistry.LeftToRight .verbatim ["id", "id3", "get_id3", "get_id"]
      ∧ nestedRegistry.resolve twoAttempts = .error (.unresolvableName "id" "Inner" 2)
      ∧ ∃ before entry candidate, nestedRegistry.LeftToRight twoAttempts before
        ∧ nestedRegistry.names[before.length]? = some entry
        ∧ nestedRegistry.Exhausts twoAttempts before entry candidate := by
  have hresolve : nestedRegistry.resolve .verbatim = .ok ["id", "id3", "get_id3", "get_id"] := by
    decide +kernel
  have hfails : nestedRegistry.resolve twoAttempts = .error (.unresolvableName "id" "Inner" 2) := by
    decide +kernel
  have htexts := (resolve_leftToRight nestedRegistry_built .verbatim).1 _ |>.mp hresolve
  obtain ⟨before, entry, -, candidate, hleft, he, -, hexhausts, -⟩ :=
    (resolve_leftToRight nestedRegistry_built twoAttempts).2 _ |>.mp hfails
  exact ⟨nestedRegistry_built, htexts.2, hfails, before, entry, candidate, hleft, he, hexhausts⟩

end Hydration.NameRegistry
