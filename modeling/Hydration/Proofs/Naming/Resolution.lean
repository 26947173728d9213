import Hydration.Proofs.Naming.Order
import Hydration.Proofs.Naming.Picked
import Hydration.Proofs.Structure

/-!
# Resolution

Names are resolved one after the other in the order of their registration,
each with the first free text among its candidate and the alternatives. What
is free is decided by the names before, in the scopes around the name, and by
the words forbidden there; so the texts that a successful resolution gives are
free of collisions, whatever the styling, the derivations and the alternatives
are.
-/

namespace Hydration.NameRegistry

/-- The first names of a registry have their texts, each picked among the names
before it. -/
inductive Greedy (registry : NameRegistry) (policy : NamingPolicy) : List AssignedName → Prop where
  /-- No name has a text. -/
  | nil : Greedy registry policy []
  /-- The next name gets the text that is picked. -/
  | snoc {assigned : List AssignedName} {entry : NameEntry} {text : String}
      (h : Greedy registry policy assigned)
      (he : registry.names[assigned.length]? = some entry)
      (hp : policy.Picks (registry.forbiddenIn (registry.chain entry.scope))
        (takenIn (registry.chain entry.scope) assigned) entry.style
        (displayText assigned entry.source) text) :
      Greedy registry policy (assigned ++ [⟨⟨assigned.length⟩, entry.scope, text⟩])

/-- A name gets its text when one is picked. -/
theorem assign_eq_ok {registry : NameRegistry} {policy : NamingPolicy}
    {assigned : List AssignedName} {name : NameId} {entry : NameEntry} {next : AssignedName} :
    registry.assign policy assigned name entry = .ok next
      ↔ ∃ text, policy.Picks (registry.forbiddenIn (registry.chain entry.scope))
          (takenIn (registry.chain entry.scope) assigned) entry.style
          (displayText assigned entry.source) text
        ∧ next = ⟨name, entry.scope, text⟩ := by
  unfold assign
  dsimp only
  constructor
  · intro h
    split at h
    · rename_i text hfirst
      cases h
      exact ⟨text, hfirst, rfl⟩
    · cases h
  · rintro ⟨text, hp, rfl⟩
    rw [hp]

/-- All names of a registry have their texts. -/
structure Resolved (registry : NameRegistry) (policy : NamingPolicy)
    (assigned : List AssignedName) : Prop where
  /-- Each text was picked among the names before it. -/
  greedy : registry.Greedy policy assigned
  /-- No name is left out. -/
  length : assigned.length = registry.size

/-- After the next names in the order of registration, these have their texts
too. -/
theorem Greedy.assignAll {registry : NameRegistry} {policy : NamingPolicy}
    {assigned all : List AssignedName} {count : Nat} (hg : registry.Greedy policy assigned)
    (hle : assigned.length + count ≤ registry.size)
    (h : registry.assignAll policy ((List.range' assigned.length count).map NameId.mk) assigned
      = .ok all) :
    registry.Greedy policy all ∧ all.length = assigned.length + count := by
  induction count generalizing assigned with
  | zero =>
    cases h
    exact ⟨hg, rfl⟩
  | succ count ih =>
    have hlt : assigned.length < registry.names.length := by
      rw [size] at hle
      omega
    have he := List.getElem?_eq_getElem hlt
    rw [List.range'_succ, List.map_cons, NameRegistry.assignAll] at h
    dsimp only at h
    rw [he] at h
    obtain ⟨next, hnext, h⟩ := bind_eq_ok.mp h
    have hlength : (assigned ++ [next]).length = assigned.length + 1 := List.length_append
    obtain ⟨text, hp, rfl⟩ := assign_eq_ok.mp hnext
    rw [← hlength] at h
    obtain ⟨hall, hcount⟩ := ih (hg.snoc he hp) (by omega) h
    exact ⟨hall, by omega⟩

/-- The name at a position has its text from the names before it. -/
theorem Greedy.at {registry : NameRegistry} {policy : NamingPolicy} {assigned : List AssignedName}
    (hg : registry.Greedy policy assigned) {index : Nat} {next : AssignedName}
    (h : assigned[index]? = some next) :
    ∃ entry, registry.names[index]? = some entry ∧ next.name = ⟨index⟩
      ∧ next.scope = entry.scope
      ∧ policy.Picks (registry.forbiddenIn (registry.chain entry.scope))
          (takenIn (registry.chain entry.scope) (assigned.take index)) entry.style
          (displayText (assigned.take index) entry.source) next.text := by
  induction hg with
  | nil => cases h
  | @snoc assigned entry text hg he hp ih =>
    rcases getElem?_snoc h with h' | ⟨hle, rfl⟩
    · have hlt : index < assigned.length := (List.getElem?_eq_some_iff.mp h').1
      rw [List.take_append_of_le_length (by omega)]
      exact ih h'
    · have hlt := (List.getElem?_eq_some_iff.mp h).1
      rw [List.length_append, List.length_singleton] at hlt
      obtain rfl : index = assigned.length := by omega
      rw [List.take_left]
      exact ⟨entry, he, rfl, rfl, hp⟩

/-- A name is found at its position, if it is among the resolved ones. -/
theorem Greedy.find?_eq {registry : NameRegistry} {policy : NamingPolicy}
    {assigned : List AssignedName} (hg : registry.Greedy policy assigned) (index : Nat) :
    assigned.find? (fun other => other.name == ⟨index⟩) = assigned[index]? := by
  induction hg with
  | nil => rfl
  | @snoc assigned entry text hg he hp ih =>
    rw [List.find?_append, ih]
    rcases Nat.lt_trichotomy index assigned.length with hlt | rfl | hlt
    · rw [List.getElem?_append_left hlt, List.getElem?_eq_getElem hlt, Option.some_or]
    · rw [List.getElem?_concat_length, List.getElem?_eq_none (Nat.le_refl _), Option.none_or]
      exact List.find?_cons_of_pos (beq_self_eq_true _)
    · have hne : (⟨assigned.length⟩ : NameId) ≠ ⟨index⟩ := fun heq =>
        Nat.ne_of_lt hlt (NameId.mk.inj heq)
      rw [List.getElem?_eq_none (Nat.le_of_lt hlt), Option.none_or,
        List.getElem?_eq_none (by rw [List.length_append]; exact hlt)]
      exact List.find?_cons_of_neg (mt beq_iff_eq.mp hne)

/-- The text of a name is the one at its position. -/
theorem Greedy.textOf_eq {registry : NameRegistry} {policy : NamingPolicy}
    {assigned : List AssignedName} (hg : registry.Greedy policy assigned) {index : Nat}
    {next : AssignedName} (h : assigned[index]? = some next) :
    textOf assigned ⟨index⟩ = next.text := by
  rw [textOf, hg.find?_eq, h]

/-- A name beyond the resolved ones has no text. -/
theorem Greedy.textOf_of_length_le {registry : NameRegistry} {policy : NamingPolicy}
    {assigned : List AssignedName} (hg : registry.Greedy policy assigned) {index : Nat}
    (h : assigned.length ≤ index) : textOf assigned ⟨index⟩ = "" := by
  rw [textOf, hg.find?_eq, List.getElem?_eq_none h]

/-- A pass that succeeds gives every name its text. -/
theorem resolved_of_assignAll {registry : NameRegistry} {policy : NamingPolicy}
    {assigned : List AssignedName} (hb : registry.BasesFirst)
    (h : registry.assignAll policy registry.resolutionOrder [] = .ok assigned) :
    registry.Resolved policy assigned := by
  rw [resolutionOrder_eq hb, List.range_eq_range'] at h
  obtain ⟨hg, hlength⟩ := Greedy.nil.assignAll (Nat.le_of_eq (Nat.zero_add _)) h
  exact ⟨hg, hlength.trans (Nat.zero_add _)⟩

/-- A resolution that succeeds gives every name its text, in the order of
registration. -/
theorem resolved_of_resolve {registry : NameRegistry} {policy : NamingPolicy} {texts : List String}
    (hw : registry.WellFormed) (h : registry.resolve policy = .ok texts) :
    ∃ assigned, registry.assignAll policy registry.resolutionOrder [] = .ok assigned
      ∧ registry.Resolved policy assigned ∧ assigned.map AssignedName.text = texts := by
  obtain ⟨assigned, hassigned, h⟩ := bind_eq_ok.mp h
  have hr := resolved_of_assignAll hw.bases hassigned
  refine ⟨assigned, hassigned, hr, ?_⟩
  cases h
  refine List.ext_getElem (by simp [hr.length]) fun index hi _ => ?_
  rw [List.length_map] at hi
  rw [List.getElem_map, List.getElem_map, List.getElem_range,
    hr.greedy.textOf_eq (List.getElem?_eq_getElem hi)]

/-- No text collides with another one or with a forbidden word. -/
structure CollisionFree (registry : NameRegistry) (texts : List String) : Prop where
  /-- The names of a scope have different texts. -/
  distinct : ∀ (i j : Nat) (first second : NameEntry) (text : String),
    registry.names[i]? = some first → registry.names[j]? = some second →
    first.scope = second.scope → texts[i]? = some text → texts[j]? = some text → i = j
  /-- No text is forbidden in its scope or in one around it. -/
  allowed : ∀ (i : Nat) (entry : NameEntry) (outer : ScopeId) (scope : Scope) (text : String),
    registry.names[i]? = some entry → registry.Encloses outer entry.scope →
    registry.scopes[outer.index]? = some scope → texts[i]? = some text → text ∉ scope.forbidden
  /-- No text is that of a name registered earlier in a scope around. -/
  unshadowed : ∀ (i j : Nat) (inner earlier : NameEntry) (text : String),
    registry.names[i]? = some inner → registry.names[j]? = some earlier → j < i →
    registry.Encloses earlier.scope inner.scope → texts[i]? = some text → texts[j]? ≠ some text

/-- A name does not take the text of an earlier one in a scope around it, since it was compared with
that one. -/
theorem Greedy.unshadowed {registry : NameRegistry} {policy : NamingPolicy}
    {assigned : List AssignedName} (hw : registry.WellFormed)
    (hg : registry.Greedy policy assigned) {i j : Nat} {inner earlier : NameEntry} {text : String}
    (hi : registry.names[i]? = some inner) (hj : registry.names[j]? = some earlier) (hlt : j < i)
    (henc : registry.Encloses earlier.scope inner.scope)
    (hti : (assigned.map AssignedName.text)[i]? = some text) :
    (assigned.map AssignedName.text)[j]? ≠ some text := by
  intro htj
  rw [List.getElem?_map, Option.map_eq_some_iff] at hti htj
  obtain ⟨next, hnext, rfl⟩ := hti
  obtain ⟨before, hbefore, heq⟩ := htj
  obtain ⟨entry, he, -, -, hp⟩ := hg.at hnext
  obtain ⟨entry', he', -, hscope, -⟩ := hg.at hbefore
  cases hi.symm.trans he
  cases hj.symm.trans he'
  have hmem : before ∈ assigned.take i :=
    List.mem_of_getElem? ((List.getElem?_take_of_lt hlt).trans hbefore)
  have hchain : earlier.scope ∈ registry.chain inner.scope :=
    (mem_chain_iff hw (hw.scopes i inner hi)).mpr henc
  rw [← hscope] at hchain
  exact hp.not_taken (mem_takenIn.mpr ⟨before, hmem, hchain, heq⟩)

/-- A name takes no word that is forbidden in a scope around it. -/
theorem Greedy.allowed {registry : NameRegistry} {policy : NamingPolicy}
    {assigned : List AssignedName} (hw : registry.WellFormed)
    (hg : registry.Greedy policy assigned) {i : Nat} {entry : NameEntry} {outer : ScopeId}
    {scope : Scope} {text : String} (hi : registry.names[i]? = some entry)
    (henc : registry.Encloses outer entry.scope)
    (hs : registry.scopes[outer.index]? = some scope)
    (hti : (assigned.map AssignedName.text)[i]? = some text) : text ∉ scope.forbidden := by
  rw [List.getElem?_map, Option.map_eq_some_iff] at hti
  obtain ⟨next, hnext, rfl⟩ := hti
  obtain ⟨entry', he, -, -, hp⟩ := hg.at hnext
  cases hi.symm.trans he
  intro hm
  have hchain : outer ∈ registry.chain entry.scope :=
    (mem_chain_iff hw (hw.scopes i entry hi)).mpr henc
  refine hp.not_forbidden (List.mem_flatMap.mpr ⟨outer, hchain, ?_⟩)
  rw [hs]
  exact hm

/-- The texts of names are free of collisions. -/
theorem Greedy.collisionFree {registry : NameRegistry} {policy : NamingPolicy}
    {assigned : List AssignedName} (hw : registry.WellFormed)
    (hg : registry.Greedy policy assigned) :
    registry.CollisionFree (assigned.map AssignedName.text) where
  distinct i j first second text hi hj hs hti htj := by
    rcases Nat.lt_trichotomy i j with hlt | heq | hlt
    · have henc : registry.Encloses first.scope second.scope := hs ▸ .self
      exact absurd hti (hg.unshadowed hw hj hi hlt henc htj)
    · exact heq
    · have henc : registry.Encloses second.scope first.scope := hs ▸ .self
      exact absurd htj (hg.unshadowed hw hi hj hlt henc hti)
  allowed _ _ _ _ _ hi henc hs hti := hg.allowed hw hi henc hs hti
  unshadowed _ _ _ _ _ hi hj hlt henc hti := hg.unshadowed hw hi hj hlt henc hti

/-- Resolution that succeeds visits every name once and gives texts that are free
of collisions. -/
theorem resolve_collisionFree {registry : NameRegistry} {policy : NamingPolicy}
    {texts : List String} (hb : registry.Built) (h : registry.resolve policy = .ok texts) :
    (∃ assigned, registry.assignAll policy registry.resolutionOrder [] = .ok assigned
      ∧ assigned.map AssignedName.name = (List.range registry.size).map NameId.mk
      ∧ assigned.map AssignedName.text = texts)
    ∧ registry.CollisionFree texts := by
  have hw := hb.wellFormed
  obtain ⟨assigned, hassigned, hr, htexts⟩ := resolved_of_resolve hw h
  refine ⟨⟨assigned, hassigned, ?_, htexts⟩, htexts ▸ hr.greedy.collisionFree hw⟩
  refine List.ext_getElem (by simp [hr.length]) fun index hi _ => ?_
  rw [List.length_map] at hi
  obtain ⟨-, -, hname, -⟩ := hr.greedy.at (List.getElem?_eq_getElem hi)
  rw [List.getElem_map, List.getElem_map, List.getElem_range, hname]

/-- A registry with a scope inside another; the first word for its property is
taken globally and the second one is forbidden in the outer scope. -/
def nestedRegistry : NameRegistry :=
  let registry := empty.forbid global ["self"]
  let (item, registry) := registry.registerPrimary global .type "id"
  let (outer, registry) := registry.addScope global "Outer" ["id2"]
  let (inner, registry) := registry.addScope outer "Inner" []
  let (property, registry) := registry.registerPrimary inner .property "id"
  let (_, registry) := registry.registerDerived property .function fun name => "get_" ++ name
  (registry.registerDerivedIn outer item .function fun name => "get_" ++ name).2

/-- The registry is built in scopes that it returned before. -/
theorem nestedRegistry_built : nestedRegistry.Built := by
  refine .registerDerivedIn ?_ (by decide) (by decide) _ _
  refine .registerDerived ?_ (by decide) _ _
  refine .registerPrimary ?_ (by decide) _ _
  refine .addScope ?_ (by decide) _ _
  refine .addScope ?_ (by decide) _ _
  refine .registerPrimary ?_ (by decide) _ _
  exact .forbid .empty (by decide) _

/-- Resolution of a nested registry. -/
theorem resolve_collisionFree_nested :
    nestedRegistry.Built
      ∧ nestedRegistry.resolve .verbatim = .ok ["id", "id3", "get_id3", "get_id"]
      ∧ nestedRegistry.CollisionFree ["id", "id3", "get_id3", "get_id"] := by
  have hresolve : nestedRegistry.resolve .verbatim = .ok ["id", "id3", "get_id3", "get_id"] := by
    decide +kernel
  exact ⟨nestedRegistry_built, hresolve, (resolve_collisionFree nestedRegistry_built hresolve).2⟩

end Hydration.NameRegistry
