import Hydration.Proofs.Naming.Resolution

/-!
# Stages of a registry

A registry that grew out of another one has its scopes and names first, and a
resolution of the larger one has, up to the size of the smaller one, the texts
of its names. A registration is therefore a step of the resolution: the new
name gets the text that is picked among those of the stage before, and the
texts of its scopes grow by this one.
-/

namespace Hydration.NameRegistry

/-- What stands in a prefix stands in the list. -/
theorem getElem?_of_initial {α : Type} {short long : List α} (h : short <+: long) {index : Nat}
    {found : α} (hi : short[index]? = some found) : long[index]? = some found := by
  obtain ⟨hlt, rfl⟩ := List.getElem?_eq_some_iff.mp hi
  exact List.prefix_iff_getElem?.mp h index hlt

/-- A registry grew into another one by new scopes and names. -/
structure Extends (registry later : NameRegistry) : Prop where
  /-- The scopes stay. -/
  scopes : registry.scopes <+: later.scopes
  /-- The names stay. -/
  names : registry.names <+: later.names

theorem Extends.refl (registry : NameRegistry) : registry.Extends registry :=
  ⟨List.prefix_refl _, List.prefix_refl _⟩

theorem Extends.trans {first second third : NameRegistry} (h : first.Extends second)
    (h' : second.Extends third) : first.Extends third :=
  ⟨h.scopes.trans h'.scopes, h.names.trans h'.names⟩

/-- A new name extends a registry. -/
theorem extends_register (registry : NameRegistry) (entry : NameEntry) :
    registry.Extends (registry.register entry).2 :=
  ⟨List.prefix_refl _, List.prefix_append _ _⟩

/-- A new scope extends a registry. -/
theorem extends_addScope (registry : NameRegistry) (parent : ScopeId) (label : String)
    (forbidden : List String) : registry.Extends (registry.addScope parent label forbidden).2 :=
  ⟨List.prefix_append _ _, List.prefix_refl _⟩

/-- A registry grew into a well-formed one. -/
structure Grows (registry later : NameRegistry) : Prop extends Extends registry later where
  /-- Scopes and names refer to earlier ones. -/
  wellFormed : later.WellFormed

theorem WellFormed.grows {registry : NameRegistry} (h : registry.WellFormed) :
    registry.Grows registry :=
  ⟨.refl registry, h⟩

theorem Grows.trans {first second third : NameRegistry} (h : first.Grows second)
    (h' : second.Grows third) : first.Grows third :=
  ⟨h.toExtends.trans h'.toExtends, h'.wellFormed⟩

theorem hasScope_addScope (registry : NameRegistry) (parent : ScopeId) (label : String)
    (forbidden : List String) : (registry.addScope parent label forbidden).2.HasScope
      (registry.addScope parent label forbidden).1 := by
  simp only [HasScope, addScope, List.length_append, List.length_singleton]
  omega

/-- A new scope is not the global one. -/
theorem WellFormed.addScope_ne_global {registry : NameRegistry} (h : registry.WellFormed)
    (parent : ScopeId) (label : String) (forbidden : List String) :
    (registry.addScope parent label forbidden).1 ∉ [global] := by
  intro hm
  have hzero : registry.scopes.length = 0 :=
    congrArg ScopeId.index (List.mem_singleton.mp hm)
  have hpos : 0 < registry.scopes.length := h.globalScope
  omega

/-- The registry has a name in a scope. -/
def HasNameIn (registry : NameRegistry) (scope : ScopeId) (name : NameId) : Prop :=
  ∃ entry, registry.names[name.index]? = some entry ∧ entry.scope = scope

theorem HasNameIn.hasName {registry : NameRegistry} {scope : ScopeId} {name : NameId}
    (h : registry.HasNameIn scope name) : registry.HasName name := by
  obtain ⟨entry, he, -⟩ := h
  exact (List.getElem?_eq_some_iff.mp he).1

/-- The scope of a name is the one that it is in. -/
theorem HasNameIn.scopeOf_eq {registry : NameRegistry} {scope : ScopeId} {name : NameId}
    (h : registry.HasNameIn scope name) : registry.scopeOf name = scope := by
  obtain ⟨entry, he, rfl⟩ := h
  rw [scopeOf, he]

/-- A name that derives from another is registered in the scope of its base. -/
theorem HasNameIn.registerDerived_eq {registry : NameRegistry} {scope : ScopeId} {base : NameId}
    (h : registry.HasNameIn scope base) (style : NameStyle) (derive : String → String) :
    registry.registerDerived base style derive
      = registry.register ⟨scope, style, .derived base derive⟩ := by
  rw [registerDerived, h.scopeOf_eq]
  rfl

/-- A registry grows by a scope. -/
theorem WellFormed.grows_addScope {registry : NameRegistry} (h : registry.WellFormed)
    {parent : ScopeId} (hp : registry.HasScope parent) (label : String)
    (forbidden : List String) : registry.Grows (registry.addScope parent label forbidden).2 :=
  ⟨extends_addScope _ _ _ _, h.addScope hp label forbidden⟩

/-- Names stay in a registry that grows. -/
theorem HasNameIn.mono {registry later : NameRegistry} {scope : ScopeId} {name : NameId}
    (h : registry.HasNameIn scope name) (hl : registry.Extends later) :
    later.HasNameIn scope name := by
  obtain ⟨entry, he, hs⟩ := h
  exact ⟨entry, getElem?_of_initial hl.names he, hs⟩

/-- A new name is in the scope of its entry. -/
theorem hasNameIn_register (registry : NameRegistry) (entry : NameEntry) :
    (registry.register entry).2.HasNameIn entry.scope (registry.register entry).1 :=
  ⟨entry, List.getElem?_concat_length .., rfl⟩

/-- A name as it is registered. -/
structure Registered where
  /-- The style of the name. -/
  style : NameStyle
  /-- The display text, given the texts of other names. -/
  display : (NameId → String) → String
  /-- The name. -/
  name : NameId

/-- A registered name as it is picked. -/
def Registered.picked (text : NameId → String) (registered : Registered) : PickedName :=
  ⟨registered.style, registered.display text, text registered.name⟩

/-- A registry grew into another one by names of one scope. -/
inductive Registers (scope : ScopeId) : NameRegistry → NameRegistry → List Registered → Prop where
  /-- There are no new names. -/
  | refl (registry : NameRegistry) : Registers scope registry registry []
  /-- A primary name comes first. -/
  | primary {registry later : NameRegistry} {rest : List Registered} (style : NameStyle)
      (display : String)
      (h : Registers scope (registry.registerPrimary scope style display).2 later rest) :
      Registers scope registry later
        (⟨style, fun _ => display, (registry.registerPrimary scope style display).1⟩ :: rest)
  /-- A name that derives from one in the scope comes first. -/
  | derived {registry later : NameRegistry} {rest : List Registered} {base : NameId}
      (hb : registry.HasNameIn scope base) (style : NameStyle) (derive : String → String)
      (h : Registers scope (registry.registerDerived base style derive).2 later rest) :
      Registers scope registry later
        (⟨style, fun text => derive (text base),
          (registry.registerDerived base style derive).1⟩ :: rest)

/-- Names that are registered one after the other are registered together. -/
theorem Registers.trans {scope : ScopeId} {first second third : NameRegistry}
    {names others : List Registered} (h : Registers scope first second names)
    (h' : Registers scope second third others) :
    Registers scope first third (names ++ others) := by
  induction h with
  | refl => exact h'
  | primary style display _ ih => exact .primary style display (ih h')
  | derived hb style derive _ ih => exact .derived hb style derive (ih h')

/-- Registering names extends a registry. -/
theorem Registers.extends {scope : ScopeId} {registry later : NameRegistry}
    {names : List Registered} (h : Registers scope registry later names) :
    registry.Extends later := by
  induction h with
  | refl registry => exact .refl registry
  | primary _ _ _ ih => exact (extends_register _ _).trans ih
  | derived _ _ _ _ ih => exact (extends_register _ _).trans ih

/-- Registering names in a scope of a well-formed registry keeps it well-formed. -/
theorem Registers.grows {scope : ScopeId} {registry later : NameRegistry}
    {names : List Registered} (h : Registers scope registry later names)
    (hw : registry.WellFormed) (hs : registry.HasScope scope) : registry.Grows later := by
  refine ⟨h.extends, ?_⟩
  induction h with
  | refl => exact hw
  | primary style display _ ih => exact ih (hw.registerPrimary hs style display) hs
  | derived hb style derive _ ih =>
    exact ih (hw.registerDerivedIn (hw.hasScope_scopeOf _) hb.hasName style derive) hs

/-- What was registered is in the registry. -/
theorem Registers.hasNameIn {scope : ScopeId} {registry later : NameRegistry}
    {names : List Registered} (h : Registers scope registry later names) :
    ∀ registered ∈ names, later.HasNameIn scope registered.name := by
  induction h with
  | refl => simp
  | primary style display h ih =>
    intro registered hm
    rcases List.mem_cons.mp hm with rfl | hm
    · exact (hasNameIn_register _ _).mono h.extends
    · exact ih registered hm
  | derived hb style derive h ih =>
    intro registered hm
    rw [hb.registerDerived_eq] at h hm
    rcases List.mem_cons.mp hm with rfl | hm
    · exact (hasNameIn_register _ _).mono h.extends
    · exact ih registered hm

/-- The texts of the names of a registry in some scopes, in the order of
registration. -/
def textsIn (registry : NameRegistry) (assigned : List AssignedName) (scopes : List ScopeId) :
    List String :=
  takenIn scopes (assigned.take registry.size)

/-- A new scope changes the texts of no others. -/
theorem textsIn_addScope (registry : NameRegistry) (parent : ScopeId) (label : String)
    (forbidden : List String) (assigned : List AssignedName) (scopes : List ScopeId) :
    (registry.addScope parent label forbidden).2.textsIn assigned scopes
      = registry.textsIn assigned scopes := rfl

/-- The first names of a resolution are resolved among themselves. -/
theorem Greedy.take {registry : NameRegistry} {policy : NamingPolicy}
    {assigned : List AssignedName} (hg : registry.Greedy policy assigned) (count : Nat) :
    registry.Greedy policy (assigned.take count) := by
  induction hg with
  | nil =>
    rw [List.take_nil]
    exact .nil
  | @snoc assigned entry text hg he hp ih =>
    by_cases hle : count ≤ assigned.length
    · rw [List.take_append_of_le_length hle]
      exact ih
    · rw [List.take_of_length_le (by rw [List.length_append, List.length_singleton]; omega)]
      exact hg.snoc he hp

section Stage

variable {final : NameRegistry} {policy : NamingPolicy} {assigned : List AssignedName}

/-- The text of a name is the same in every stage that has the name. -/
theorem Resolved.textOf_take (hr : final.Resolved policy assigned) {registry : NameRegistry}
    (he : registry.Extends final) {name : NameId} (hn : registry.HasName name) :
    textOf (assigned.take registry.size) name = textOf assigned name := by
  have hlt : name.index < assigned.length := by
    rw [hr.length]
    exact Nat.lt_of_lt_of_le hn he.names.length_le
  have hfull := List.getElem?_eq_getElem hlt
  have htake : (assigned.take registry.size)[name.index]? = some assigned[name.index] :=
    (List.getElem?_take_of_lt hn).trans hfull
  rw [(hr.greedy.take _).textOf_eq htake, hr.greedy.textOf_eq hfull]

/-- A registered name gets the text that is picked among those of the stage
before. -/
theorem Resolved.register (hr : final.Resolved policy assigned) {registry : NameRegistry}
    {entry : NameEntry} (he : (registry.register entry).2.Extends final) :
    assigned[registry.size]?
        = some ⟨⟨registry.size⟩, entry.scope, textOf assigned (registry.register entry).1⟩
      ∧ policy.Picks (final.forbiddenIn (final.chain entry.scope))
          (registry.textsIn assigned (final.chain entry.scope)) entry.style
          (displayText (assigned.take registry.size) entry.source)
          (textOf assigned (registry.register entry).1) := by
  have hentry : final.names[registry.size]? = some entry :=
    getElem?_of_initial he.names (List.getElem?_concat_length ..)
  have hlt : registry.size < assigned.length := by
    rw [hr.length]
    exact (List.getElem?_eq_some_iff.mp hentry).1
  have hnext := List.getElem?_eq_getElem hlt
  obtain ⟨entry', he', hname, hscope, hp⟩ := hr.greedy.at hnext
  cases hentry.symm.trans he'
  have htext : textOf assigned (registry.register entry).1 = assigned[registry.size].text :=
    hr.greedy.textOf_eq hnext
  rw [htext]
  refine ⟨?_, hp⟩
  rw [hnext, ← hscope, ← hname]

/-- A registration adds the text of the name to its scopes and to no other. -/
theorem Resolved.textsIn_register (hr : final.Resolved policy assigned) {registry : NameRegistry}
    {entry : NameEntry} (he : (registry.register entry).2.Extends final)
    (scopes : List ScopeId) :
    (registry.register entry).2.textsIn assigned scopes
      = registry.textsIn assigned scopes
        ++ if entry.scope ∈ scopes then [textOf assigned (registry.register entry).1] else [] := by
  have hsize : (registry.register entry).2.size = registry.size + 1 := List.length_append ..
  unfold textsIn takenIn
  rw [hsize, List.take_add_one, (hr.register he).1, List.filter_append, List.map_append]
  split <;> rename_i hs <;> simp [hs]

/-- Between two stages, texts are picked in some scopes. -/
structure Stretch (policy : NamingPolicy) (assigned : List AssignedName) (scopes : List ScopeId)
    (forbidden : List String) (registry later : NameRegistry) (picked : List PickedName) :
    Prop where
  /-- They are picked one after the other. -/
  picks : policy.PicksAll forbidden (registry.textsIn assigned scopes) picked
  /-- They are the new texts of the scopes. -/
  texts : later.textsIn assigned scopes
    = registry.textsIn assigned scopes ++ picked.map PickedName.text

theorem Stretch.refl (registry : NameRegistry) (scopes : List ScopeId) (forbidden : List String) :
    Stretch policy assigned scopes forbidden registry registry [] :=
  ⟨trivial, (List.append_nil _).symm⟩

/-- A text that is picked first goes before those that are picked after it. -/
theorem Stretch.cons {scopes : List ScopeId} {forbidden : List String}
    {first second third : NameRegistry} {next : PickedName} {rest : List PickedName}
    (hp : policy.Picks forbidden (first.textsIn assigned scopes) next.style next.display next.text)
    (ht : second.textsIn assigned scopes = first.textsIn assigned scopes ++ [next.text])
    (h : Stretch policy assigned scopes forbidden second third rest) :
    Stretch policy assigned scopes forbidden first third (next :: rest) := by
  refine ⟨⟨hp, ht ▸ h.picks⟩, ?_⟩
  rw [h.texts, ht, List.append_assoc, List.map_cons, List.singleton_append]

/-- The scopes that count for the names of a scope, and the words that are
forbidden there. -/
structure Level (registry : NameRegistry) (scope : ScopeId) (scopes : List ScopeId)
    (forbidden : List String) : Prop where
  /-- The scopes are those around the scope. -/
  chain : registry.chain scope = scopes
  /-- The scope is one of them. -/
  mem : scope ∈ scopes
  /-- The words are those forbidden in one of them. -/
  forbidden : registry.forbiddenIn scopes = forbidden

/-- All names of a registry have their texts, and the words reserved by the policy
are forbidden globally. -/
structure Rooted (registry : NameRegistry) (policy : NamingPolicy)
    (assigned : List AssignedName) : Prop extends Resolved registry policy assigned where
  /-- Scopes and names refer to earlier ones. -/
  wellFormed : registry.WellFormed
  /-- The global scope has the reserved words. -/
  root : registry.scopes[0]? = some ⟨"global", none, policy.reserved⟩

/-- The global scope stands alone. -/
theorem level_global {words : List String} {label : String}
    (h : final.scopes[0]? = some ⟨label, none, words⟩) : final.Level global [global] words := by
  have hpos : 0 < final.scopes.length := (List.getElem?_eq_some_iff.mp h).1
  refine ⟨?_, List.mem_singleton_self _, ?_⟩
  · obtain ⟨bound, hbound⟩ := Nat.exists_eq_succ_of_ne_zero hpos.ne'
    rw [chain, hbound, chainWithin, global, h]
    rfl
  · simp [forbiddenIn, global, h]

/-- A scope in the global one has the words of both. -/
theorem level_nested (hw : final.WellFormed) {words own : List String} {label outer : String}
    {scope : ScopeId} (h : final.scopes[0]? = some ⟨outer, none, words⟩)
    (hs : final.scopes[scope.index]? = some ⟨label, some global, own⟩) :
    final.Level scope [scope, global] (own ++ words) := by
  have hlt : scope.index < final.scopes.length := (List.getElem?_eq_some_iff.mp hs).1
  have hpos : 0 < scope.index := hw.parents _ _ _ hs rfl
  refine ⟨?_, List.mem_cons_self, ?_⟩
  · obtain ⟨bound, hbound⟩ : ∃ bound, final.scopes.length = bound + 2 :=
      ⟨final.scopes.length - 2, by omega⟩
    rw [chain, hbound, chainWithin, hs]
    dsimp only [Option.bind_some]
    rw [chainWithin, global, h]
    rfl
  · simp [forbiddenIn, global, h, hs]

section Step

variable {registry : NameRegistry} {scope : ScopeId} {scopes : List ScopeId}
  {forbidden : List String}

/-- The names of a scope get the texts that are picked for them, one after the
other. -/
theorem Resolved.stretch (hr : final.Resolved policy assigned)
    (hl : final.Level scope scopes forbidden) {later : NameRegistry} {names : List Registered}
    (h : Registers scope registry later names) (he : later.Extends final) :
    Stretch policy assigned scopes forbidden registry later
      (names.map (Registered.picked (textOf assigned))) := by
  induction h with
  | refl registry => exact .refl registry scopes forbidden
  | primary style display h ih =>
    have hstep := h.extends.trans he
    have hp := (hr.register hstep).2
    have ht := hr.textsIn_register hstep scopes
    rw [hl.chain, hl.forbidden] at hp
    rw [if_pos hl.mem] at ht
    exact .cons hp ht (ih he)
  | derived hb style derive h ih =>
    have hstep := h.extends.trans he
    rw [hb.registerDerived_eq] at hstep ih ⊢
    have hstage := (extends_register _ _).trans hstep
    have hp := (hr.register hstep).2
    have ht := hr.textsIn_register hstep scopes
    dsimp only [displayText] at hp
    rw [hl.chain, hl.forbidden, hr.textOf_take hstage hb.hasName] at hp
    rw [if_pos hl.mem] at ht
    exact .cons hp ht (ih he)

/-- The names of a scope add no text to other scopes. -/
theorem Resolved.textsIn_registers (hr : final.Resolved policy assigned) {later : NameRegistry}
    {names : List Registered} (h : Registers scope registry later names)
    (he : later.Extends final) (hs : scope ∉ scopes) :
    later.textsIn assigned scopes = registry.textsIn assigned scopes := by
  induction h with
  | refl => rfl
  | primary style display h ih =>
    have ht := hr.textsIn_register (h.extends.trans he) scopes
    rw [if_neg hs, List.append_nil] at ht
    exact (ih he).trans ht
  | derived hb style derive h ih =>
    have hstep := h.extends.trans he
    rw [hb.registerDerived_eq] at hstep ih
    have ht := hr.textsIn_register hstep scopes
    rw [if_neg hs, List.append_nil] at ht
    exact (ih he).trans ht

/-- There are no names yet in a scope that a registry does not have. -/
theorem Resolved.textsIn_fresh (hr : final.Resolved policy assigned) (hw : registry.WellFormed)
    (he : registry.Extends final) (hs : ¬registry.HasScope scope) :
    registry.textsIn assigned (scope :: scopes) = registry.textsIn assigned scopes := by
  unfold textsIn takenIn
  refine congrArg _ (List.filter_congr fun before hbefore => ?_)
  obtain ⟨index, hindex⟩ := List.getElem?_of_mem hbefore
  have hlt : index < registry.size :=
    Nat.lt_of_lt_of_le (List.getElem?_eq_some_iff.mp hindex).1 (List.length_take_le ..)
  rw [List.getElem?_take_of_lt hlt] at hindex
  obtain ⟨entry, hentry, -, hscope, -⟩ := hr.greedy.at hindex
  have hown := List.getElem?_eq_getElem hlt
  cases hentry.symm.trans (getElem?_of_initial he.names hown)
  have hne : before.scope ≠ scope := by
    rintro rfl
    exact hs (hscope ▸ hw.scopes index _ hown)
  simp [hne]

/-- A new scope inside the global one holds no names, and what counts there are the
global names and words and its own. -/
theorem Rooted.nested (hr : final.Rooted policy assigned) (hw : registry.WellFormed)
    {label : String} {own : List String}
    (he : (registry.addScope global label own).2.Extends final) :
    final.Level (registry.addScope global label own).1
        [(registry.addScope global label own).1, global] (own ++ policy.reserved)
      ∧ (registry.addScope global label own).2.textsIn assigned
          [(registry.addScope global label own).1, global]
        = registry.textsIn assigned [global] := by
  have hs : final.scopes[registry.scopes.length]? = some ⟨label, some global, own⟩ :=
    getElem?_of_initial he.scopes (List.getElem?_concat_length ..)
  refine ⟨level_nested hr.wellFormed hr.root hs, ?_⟩
  rw [textsIn_addScope]
  exact hr.textsIn_fresh hw ((extends_addScope _ _ _ _).trans he) (Nat.lt_irrefl _)

end Step

end Stage

end Hydration.NameRegistry
