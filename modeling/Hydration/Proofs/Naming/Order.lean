import Hydration.Naming.Registry
import Mathlib.Data.List.Nodup
import Mathlib.Data.List.Range

/-!
# The order of resolution

A registry that is built by its own operations has a scope around every scope
but the global one, and it was returned before; so was the base of every
derived name. The names that are ready are therefore those after the ones
taken so far that derive from none of the rest, and the least of them is the
next in the order of registration.
-/

namespace Hydration.NameRegistry

/-- A scope was returned by the registry. -/
def HasScope (registry : NameRegistry) (scope : ScopeId) : Prop :=
  scope.index < registry.scopes.length

/-- A name was returned by the registry. -/
def HasName (registry : NameRegistry) (name : NameId) : Prop :=
  name.index < registry.names.length

instance (registry : NameRegistry) (scope : ScopeId) : Decidable (registry.HasScope scope) :=
  inferInstanceAs (Decidable (_ < _))

instance (registry : NameRegistry) (name : NameId) : Decidable (registry.HasName name) :=
  inferInstanceAs (Decidable (_ < _))

/-- A registry is built by its own operations, each with scopes and bases that
it returned before. -/
inductive Built : NameRegistry → Prop where
  /-- The global scope alone. -/
  | empty : Built empty
  /-- A scope inside another. -/
  | addScope {registry : NameRegistry} {parent : ScopeId} (h : Built registry)
      (hp : registry.HasScope parent) (label : String) (forbidden : List String) :
      Built (registry.addScope parent label forbidden).2
  /-- Words forbidden in a scope. -/
  | forbid {registry : NameRegistry} {scope : ScopeId} (h : Built registry)
      (hs : registry.HasScope scope) (words : List String) : Built (registry.forbid scope words)
  /-- A name with a display text. -/
  | registerPrimary {registry : NameRegistry} {scope : ScopeId} (h : Built registry)
      (hs : registry.HasScope scope) (style : NameStyle) (display : String) :
      Built (registry.registerPrimary scope style display).2
  /-- A name that derives from another in the same scope. -/
  | registerDerived {registry : NameRegistry} {base : NameId} (h : Built registry)
      (hb : registry.HasName base) (style : NameStyle) (derive : String → String) :
      Built (registry.registerDerived base style derive).2
  /-- A name that derives from another in a scope of its own. -/
  | registerDerivedIn {registry : NameRegistry} {scope : ScopeId} {base : NameId}
      (h : Built registry) (hs : registry.HasScope scope) (hb : registry.HasName base)
      (style : NameStyle) (derive : String → String) :
      Built (registry.registerDerivedIn scope base style derive).2

/-- Scopes and names refer to earlier ones. -/
structure WellFormed (registry : NameRegistry) : Prop where
  /-- There is a global scope. -/
  globalScope : registry.HasScope global
  /-- The scope around a scope comes before it. -/
  parents : ∀ (index : Nat) (scope : Scope) (parent : ScopeId),
    registry.scopes[index]? = some scope → scope.parent = some parent → parent.index < index
  /-- The scope of a name is one of the registry. -/
  scopes : ∀ (index : Nat) (entry : NameEntry), registry.names[index]? = some entry →
    registry.HasScope entry.scope
  /-- The base of a name comes before it. -/
  bases : ∀ (index : Nat) (entry : NameEntry) (base : NameId) (derive : String → String),
    registry.names[index]? = some entry → entry.source = .derived base derive →
    base.index < index

/-- The base of every derived name comes before it, whatever the scopes are. -/
def BasesFirst (registry : NameRegistry) : Prop :=
  ∀ (index : Nat) (entry : NameEntry) (base : NameId) (derive : String → String),
    registry.names[index]? = some entry → entry.source = .derived base derive →
    base.index < index

/-- What stands in a list with one more element stood there before or is that
element. -/
theorem getElem?_snoc {α : Type} {list : List α} {last found : α} {index : Nat}
    (h : (list ++ [last])[index]? = some found) :
    list[index]? = some found ∨ list.length ≤ index ∧ found = last := by
  by_cases hlt : index < list.length
  · rw [List.getElem?_append_left hlt] at h
    exact Or.inl h
  · rw [List.getElem?_append_right (by omega)] at h
    exact Or.inr ⟨by omega, List.mem_singleton.mp (List.mem_of_getElem? h)⟩

/-- A scope is added whose parent is in the registry. -/
theorem WellFormed.addScope {registry : NameRegistry} (h : registry.WellFormed)
    {parent : ScopeId} (hp : registry.HasScope parent) (label : String)
    (forbidden : List String) : (registry.addScope parent label forbidden).2.WellFormed := by
  have hmono : ∀ scope, registry.HasScope scope →
      (registry.addScope parent label forbidden).2.HasScope scope := by
    intro scope hs
    simp only [HasScope, NameRegistry.addScope, List.length_append, List.length_singleton] at *
    omega
  refine ⟨hmono _ h.globalScope, fun index scope outer hs hparent => ?_,
    fun index entry he => hmono _ (h.scopes index entry he), h.bases⟩
  rcases getElem?_snoc hs with hs | ⟨hle, rfl⟩
  · exact h.parents index scope outer hs hparent
  · cases hparent
    exact Nat.lt_of_lt_of_le hp hle

/-- A name is added whose base is in the registry. -/
theorem BasesFirst.register {registry : NameRegistry} (h : registry.BasesFirst)
    {entry : NameEntry}
    (hb : ∀ base derive, entry.source = .derived base derive → registry.HasName base) :
    (registry.register entry).2.BasesFirst := by
  intro index other base derive ho hsource
  rcases getElem?_snoc ho with ho | ⟨hle, rfl⟩
  · exact h index other base derive ho hsource
  · exact Nat.lt_of_lt_of_le (hb base derive hsource) hle

/-- A name is added whose scope and base are in the registry. -/
theorem WellFormed.register {registry : NameRegistry} (h : registry.WellFormed)
    {entry : NameEntry} (hs : registry.HasScope entry.scope)
    (hb : ∀ base derive, entry.source = .derived base derive → registry.HasName base) :
    (registry.register entry).2.WellFormed where
  globalScope := h.globalScope
  parents := h.parents
  scopes index other ho := by
    rcases getElem?_snoc ho with ho | ⟨-, rfl⟩
    · exact h.scopes index other ho
    · exact hs
  bases := BasesFirst.register h.bases hb

/-- A primary name is added. -/
theorem WellFormed.registerPrimary {registry : NameRegistry} (h : registry.WellFormed)
    {scope : ScopeId} (hs : registry.HasScope scope) (style : NameStyle) (display : String) :
    (registry.registerPrimary scope style display).2.WellFormed :=
  h.register hs fun _ _ hsource => by cases hsource

/-- A derived name is added. -/
theorem WellFormed.registerDerivedIn {registry : NameRegistry} (h : registry.WellFormed)
    {scope : ScopeId} (hs : registry.HasScope scope) {base : NameId} (hb : registry.HasName base)
    (style : NameStyle) (derive : String → String) :
    (registry.registerDerivedIn scope base style derive).2.WellFormed := by
  refine h.register hs fun _ _ hsource => ?_
  cases hsource
  exact hb

/-- The scope of a name is one of the registry. -/
theorem WellFormed.hasScope_scopeOf {registry : NameRegistry} (h : registry.WellFormed)
    (name : NameId) : registry.HasScope (registry.scopeOf name) := by
  unfold scopeOf
  split
  · rename_i entry hentry
    exact h.scopes name.index entry hentry
  · exact h.globalScope

/-- What is built refers to earlier scopes and names. -/
theorem Built.wellFormed {registry : NameRegistry} (h : registry.Built) :
    registry.WellFormed := by
  induction h with
  | empty =>
    refine ⟨Nat.zero_lt_one, ?_, ?_, ?_⟩
    · intro index scope parent hs hp
      have hscope := List.mem_singleton.mp (List.mem_of_getElem? hs)
      rw [hscope] at hp
      cases hp
    · intro index entry he
      cases he
    · intro index entry base derive he
      cases he
  | addScope _ hp label forbidden ih => exact ih.addScope hp label forbidden
  | @forbid registry scope _ _ words ih =>
    have hlength : ∀ other, (registry.forbid scope words).HasScope other
        ↔ registry.HasScope other := by
      intro other
      simp only [HasScope, NameRegistry.forbid, List.length_modify]
    refine ⟨(hlength _).mpr ih.globalScope, ?_, ?_, ih.bases⟩
    · intro index inner parent hs hp
      simp only [NameRegistry.forbid, List.getElem?_modify, Option.map_eq_map,
        Option.map_eq_some_iff] at hs
      obtain ⟨found, hfound, rfl⟩ := hs
      refine ih.parents index found parent hfound ?_
      split at hp <;> exact hp
    · intro index entry he
      exact (hlength _).mpr (ih.scopes index entry he)
  | registerPrimary _ hs style display ih => exact ih.registerPrimary hs style display
  | registerDerived _ hb style derive ih =>
    exact ih.registerDerivedIn (ih.hasScope_scopeOf _) hb style derive
  | registerDerivedIn _ hs hb style derive ih => exact ih.registerDerivedIn hs hb style derive

/-- A scope is another one or lies, at some depth, inside it. -/
inductive Encloses (registry : NameRegistry) (outer : ScopeId) : ScopeId → Prop where
  /-- The scope itself. -/
  | self : Encloses registry outer outer
  /-- A scope whose parent lies inside. -/
  | inside {scope : Scope} {parent inner : ScopeId}
      (hs : registry.scopes[inner.index]? = some scope) (hp : scope.parent = some parent)
      (h : Encloses registry outer parent) : Encloses registry outer inner

/-- A large enough bound lets the chain of a scope end with the global one. -/
theorem mem_chainWithin_iff {registry : NameRegistry} (hw : registry.WellFormed) {bound : Nat}
    {inner outer : ScopeId} (hbound : inner.index < bound) :
    outer ∈ registry.chainWithin bound inner ↔ registry.Encloses outer inner := by
  induction bound generalizing inner with
  | zero => omega
  | succ bound ih =>
    unfold chainWithin
    split
    · rename_i parent hparent
      obtain ⟨scope, hs, hp⟩ := Option.bind_eq_some_iff.mp hparent
      have hlt : parent.index < inner.index := hw.parents inner.index scope parent hs hp
      rw [List.mem_cons, ih (by omega)]
      constructor
      · rintro (rfl | hm)
        · exact .self
        · exact .inside hs hp hm
      · intro h
        cases h with
        | self => exact Or.inl rfl
        | inside hs' hp' h =>
          cases hs.symm.trans hs'
          cases hp.symm.trans hp'
          exact Or.inr h
    · rename_i hnone
      rw [List.mem_singleton]
      constructor
      · rintro rfl
        exact .self
      · intro h
        cases h with
        | self => rfl
        | inside hs hp _ =>
          rw [hs, Option.bind_some, hp] at hnone
          cases hnone

/-- The chain of a scope holds the scopes around it. -/
theorem mem_chain_iff {registry : NameRegistry} (hw : registry.WellFormed)
    {inner outer : ScopeId} (hi : registry.HasScope inner) :
    outer ∈ registry.chain inner ↔ registry.Encloses outer inner :=
  mem_chainWithin_iff hw hi

/-- A name derives from none of the names from a position on. -/
def ReadyAt (registry : NameRegistry) (position index : Nat) : Prop :=
  ∃ entry, registry.names[index]? = some entry
    ∧ ∀ base derive, entry.source = .derived base derive → base.index < position

/-- The names that derive from the one at a position are ready after it. -/
theorem readyAt_succ_iff {registry : NameRegistry} {position index : Nat} :
    registry.ReadyAt (position + 1) index
      ↔ index ∈ registry.namesWith (derivesFrom position) ∨ registry.ReadyAt position index := by
  rw [mem_namesWith]
  constructor
  · rintro ⟨entry, he, hbase⟩
    cases hsource : entry.source with
    | primary display =>
      refine Or.inr ⟨entry, he, fun base derive hs => ?_⟩
      cases hsource.symm.trans hs
    | derived base derive =>
      have hlt := hbase base derive hsource
      by_cases heq : base.index = position
      · refine Or.inl ⟨entry, he, ?_⟩
        rw [hsource]
        exact beq_iff_eq.mpr heq
      · refine Or.inr ⟨entry, he, fun base' derive' hs => ?_⟩
        cases hsource.symm.trans hs
        omega
  · rintro (⟨entry, he, hd⟩ | ⟨entry, he, hbase⟩)
    · refine ⟨entry, he, fun base derive hs => ?_⟩
      rw [hs] at hd
      have heq : base.index = position := beq_iff_eq.mp hd
      omega
    · exact ⟨entry, he, fun base derive hs => Nat.lt_succ_of_lt (hbase base derive hs)⟩

/-- A name that derives from another comes after it. -/
theorem BasesFirst.lt_of_mem_namesWith {registry : NameRegistry} (h : registry.BasesFirst)
    {position index : Nat} (hm : index ∈ registry.namesWith (derivesFrom position)) :
    position < index := by
  obtain ⟨entry, he, hd⟩ := mem_namesWith.mp hm
  cases hsource : entry.source with
  | primary display =>
    rw [hsource] at hd
    cases hd
  | derived base derive =>
    rw [hsource] at hd
    have heq : base.index = position := beq_iff_eq.mp hd
    have hlt := h index entry base derive he hsource
    omega

/-- The positions of names are listed in order. -/
theorem sorted_namesWith (registry : NameRegistry) (test : NameSource → Bool) :
    (registry.namesWith test).Pairwise (· < ·) := by
  have hpositions : (registry.names.zipIdx.map Prod.snd).Pairwise (· < ·) := by
    rw [List.zipIdx_map_snd]
    exact List.pairwise_lt_range'
  exact hpositions.sublist (List.filter_sublist.map Prod.snd)

theorem mem_insertSorted {index other : Nat} {ready : List Nat} :
    other ∈ insertSorted index ready ↔ other = index ∨ other ∈ ready := by
  induction ready with
  | nil => simp [insertSorted]
  | cons first rest ih =>
    unfold insertSorted
    split
    · simp
    · split
      · rename_i heq
        simp [heq]
      · simp only [List.mem_cons, ih]
        exact or_left_comm

/-- Inserting an index keeps the indexes ascending. -/
theorem sorted_insertSorted {index : Nat} {ready : List Nat} (h : ready.Pairwise (· < ·)) :
    (insertSorted index ready).Pairwise (· < ·) := by
  induction ready with
  | nil => simp [insertSorted]
  | cons first rest ih =>
    obtain ⟨hfirst, hrest⟩ := List.pairwise_cons.mp h
    unfold insertSorted
    split
    · rename_i hlt
      refine List.pairwise_cons.mpr ⟨fun other hm => ?_, h⟩
      rcases List.mem_cons.mp hm with rfl | hm
      · exact hlt
      · exact Nat.lt_trans hlt (hfirst other hm)
    · split
      · exact h
      · refine List.pairwise_cons.mpr ⟨fun other hm => ?_, ih hrest⟩
        rcases mem_insertSorted.mp hm with rfl | hm
        · omega
        · exact hfirst other hm

/-- Inserting positions one after the other keeps a list sorted and adds them. -/
theorem foldl_insertSorted (indices : List Nat) {ready : List Nat}
    (h : ready.Pairwise (· < ·)) :
    (indices.foldl (fun ready i => insertSorted i ready) ready).Pairwise (· < ·)
      ∧ ∀ other, other ∈ indices.foldl (fun ready i => insertSorted i ready) ready
        ↔ other ∈ indices ∨ other ∈ ready := by
  induction indices generalizing ready with
  | nil => exact ⟨h, by simp⟩
  | cons index rest ih =>
    obtain ⟨hsorted, hmem⟩ := ih (sorted_insertSorted h)
    refine ⟨hsorted, fun other => ?_⟩
    rw [List.foldl_cons, hmem, mem_insertSorted, List.mem_cons, or_left_comm, or_assoc]

/-- From the names that are ready at a position on, the names are taken in the
order of registration, and none is ready after the last one. -/
theorem drain_eq {registry : NameRegistry} (hb : registry.BasesFirst)
    {bound remaining position : Nat} {ready : List Nat} (hbound : remaining ≤ bound)
    (hlength : position + remaining = registry.size) (hsorted : ready.Pairwise (· < ·))
    (hready : ∀ index, index ∈ ready ↔ position ≤ index ∧ registry.ReadyAt position index) :
    registry.drain bound ready = (List.range' position remaining).map NameId.mk := by
  induction remaining generalizing bound position ready with
  | zero =>
    have hnone : ready = [] := List.eq_nil_iff_forall_not_mem.mpr fun index hm => by
      obtain ⟨hle, entry, he, -⟩ := (hready index).mp hm
      have hlt := (List.getElem?_eq_some_iff.mp he).1
      rw [size] at hlength
      omega
    rw [hnone]
    cases bound <;> rfl
  | succ remaining ih =>
    have hlt : position < registry.names.length := by
      rw [size] at hlength
      omega
    have hnow : position ∈ ready := by
      refine (hready position).mpr ⟨Nat.le_refl _, registry.names[position],
        List.getElem?_eq_getElem hlt, fun base derive hsource => ?_⟩
      exact hb position _ base derive (List.getElem?_eq_getElem hlt) hsource
    obtain ⟨bound, rfl⟩ := Nat.exists_eq_add_of_le' (Nat.le_of_add_left_le hbound)
    cases ready with
    | nil => cases hnow
    | cons next rest =>
      obtain ⟨hnext, hrest⟩ := List.pairwise_cons.mp hsorted
      obtain rfl : next = position := by
        have hle : position ≤ next := ((hready next).mp List.mem_cons_self).1
        rcases List.mem_cons.mp hnow with heq | hm
        · exact heq.symm
        · have hgt := hnext position hm
          omega
      obtain ⟨hsorted', hmem⟩ := foldl_insertSorted (registry.namesWith (derivesFrom next)) hrest
      rw [drain, List.range'_succ, List.map_cons]
      refine congrArg _ (ih (by omega) (by omega) hsorted' fun index => ?_)
      rw [hmem, readyAt_succ_iff]
      constructor
      · rintro (hd | hr)
        · exact ⟨hb.lt_of_mem_namesWith hd, Or.inl hd⟩
        · have hlt := hnext index hr
          exact ⟨by omega, Or.inr ((hready index).mp (List.mem_cons_of_mem _ hr)).2⟩
      · rintro ⟨hle, hd | hr⟩
        · exact Or.inl hd
        · rcases List.mem_cons.mp ((hready index).mpr ⟨by omega, hr⟩) with rfl | hm
          · omega
          · exact Or.inr hm

/-- A name is ready from the start exactly when it is primary. -/
theorem mem_namesWith_isPrimary {registry : NameRegistry} {index : Nat} :
    index ∈ registry.namesWith isPrimary ↔ registry.ReadyAt 0 index := by
  rw [mem_namesWith]
  constructor
  · rintro ⟨entry, he, hprimary⟩
    refine ⟨entry, he, fun base derive hsource => ?_⟩
    rw [hsource] at hprimary
    cases hprimary
  · rintro ⟨entry, he, hbase⟩
    refine ⟨entry, he, ?_⟩
    cases hsource : entry.source with
    | primary display => rfl
    | derived base derive => exact absurd (hbase base derive hsource) (Nat.not_lt_zero _)

/-- From the primary names on, all names are taken in the order of their registration. -/
theorem drain_primary_eq {registry : NameRegistry} (hb : registry.BasesFirst) {bound : Nat}
    (hbound : registry.size ≤ bound) :
    registry.drain bound (registry.namesWith isPrimary)
      = (List.range registry.size).map NameId.mk := by
  rw [List.range_eq_range']
  refine drain_eq hb hbound (Nat.zero_add _) (sorted_namesWith _ _) fun index => ?_
  rw [mem_namesWith_isPrimary]
  exact (and_iff_right (Nat.zero_le index)).symm

/-- The names are resolved in the order of their registration. -/
theorem resolutionOrder_eq {registry : NameRegistry} (hb : registry.BasesFirst) :
    registry.resolutionOrder = (List.range registry.size).map NameId.mk :=
  drain_primary_eq hb (Nat.le_refl _)

end Hydration.NameRegistry
