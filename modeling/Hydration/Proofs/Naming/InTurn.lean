import Hydration.Proofs.Naming.Resolution

/-!
# Names in turn

A registry returns a name from each operation that registers one. If each derived name
has a base that was returned before it, the names are resolved in the order in which they
were returned, each once, whatever scopes they are in. When the pass comes to a name, the
names returned before it have their texts and no others, so the text of its base is never
missing; and after a pass that succeeds the text of no name is.
-/

namespace Hydration.NameRegistry

/-- A registry is built by its own operations, which returned these names in this order,
and each derived name has a base that was returned before it. -/
inductive Issued : NameRegistry → List NameId → Prop where
  /-- The global scope alone. -/
  | empty : Issued empty []
  /-- A scope, inside any other. -/
  | addScope {registry : NameRegistry} {names : List NameId} (h : Issued registry names)
      (parent : ScopeId) (label : String) (forbidden : List String) :
      Issued (registry.addScope parent label forbidden).2 names
  /-- Words forbidden in a scope. -/
  | forbid {registry : NameRegistry} {names : List NameId} (h : Issued registry names)
      (scope : ScopeId) (words : List String) : Issued (registry.forbid scope words) names
  /-- A name with a display text. -/
  | registerPrimary {registry : NameRegistry} {names : List NameId} (h : Issued registry names)
      (scope : ScopeId) (style : NameStyle) (display : String) :
      Issued (registry.registerPrimary scope style display).2
        (names ++ [(registry.registerPrimary scope style display).1])
  /-- A name that derives from another in the same scope. -/
  | registerDerived {registry : NameRegistry} {names : List NameId} {base : NameId}
      (h : Issued registry names) (hb : base ∈ names) (style : NameStyle)
      (derive : String → String) :
      Issued (registry.registerDerived base style derive).2
        (names ++ [(registry.registerDerived base style derive).1])
  /-- A name that derives from another in a scope of its own. -/
  | registerDerivedIn {registry : NameRegistry} {names : List NameId} {base : NameId}
      (h : Issued registry names) (scope : ScopeId) (hb : base ∈ names) (style : NameStyle)
      (derive : String → String) :
      Issued (registry.registerDerivedIn scope base style derive).2
        (names ++ [(registry.registerDerivedIn scope base style derive).1])

/-- Names are all those of a registry, each once and by position. -/
def Numbered (registry : NameRegistry) (names : List NameId) : Prop :=
  names = (List.range registry.size).map NameId.mk

variable {registry : NameRegistry} {policy : NamingPolicy} {assigned : List AssignedName}
  {names : List NameId} {name : NameId}

/-- A name was returned exactly when it is in the registry. -/
theorem Numbered.mem_iff (h : registry.Numbered names) : name ∈ names ↔ registry.HasName name := by
  rw [h, List.mem_map]
  constructor
  · rintro ⟨index, hindex, rfl⟩
    exact List.mem_range.mp hindex
  · intro hname
    exact ⟨name.index, List.mem_range.mpr hname, rfl⟩

/-- The next name that is returned has the next position. -/
theorem Numbered.register (h : registry.Numbered names) (entry : NameEntry) :
    (registry.register entry).2.Numbered (names ++ [(registry.register entry).1]) := by
  have hsize : (registry.register entry).2.size = registry.size + 1 := List.length_append
  rw [Numbered, hsize, List.range_succ, List.map_append, ← h]
  rfl

/-- The names are returned in the order of their positions, and bases come before the
names derived from them. -/
theorem Issued.numbered_and_basesFirst (h : registry.Issued names) :
    registry.Numbered names ∧ registry.BasesFirst := by
  induction h with
  | empty =>
    refine ⟨rfl, fun index entry base derive he => ?_⟩
    cases he
  | addScope _ parent label forbidden ih => exact ih
  | forbid _ scope words ih => exact ih
  | registerPrimary _ scope style display ih =>
    refine ⟨ih.1.register _, ih.2.register fun base derive hsource => ?_⟩
    cases hsource
  | registerDerived _ hb style derive ih =>
    refine ⟨ih.1.register _, ih.2.register fun base derive hsource => ?_⟩
    cases hsource
    exact ih.1.mem_iff.mp hb
  | registerDerivedIn _ scope hb style derive ih =>
    refine ⟨ih.1.register _, ih.2.register fun base derive hsource => ?_⟩
    cases hsource
    exact ih.1.mem_iff.mp hb

/-- A registry that is built in scopes it returned before has issued its names. -/
theorem Built.exists_issued (h : registry.Built) : ∃ names, registry.Issued names := by
  induction h with
  | empty => exact ⟨_, .empty⟩
  | addScope _ _ label forbidden ih =>
    obtain ⟨names, ih⟩ := ih
    exact ⟨_, ih.addScope _ label forbidden⟩
  | forbid _ _ words ih =>
    obtain ⟨names, ih⟩ := ih
    exact ⟨_, ih.forbid _ words⟩
  | registerPrimary _ _ style display ih =>
    obtain ⟨names, ih⟩ := ih
    exact ⟨_, ih.registerPrimary _ style display⟩
  | registerDerived _ hb style derive ih =>
    obtain ⟨names, ih⟩ := ih
    have hm := ih.numbered_and_basesFirst.1.mem_iff.mpr hb
    exact ⟨_, ih.registerDerived hm style derive⟩
  | registerDerivedIn _ _ hb style derive ih =>
    obtain ⟨names, ih⟩ := ih
    have hm := ih.numbered_and_basesFirst.1.mem_iff.mpr hb
    exact ⟨_, ih.registerDerivedIn _ hm style derive⟩

/-- The final text of a name, if it has one already. -/
def finalText? (assigned : List AssignedName) (name : NameId) : Option String :=
  (assigned.find? fun other => other.name == name).map AssignedName.text

/-- A text that is there is the one that is used. -/
theorem textOf_eq_of_finalText? {text : String} (h : finalText? assigned name = some text) :
    textOf assigned name = text := by
  obtain ⟨other, hother, rfl⟩ := Option.map_eq_some_iff.mp h
  rw [textOf, hother]

/-- A name among the first ones has its text. -/
theorem Greedy.finalText?_eq (hg : registry.Greedy policy assigned)
    (hlt : name.index < assigned.length) :
    finalText? assigned name = some assigned[name.index].text := by
  have hfind := hg.find?_eq name.index
  rw [List.getElem?_eq_getElem hlt] at hfind
  exact congrArg (Option.map AssignedName.text) hfind

/-- The names that are resolved are the first ones. -/
theorem Greedy.map_name (hg : registry.Greedy policy assigned) :
    assigned.map AssignedName.name = (List.range assigned.length).map NameId.mk := by
  induction hg with
  | nil => rfl
  | @snoc assigned entry text hg he hp ih =>
    rw [List.map_append, ih, List.length_append, List.length_singleton, List.range_succ,
      List.map_append]
    rfl

/-- A name has its own position in the order of resolution. -/
theorem getElem?_resolutionOrder (hb : registry.BasesFirst) {position : Nat} :
    registry.resolutionOrder[position]? = some name
      ↔ name.index = position ∧ registry.HasName name := by
  rw [resolutionOrder_eq hb, List.getElem?_map, Option.map_eq_some_iff]
  constructor
  · rintro ⟨index, hindex, rfl⟩
    obtain ⟨hlt, rfl⟩ := List.getElem?_eq_some_iff.mp hindex
    rw [List.length_range] at hlt
    rw [List.getElem_range]
    exact ⟨rfl, hlt⟩
  · rintro ⟨rfl, hname⟩
    exact ⟨name.index, List.getElem?_range hname, rfl⟩

/-- The pass of a resolution comes to a name when those before it in the order of
resolution have been assigned. -/
def ComesTo (registry : NameRegistry) (policy : NamingPolicy) (assigned : List AssignedName)
    (name : NameId) : Prop :=
  ∃ position, registry.resolutionOrder[position]? = some name
    ∧ registry.assignAll policy (registry.resolutionOrder.take position) [] = .ok assigned

/-- When the pass comes to a name, it has assigned as many names as come before it. -/
theorem ComesTo.greedy (hb : registry.BasesFirst) (h : registry.ComesTo policy assigned name) :
    registry.Greedy policy assigned ∧ assigned.length = name.index ∧ registry.HasName name := by
  obtain ⟨position, hposition, hbefore⟩ := h
  obtain ⟨rfl, hname⟩ := (getElem?_resolutionOrder hb).mp hposition
  have hle : name.index ≤ registry.size := Nat.le_of_lt hname
  rw [resolutionOrder_eq hb, ← List.map_take, List.take_range, Nat.min_eq_left hle,
    List.range_eq_range'] at hbefore
  obtain ⟨hg, hlength⟩ := Greedy.nil.assignAll ((Nat.zero_add _).trans_le hle) hbefore
  exact ⟨hg, hlength.trans (Nat.zero_add _), hname⟩

/-- When the pass comes to a name, the names before it have their texts and no others. -/
theorem ComesTo.map_name (hb : registry.BasesFirst) (h : registry.ComesTo policy assigned name) :
    assigned.map AssignedName.name = registry.resolutionOrder.take name.index := by
  obtain ⟨hg, hlength, hname⟩ := h.greedy hb
  have hle : name.index ≤ registry.size := Nat.le_of_lt hname
  rw [hg.map_name, resolutionOrder_eq hb, ← List.map_take, List.take_range, hlength,
    Nat.min_eq_left hle]

/-- Assigning names one after the other can be cut anywhere. -/
theorem assignAll_append (before rest : List NameId) (assigned : List AssignedName) :
    registry.assignAll policy (before ++ rest) assigned
      = registry.assignAll policy before assigned >>= registry.assignAll policy rest := by
  induction before generalizing assigned with
  | nil => rfl
  | cons name before ih =>
    rw [List.cons_append, assignAll, assignAll]
    split
    · exact ih assigned
    · rename_i entry _
      cases registry.assign policy assigned name entry with
      | error e => rfl
      | ok next => exact ih (assigned ++ [next])

/-- When the pass comes to a name, it goes on with this name and then with those after it. -/
theorem ComesTo.exists_entry (hb : registry.BasesFirst)
    (h : registry.ComesTo policy assigned name) :
    ∃ entry, registry.names[name.index]? = some entry
      ∧ registry.assignAll policy registry.resolutionOrder []
        = registry.assign policy assigned name entry >>= fun next =>
            registry.assignAll policy (registry.resolutionOrder.drop (name.index + 1))
              (assigned ++ [next]) := by
  obtain ⟨position, hposition, hbefore⟩ := h
  obtain ⟨rfl, hname⟩ := (getElem?_resolutionOrder hb).mp hposition
  obtain ⟨hlt, hget⟩ := List.getElem?_eq_some_iff.mp hposition
  have he := List.getElem?_eq_getElem hname
  refine ⟨_, he, ?_⟩
  calc registry.assignAll policy registry.resolutionOrder []
      = registry.assignAll policy (registry.resolutionOrder.take name.index
          ++ registry.resolutionOrder.drop name.index) [] := by rw [List.take_append_drop]
    _ = registry.assignAll policy (registry.resolutionOrder.drop name.index) assigned := by
        rw [assignAll_append, hbefore]
        rfl
    _ = _ := by rw [List.drop_eq_getElem_cons hlt, hget, assignAll, he]

/-- When the pass comes to a derived name, the text of its base is there. -/
theorem ComesTo.exists_base (hb : registry.BasesFirst) (h : registry.ComesTo policy assigned name)
    {entry : NameEntry} {base : NameId} {derive : String → String}
    (he : registry.names[name.index]? = some entry) (hsource : entry.source = .derived base derive) :
    ∃ text, finalText? assigned base = some text
      ∧ displayText assigned entry.source = derive text := by
  obtain ⟨hg, hlength, -⟩ := h.greedy hb
  have hlt : base.index < assigned.length := hlength ▸ hb name.index entry base derive he hsource
  have htext := hg.finalText?_eq hlt
  refine ⟨_, htext, ?_⟩
  rw [hsource, displayText, textOf_eq_of_finalText? htext]

/-- After a resolution that succeeds, the text of each name is there. -/
theorem exists_final (hb : registry.BasesFirst) {texts : List String}
    (h : registry.resolve policy = .ok texts) :
    ∃ assigned, registry.assignAll policy registry.resolutionOrder [] = .ok assigned
      ∧ ∀ name, registry.HasName name →
        ∃ text, finalText? assigned name = some text ∧ texts[name.index]? = some text := by
  obtain ⟨assigned, hassigned, h⟩ := bind_eq_ok.mp h
  have hr := resolved_of_assignAll hb hassigned
  refine ⟨assigned, hassigned, fun name hname => ?_⟩
  have hsize : name.index < registry.size := hname
  have hlt : name.index < assigned.length := hr.length ▸ hsize
  have htext := hr.greedy.finalText?_eq hlt
  refine ⟨_, htext, ?_⟩
  cases h
  rw [List.getElem?_map, List.getElem?_range hsize, Option.map_some, textOf_eq_of_finalText? htext]

/-- Names are resolved in turn, and no text is missing when it is needed. -/
structure InTurn (registry : NameRegistry) (names : List NameId) : Prop where
  /-- The names are all those of the registry, each once and by position. -/
  numbered : registry.Numbered names
  /-- They are resolved in this order. -/
  order : registry.resolutionOrder = names
  /-- No name is ready after the last one, so a larger bound adds nothing. -/
  ends : ∀ bound, registry.size ≤ bound →
    registry.drain bound (registry.namesWith isPrimary) = names
  /-- When the pass comes to a name, the names before it have their texts and no others. -/
  passed : ∀ policy assigned name, registry.ComesTo policy assigned name →
    assigned.map AssignedName.name = names.take name.index
  /-- The pass goes on with this name and then with those after it. -/
  goesOn : ∀ policy assigned name, registry.ComesTo policy assigned name →
    ∃ entry, registry.names[name.index]? = some entry
      ∧ registry.assignAll policy names []
        = registry.assign policy assigned name entry >>= fun next =>
            registry.assignAll policy (names.drop (name.index + 1)) (assigned ++ [next])
  /-- If the name is derived, the text of its base is there. -/
  hasBase : ∀ policy assigned name entry base derive, registry.ComesTo policy assigned name →
    registry.names[name.index]? = some entry → entry.source = .derived base derive →
    ∃ text, finalText? assigned base = some text
      ∧ displayText assigned entry.source = derive text
  /-- A resolution that succeeds returns the text that each name has in the end. -/
  complete : ∀ policy texts, registry.resolve policy = .ok texts →
    ∃ assigned, registry.assignAll policy names [] = .ok assigned
      ∧ ∀ name, registry.HasName name →
        ∃ text, finalText? assigned name = some text ∧ texts[name.index]? = some text

/-- The names that the operations of a registry returned are resolved in turn, each once and
after its base, and no text is missing when it is needed. -/
theorem inTurn_of_issued (h : registry.Issued names) : registry.InTurn names := by
  obtain ⟨hnumbered, hb⟩ := h.numbered_and_basesFirst
  have horder : registry.resolutionOrder = names := (resolutionOrder_eq hb).trans hnumbered.symm
  refine
    { numbered := hnumbered
      order := horder
      ends := fun bound hbound => (drain_primary_eq hb hbound).trans hnumbered.symm
      passed := fun policy assigned name hcomes => ?_
      goesOn := fun policy assigned name hcomes => ?_
      hasBase := fun policy assigned name entry base derive hcomes he hsource =>
        hcomes.exists_base hb he hsource
      complete := fun policy texts hresolve => ?_ }
  · rw [← horder]
    exact hcomes.map_name hb
  · rw [← horder]
    exact hcomes.exists_entry hb
  · rw [← horder]
    exact exists_final hb hresolve

/-- A registry where a derived name is the base of another one and a primary name is
registered between them. -/
def forestRegistry : NameRegistry :=
  let (item, registry) := empty.registerPrimary global .type "id"
  let (getter, registry) := registry.registerDerived item .function fun name => "get_" ++ name
  let (inner, registry) := registry.addScope global "Inner" []
  let (_, registry) := registry.registerPrimary inner .property "id"
  let (_, registry) := registry.registerDerived getter .function fun name => "try_" ++ name
  (registry.registerDerivedIn inner item .function fun name => "set_" ++ name).2

/-- The registry has issued these names. -/
theorem forestRegistry_issued : forestRegistry.Issued [⟨0⟩, ⟨1⟩, ⟨2⟩, ⟨3⟩, ⟨4⟩] := by
  have hitem : Issued _ [⟨0⟩] := Issued.empty.registerPrimary global .type "id"
  have hgetter : Issued _ [⟨0⟩, ⟨1⟩] :=
    hitem.registerDerived List.mem_cons_self .function fun name => "get_" ++ name
  have hinner : Issued _ [⟨0⟩, ⟨1⟩, ⟨2⟩] :=
    (hgetter.addScope global "Inner" []).registerPrimary ⟨1⟩ .property "id"
  have htry : Issued _ [⟨0⟩, ⟨1⟩, ⟨2⟩, ⟨3⟩] :=
    hinner.registerDerived (List.mem_cons_of_mem _ List.mem_cons_self) .function
      fun name => "try_" ++ name
  exact htry.registerDerivedIn ⟨1⟩ List.mem_cons_self .function fun name => "set_" ++ name

/-- The names of a forest in turn: the pass comes to the name that derives from the getter
when the getter has its text. -/
theorem inTurn_forest :
    forestRegistry.Issued [⟨0⟩, ⟨1⟩, ⟨2⟩, ⟨3⟩, ⟨4⟩]
      ∧ forestRegistry.InTurn [⟨0⟩, ⟨1⟩, ⟨2⟩, ⟨3⟩, ⟨4⟩]
      ∧ forestRegistry.ComesTo .verbatim
          [⟨⟨0⟩, ⟨0⟩, "id"⟩, ⟨⟨1⟩, ⟨0⟩, "get_id"⟩, ⟨⟨2⟩, ⟨1⟩, "id2"⟩] ⟨3⟩
      ∧ forestRegistry.resolve .verbatim = .ok ["id", "get_id", "id2", "try_get_id", "set_id"] := by
  refine ⟨forestRegistry_issued, inTurn_of_issued forestRegistry_issued, ⟨3, ?_, ?_⟩, ?_⟩
  · decide +kernel
  · decide +kernel
  · decide +kernel

end Hydration.NameRegistry
