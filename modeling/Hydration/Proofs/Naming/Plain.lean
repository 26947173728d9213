import Hydration.Proofs.Naming.Registration

/-!
# The names of a graph, read plainly

The registry and its scopes can be left out of what the names of a graph are.
Globally, the type names are picked first, in declared order, and after them
the conversion functions of each class in turn. The names of the properties of
a class are picked among those of its own and the global ones up to its own
functions; the cases of an enum among its own and all global ones.
-/

namespace Hydration

namespace GraphNames

/-- The name of a class or enum, empty for any other type. -/
def nameOf (names : GraphNames) (id : TypeId) : String := (names.typeName? id).getD ""

/-- The names of the classes and enums of a graph, in declared order. -/
def typeTexts (names : GraphNames) (graph : TypeGraph) : List String :=
  graph.declared.map fun entry => names.nameOf entry.1

/-- The names of the declared types are the type texts. -/
theorem map_nameOf_declared (names : GraphNames) (graph : TypeGraph) :
    (graph.declared.map Prod.fst).map names.nameOf = names.typeTexts graph := by
  rw [List.map_map]
  rfl

/-- The names that are global, in the order in which they are picked. -/
def globalTexts (names : GraphNames) (graph : TypeGraph) : List String :=
  names.typeTexts graph ++ names.classes.values.flatMap ClassIdents.functionTexts

/-- The names of a graph are picked in the plain order. -/
structure Plain (names : GraphNames) (graph : TypeGraph) (policy : NamingPolicy) : Prop where
  /-- There is an entry for each class, in declared order. -/
  classes : List.Forall₂ (ForClass names.nameOf) names.classes.entries graph.classes
  /-- There is an entry for each enum, in declared order. -/
  enums : List.Forall₂ (ForEnum names.nameOf) names.enums.entries graph.enums
  /-- The type names come first. -/
  types : policy.PicksAll policy.reserved []
    (graph.declared.map fun entry => ⟨.type, entry.2, names.nameOf entry.1⟩)
  /-- The classes follow in declared order. -/
  classNames : policy.PicksClasses (names.typeTexts graph) names.classes.values
  /-- The cases of an enum are picked among all global names. -/
  caseNames : ∀ idents ∈ names.enums.values,
    policy.PicksAll policy.reserved (names.globalTexts graph) idents.picked

open NameRegistry NameAssignment

variable {graph : TypeGraph} {policy : NamingPolicy} {names : GraphNames}

/-- The names of the classes and enums are the ones of their entries. -/
theorem typeName?_eq {text : TypeId → String}
    (hclasses : List.Forall₂ (ForClass text) names.classes.entries graph.classes)
    (henums : List.Forall₂ (ForEnum text) names.enums.entries graph.enums)
    {id : TypeId} (hid : id ∈ graph.declared.map Prod.fst) :
    names.typeName? id = some (text id) := by
  rcases TypeGraph.mem_declared_iff.mp hid with hid | hid
  · obtain ⟨entry, hentry, rfl⟩ := List.mem_map.mp hid
    obtain ⟨index, hi⟩ := List.getElem?_of_mem hentry
    obtain ⟨idents, hget, -, hname, -⟩ := exists_of_entryFor hclasses hi
    rw [typeName?, hget]
    exact congrArg some hname
  · obtain ⟨entry, hentry, rfl⟩ := List.mem_map.mp hid
    obtain ⟨index, hi⟩ := List.getElem?_of_mem hentry
    obtain ⟨idents, hget, -, hname, -⟩ := exists_of_entryFor henums hi
    have hnone : names.classes.get? entry.1 = none := by
      rw [OrderedMap.get?, Entries.get?_eq_none_iff, ids_of_entryFor hclasses]
      exact fun hm => graph.disjoint_classes_enums hm hid
    rw [typeName?, hnone, hget]
    exact congrArg some hname

/-- A declared type has the name that its entry records. -/
theorem nameOf_eq {text : TypeId → String}
    (hclasses : List.Forall₂ (ForClass text) names.classes.entries graph.classes)
    (henums : List.Forall₂ (ForEnum text) names.enums.entries graph.enums)
    {id : TypeId} (hid : id ∈ graph.declared.map Prod.fst) : names.nameOf id = text id := by
  rw [nameOf, typeName?_eq hclasses henums hid, Option.getD_some]

/-- The texts that are collected are those of the resolution. -/
theorem text_eq {final : NameRegistry} {assigned : List AssignedName}
    (hr : final.Resolved policy assigned) :
    (fun name : NameId => (assigned.map AssignedName.text).toArray[name.index]?.getD "")
      = textOf assigned := by
  funext name
  rw [List.getElem?_toArray, List.getElem?_map]
  by_cases hlt : name.index < assigned.length
  · have hnext := List.getElem?_eq_getElem hlt
    rw [hnext, hr.greedy.textOf_eq hnext]
    rfl
  · rw [List.getElem?_eq_none (by omega), hr.greedy.textOf_of_length_le (by omega)]
    rfl

/-- The identifiers are collected from the texts of the resolution. -/
theorem collect_eq {assignment : NameAssignment} {assigned : List AssignedName}
    (hr : assignment.registry.Resolved policy assigned) :
    assignment.collect (assigned.map AssignedName.text)
      = ⟨OrderedMap.ofList (assignment.classes.map fun entry =>
          (entry.1, classIdents (textOf assigned) entry.2)),
        OrderedMap.ofList (assignment.enums.map fun entry =>
          (entry.1, enumIdents (textOf assigned) entry.2))⟩ := by
  rw [collect, text_eq hr]

/-! ## The whole graph -/

/-- The registry before any name, with the reserved words. -/
def startStage (policy : NamingPolicy) : NameRegistry := empty.forbid global policy.reserved

/-- The type names and the registry after them. -/
def typeStage (graph : TypeGraph) (policy : NamingPolicy) : List (TypeId × NameId) × NameRegistry :=
  typeNames graph graph.ids (startStage policy)

/-- The names of the classes and the registry after them. -/
def classStage (graph : TypeGraph) (policy : NamingPolicy) :
    List (TypeId × ClassNames) × NameRegistry :=
  classNames graph policy (typeStage graph policy).1 graph.classes (typeStage graph policy).2

/-- Naming the types grows the registry. -/
theorem typeStage_grows (graph : TypeGraph) (policy : NamingPolicy) :
    (startStage policy).Grows (typeStage graph policy).2 := by
  have hstart : (startStage policy).WellFormed := (Built.forbid .empty (by decide) _).wellFormed
  exact (typeNames_registers graph.nodup_ids _).grows hstart hstart.globalScope

/-- Once the types are named every class has a global name. -/
theorem typeStage_hasName (policy : NamingPolicy) :
    ∀ id ∈ graph.classes.map Prod.fst,
      (typeStage graph policy).2.HasNameIn global (typeName (typeStage graph policy).1 id) :=
  fun _ hid => typeNames_hasName graph.nodup_ids _ (TypeGraph.mem_declared_iff.mpr (Or.inl hid))

/-- Naming the parts of classes grows the registry. -/
theorem classStage_grows (graph : TypeGraph) (policy : NamingPolicy) :
    (typeStage graph policy).2.Grows (classStage graph policy).2 :=
  classNames_grows (typeStage_grows graph policy).wellFormed (typeStage_hasName policy) graph policy

/-- Naming the cases of enums grows the registry. -/
theorem ofGraph_grows (graph : TypeGraph) (policy : NamingPolicy) :
    (classStage graph policy).2.Grows (ofGraph graph policy).registry :=
  enumNames_grows (classStage_grows graph policy).wellFormed _ _

/-- The name of a declared type as it is registered. -/
def registeredName (graph : TypeGraph) (policy : NamingPolicy) (id : TypeId) : NameId :=
  typeName (typeStage graph policy).1 id

section Resolution

variable {assigned : List AssignedName}

/-- A successful resolution collects the texts of all registered names. -/
theorem exists_rooted (h : resolve graph policy = .ok names) :
    ∃ assigned, (ofGraph graph policy).registry.Rooted policy assigned
      ∧ names = (ofGraph graph policy).collect (assigned.map AssignedName.text) := by
  obtain ⟨texts, hresolve, h⟩ := bind_eq_ok.mp h
  have henums := ofGraph_grows graph policy
  obtain ⟨assigned, -, hr, rfl⟩ := resolved_of_resolve henums.wellFormed hresolve
  cases h
  have hstart := (typeStage_grows graph policy).trans ((classStage_grows graph policy).trans henums)
  exact ⟨assigned, ⟨hr, henums.wellFormed, getElem?_of_initial hstart.scopes rfl⟩, rfl⟩

/-- The identifiers of the classes, given the text of each name. -/
def classEntries (graph : TypeGraph) (policy : NamingPolicy) (text : NameId → String) :
    List (TypeId × ClassIdents) :=
  (classStage graph policy).1.map fun entry => (entry.1, classIdents text entry.2)

/-- The identifiers of the enums, given the text of each name. -/
def enumEntries (graph : TypeGraph) (policy : NamingPolicy) (text : NameId → String) :
    List (TypeId × EnumIdents) :=
  (ofGraph graph policy).enums.map fun entry => (entry.1, enumIdents text entry.2)

/-- Every class has an entry with its name. -/
theorem classEntries_forClass (graph : TypeGraph) (policy : NamingPolicy)
    (text : NameId → String) :
    List.Forall₂ (ForClass fun id => text (registeredName graph policy id))
      (classEntries graph policy text) graph.classes :=
  classNames_forClass _ _ _ _

/-- Every enum has an entry with its name. -/
theorem enumEntries_forEnum (graph : TypeGraph) (policy : NamingPolicy)
    (text : NameId → String) :
    List.Forall₂ (ForEnum fun id => text (registeredName graph policy id))
      (enumEntries graph policy text) graph.enums :=
  enumNames_forEnum _ _ _ _

/-- The identifiers that are collected have the entries of the classes and enums. -/
theorem entries_collect (hr : (ofGraph graph policy).registry.Rooted policy assigned) :
    ((ofGraph graph policy).collect (assigned.map AssignedName.text)).classes.entries
        = classEntries graph policy (textOf assigned)
      ∧ ((ofGraph graph policy).collect (assigned.map AssignedName.text)).enums.entries
        = enumEntries graph policy (textOf assigned) := by
  rw [collect_eq hr.toResolved]
  exact ⟨entries_of_entryFor (classEntries_forClass graph policy _) graph.nodup_classes,
    entries_of_entryFor (enumEntries_forEnum graph policy _) graph.nodup_enums⟩

/-- The type names are picked first. -/
theorem typeStage_stretch (hr : (ofGraph graph policy).registry.Rooted policy assigned)
    {text : TypeId → String}
    (hname : ∀ id ∈ graph.declared.map Prod.fst,
      text id = textOf assigned (registeredName graph policy id)) :
    Stretch policy assigned [global] policy.reserved (startStage policy)
      (typeStage graph policy).2
      (graph.declared.map fun entry => ⟨.type, entry.2, text entry.1⟩) := by
  have hafter := (classStage_grows graph policy).trans (ofGraph_grows graph policy)
  have hstretch := hr.stretch (level_global hr.root)
    (typeNames_registers graph.nodup_ids (startStage policy)) hafter.toExtends
  have hpicked : (registeredTypes (typeStage graph policy).1 graph.declared).map
      (Registered.picked (textOf assigned))
        = graph.declared.map fun entry => ⟨.type, entry.2, text entry.1⟩ := by
    rw [registeredTypes, List.map_map]
    exact List.map_congr_left fun entry hentry => by
      rw [hname entry.1 (List.mem_map_of_mem hentry)]
      rfl
  exact hpicked ▸ hstretch

/-- A successful resolution picks the names in the plain order. -/
theorem plain_of_resolve (h : resolve graph policy = .ok names) : names.Plain graph policy := by
  obtain ⟨assigned, hr, hcollect⟩ := exists_rooted h
  have hentries := entries_collect hr
  rw [← hcollect] at hentries
  obtain ⟨hclassEntries, henumEntries⟩ := hentries
  have hclassFor := classEntries_forClass graph policy (textOf assigned)
  have henumFor := enumEntries_forEnum graph policy (textOf assigned)
  rw [← hclassEntries] at hclassFor
  rw [← henumEntries] at henumFor
  have hname : ∀ id ∈ graph.declared.map Prod.fst,
      names.nameOf id = textOf assigned (registeredName graph policy id) :=
    fun id hid => nameOf_eq hclassFor henumFor hid
  have htyped := typeStage_stretch hr hname
  have htexts : (typeStage graph policy).2.textsIn assigned [global] = names.typeTexts graph := by
    refine htyped.texts.trans ?_
    rw [List.map_map]
    rfl
  have hvalues : (classStage graph policy).1.map
      (fun entry => classIdents (textOf assigned) entry.2) = names.classes.values := by
    rw [OrderedMap.values, hclassEntries, classEntries, List.map_map]
    rfl
  obtain ⟨hclassPicks, hclassTexts⟩ := classNames_picks hr (typeStage_grows graph policy).wellFormed
    (typeStage_hasName policy) hvalues (ofGraph_grows graph policy).toExtends
  rw [htexts] at hclassPicks hclassTexts
  have hcasePicks := enumNames_picks hr (classStage_grows graph policy).wellFormed (.refl _)
  refine
    { classes := entryFor_congr hclassFor fun id hid =>
        (hname id (TypeGraph.mem_declared_iff.mpr (Or.inl hid))).symm
      enums := entryFor_congr henumFor fun id hid =>
        (hname id (TypeGraph.mem_declared_iff.mpr (Or.inr hid))).symm
      types := htyped.picks
      classNames := hclassPicks
      caseNames := fun idents hidents => ?_ }
  rw [OrderedMap.values, henumEntries, enumEntries, List.map_map] at hidents
  obtain ⟨entry, hentry, rfl⟩ := List.mem_map.mp hidents
  rw [globalTexts, ← hclassTexts]
  exact hcasePicks entry hentry

end Resolution

/-! ## Names that collide -/

/-- A class and an enum of one name; the second field is called as the getter of the
first one is. -/
def itemGraph : TypeGraph where
  types := [.string,
    .classType ⟨"Item", ⟨[("id", ⟨⟨0⟩, false⟩), ("get_id2", ⟨⟨0⟩, true⟩)], by decide⟩⟩,
    .enumType ⟨"Item", ⟨["new", "Item"], by decide⟩⟩]
  topLevels := .empty
  sound := by decide

/-- No styling, and a word reserved everywhere and one for properties. -/
def itemPolicy : NamingPolicy :=
  { NamingPolicy.verbatim with reserved := ["new"], propertyReserved := ["id"] }

/-- The identifiers that the policy gives. -/
def itemNames : GraphNames where
  classes := ⟨[(⟨1⟩, ⟨"Item", "Item_to_json", "Item_from_json",
    ⟨[("id", ⟨"id2", "get_id2", "set_id2", "hydrate_id2", "dehydrate_id2", false⟩),
      ("get_id2", ⟨"get_id22", "get_get_id22", "set_get_id22", "hydrate_get_id22",
        "dehydrate_get_id22", true⟩)], by decide⟩⟩)], by decide⟩
  enums := ⟨[(⟨2⟩, ⟨"Item2", ⟨[("new", "new2"), ("Item", "Item3")], by decide⟩⟩)], by decide⟩

end GraphNames

end Hydration
