import Hydration.Naming.Assignment
import Hydration.Proofs.Naming.Stages
import Hydration.Proofs.TypeGraph

/-!
# Registration of a graph

What the walk over a graph registers, and which texts a resolution of the final
registry picks for it. Each part of the walk has three lemmas: the registry
grows, the names that it returns have the keys of what they are for, and their
texts are picked one after the other among those of the stage before.
-/

namespace Hydration

/-! ## What is picked -/

/-- The names of a property as they are picked. -/
def PropertyIdents.picked (templates : DerivedTemplates) (key : String) (idents : PropertyIdents) :
    List PickedName :=
  [⟨.property, key, idents.name⟩, ⟨.function, templates.getter idents.name, idents.getter⟩,
    ⟨.function, templates.setter idents.name, idents.setter⟩,
    ⟨.function, templates.hydrator idents.name, idents.hydrator⟩,
    ⟨.function, templates.dehydrator idents.name, idents.dehydrator⟩]

/-- The names of the properties of a class as they are picked. -/
def ClassIdents.pickedProperties (templates : DerivedTemplates) (idents : ClassIdents) :
    List PickedName :=
  idents.properties.entries.flatMap fun entry => entry.2.picked templates entry.1

/-- The functions of a class as they are picked. -/
def ClassIdents.pickedFunctions (templates : DerivedTemplates) (idents : ClassIdents) :
    List PickedName :=
  [⟨.function, templates.classHydrate idents.name, idents.hydrate⟩,
    ⟨.function, templates.classDehydrate idents.name, idents.dehydrate⟩]

/-- The names of the functions of a class. -/
def ClassIdents.functionTexts (idents : ClassIdents) : List String :=
  [idents.hydrate, idents.dehydrate]

/-- The cases of an enum as they are picked. -/
def EnumIdents.picked (idents : EnumIdents) : List PickedName :=
  idents.cases.entries.map fun entry => ⟨.enumCase, entry.1, entry.2⟩

/-- The names of classes are picked one class after the other: the functions
globally, then the properties among them. -/
def NamingPolicy.PicksClasses (policy : NamingPolicy) : List String → List ClassIdents → Prop
  | _, [] => True
  | globals, idents :: rest =>
    policy.PicksAll policy.reserved globals (idents.pickedFunctions policy.templates)
      ∧ policy.PicksAll (policy.propertyReserved ++ policy.reserved)
          (globals ++ idents.functionTexts) (idents.pickedProperties policy.templates)
      ∧ policy.PicksClasses (globals ++ idents.functionTexts) rest

/-- An entry is the one for a declared type: it has its id, its name and its keys. -/
structure EntryFor {ι σ : Type} (nameOf : ι → String) (keysOf : ι → List String)
    (declaredKeys : σ → List String) (name : TypeId → String) (found : TypeId × ι)
    (entry : TypeId × σ) : Prop where
  /-- The ids are the same. -/
  id : found.1 = entry.1
  /-- The name is the one of the type. -/
  name : nameOf found.2 = name entry.1
  /-- The keys are the ones of the type, in order. -/
  keys : keysOf found.2 = declaredKeys entry.2

/-- An entry is the one for a class, with one property for each field. -/
abbrev ForClass : (TypeId → String) → TypeId × ClassIdents → TypeId × ClassType → Prop :=
  EntryFor ClassIdents.name (fun idents => idents.properties.keys) fun shape => shape.fields.keys

/-- An entry is the one for an enum, with one name for each case. -/
abbrev ForEnum : (TypeId → String) → TypeId × EnumIdents → TypeId × EnumType → Prop :=
  EntryFor EnumIdents.name (fun idents => idents.cases.keys) fun shape => shape.cases.toList

section EntryFor

variable {ι σ : Type} {nameOf : ι → String} {keysOf : ι → List String}
  {declaredKeys : σ → List String} {name : TypeId → String} {declared : List (TypeId × σ)}

/-- The entry for a declared type stands at its place, and it is found by its id. -/
theorem exists_of_entryFor {map : OrderedMap TypeId ι}
    (h : List.Forall₂ (EntryFor nameOf keysOf declaredKeys name) map.entries declared)
    {index : Nat} {entry : TypeId × σ} (hi : declared[index]? = some entry) :
    ∃ found, map.get? entry.1 = some found ∧ map.values[index]? = some found
      ∧ nameOf found = name entry.1 ∧ keysOf found = declaredKeys entry.2 := by
  obtain ⟨⟨id, found⟩, hfound, hfor⟩ := getElem?_of_forall₂ h hi
  obtain rfl : id = entry.1 := hfor.id
  refine ⟨found, ?_, ?_, hfor.name, hfor.keys⟩
  · exact Entries.get?_of_mem map.nodup (List.mem_of_getElem? hfound)
  · rw [OrderedMap.values, List.getElem?_map, hfound, Option.map_some]

variable {entries : List (TypeId × ι)}
  (h : List.Forall₂ (EntryFor nameOf keysOf declaredKeys name) entries declared)

include h

/-- Entries have the ids of the declared types. -/
theorem ids_of_entryFor : entries.map Prod.fst = declared.map Prod.fst := by
  induction h with
  | nil => rfl
  | cons hfor _ ih => rw [List.map_cons, List.map_cons, hfor.id, ih]

/-- Entries have the names of the declared types. -/
theorem names_of_entryFor :
    (entries.map Prod.snd).map nameOf = (declared.map Prod.fst).map name := by
  induction h with
  | nil => rfl
  | cons hfor _ ih => simp only [List.map_cons, hfor.name, ih]

/-- Entries for declared types are entries under any name that the types have. -/
theorem entryFor_congr {other : TypeId → String}
    (hname : ∀ id ∈ declared.map Prod.fst, name id = other id) :
    List.Forall₂ (EntryFor nameOf keysOf declaredKeys other) entries declared :=
  forall₂_imp_of_mem h fun _ _ entry hentry hfor =>
    ⟨hfor.id, hfor.name.trans (hname entry.1 (List.mem_map_of_mem hentry)), hfor.keys⟩

/-- Entries for declared types are collected as they are. -/
theorem entries_of_entryFor (hn : (declared.map Prod.fst).Nodup) :
    (OrderedMap.ofList entries).entries = entries :=
  OrderedMap.entries_ofList (ids_of_entryFor h ▸ hn)

end EntryFor

/-- The names of a property as they are registered. -/
def PropertyNames.registered (templates : DerivedTemplates) (names : PropertyNames) :
    List NameRegistry.Registered :=
  [⟨.property, fun _ => names.key, names.name⟩,
    ⟨.function, fun text => templates.getter (text names.name), names.getter⟩,
    ⟨.function, fun text => templates.setter (text names.name), names.setter⟩,
    ⟨.function, fun text => templates.hydrator (text names.name), names.hydrator⟩,
    ⟨.function, fun text => templates.dehydrator (text names.name), names.dehydrator⟩]

/-- The functions of a class as they are registered. -/
def ClassNames.registered (templates : DerivedTemplates) (names : ClassNames) :
    List NameRegistry.Registered :=
  [⟨.function, fun text => templates.classHydrate (text names.name), names.hydrate⟩,
    ⟨.function, fun text => templates.classDehydrate (text names.name), names.dehydrate⟩]

namespace NameAssignment

open NameRegistry

variable {graph : TypeGraph} {policy : NamingPolicy} {final registry : NameRegistry}
  {assigned : List AssignedName} {scope : ScopeId} {scopes : List ScopeId}
  {forbidden : List String}

/-! ## Type names -/

/-- The first of the names is that of its type. -/
theorem typeName_cons_self (id : TypeId) (name : NameId) (names : List (TypeId × NameId)) :
    typeName ((id, name) :: names) id = name := by
  rw [typeName, Entries.get?, if_pos rfl, Option.getD_some]

/-- A type other than the first has its name among the rest. -/
theorem typeName_cons_of_ne {id other : TypeId} (h : id ≠ other) (name : NameId)
    (names : List (TypeId × NameId)) :
    typeName ((id, name) :: names) other = typeName names other := by
  rw [typeName, Entries.get?, if_neg h, typeName]

/-- The type names as they are registered. -/
def registeredTypes (names : List (TypeId × NameId)) (entries : List (TypeId × String)) :
    List Registered :=
  entries.map fun entry => ⟨.type, fun _ => entry.2, typeName names entry.1⟩

/-- The registered types are the first one and the rest. -/
theorem registeredTypes_cons {id : TypeId} {entries : List (TypeId × String)}
    (h : id ∉ entries.map Prod.fst) (name : NameId) (names : List (TypeId × NameId))
    (display : String) :
    registeredTypes ((id, name) :: names) ((id, display) :: entries)
      = ⟨.type, fun _ => display, name⟩ :: registeredTypes names entries := by
  have hrest : registeredTypes ((id, name) :: names) entries = registeredTypes names entries :=
    List.map_congr_left fun entry hentry => by
      have hne : id ≠ entry.1 := by
        rintro rfl
        exact h (List.mem_map_of_mem hentry)
      rw [typeName_cons_of_ne hne]
  rw [← hrest, registeredTypes, List.map_cons, typeName_cons_self, registeredTypes]

/-- The classes and enums are registered globally in declared order. -/
theorem typeNames_registers {ids : List TypeId} (hn : ids.Nodup) (registry : NameRegistry) :
    Registers global registry (typeNames graph ids registry).2
      (registeredTypes (typeNames graph ids registry).1 (graph.declaredAmong ids)) := by
  induction ids generalizing registry with
  | nil => exact .refl registry
  | cons first rest ih =>
    obtain ⟨hfirst, hn⟩ := List.nodup_cons.mp hn
    cases hd : graph.displayName? first with
    | none =>
      rw [TypeGraph.declaredAmong_cons_none hd]
      simp only [typeNames, hd]
      exact ih hn registry
    | some display =>
      have hnew : first ∉ (graph.declaredAmong rest).map Prod.fst :=
        fun hm => hfirst ((keys_filterMap_sublist graph.displayName? rest).subset hm)
      rw [TypeGraph.declaredAmong_cons_some hd]
      simp only [typeNames, hd]
      rw [registeredTypes_cons hnew]
      exact .primary .type display (ih hn _)

/-- Every class and enum gets a global name. -/
theorem typeNames_hasName {ids : List TypeId} (hn : ids.Nodup) (registry : NameRegistry)
    {id : TypeId} (hid : id ∈ (graph.declaredAmong ids).map Prod.fst) :
    (typeNames graph ids registry).2.HasNameIn global
      (typeName (typeNames graph ids registry).1 id) := by
  obtain ⟨entry, hentry, rfl⟩ := List.mem_map.mp hid
  exact (typeNames_registers hn registry).hasNameIn _ (List.mem_map_of_mem hentry)

/-! ## Properties -/

/-- The names of a property are registered in its scope. -/
theorem propertyNames_registers (graph : TypeGraph) (templates : DerivedTemplates)
    (scope : ScopeId) (key : String) (field : Field) (registry : NameRegistry) :
    Registers scope registry (propertyNames graph templates scope key field registry).2
      ((propertyNames graph templates scope key field registry).1.registered templates) := by
  let named := registry.registerPrimary scope .property key
  let getter := named.2.registerDerived named.1 .function templates.getter
  let setter := getter.2.registerDerived named.1 .function templates.setter
  let hydrator := setter.2.registerDerived named.1 .function templates.hydrator
  have hnamed : named.2.HasNameIn scope named.1 := hasNameIn_register _ _
  have hgetter : getter.2.HasNameIn scope named.1 := hnamed.mono (extends_register _ _)
  have hsetter : setter.2.HasNameIn scope named.1 := hgetter.mono (extends_register _ _)
  have hhydrator : hydrator.2.HasNameIn scope named.1 := hsetter.mono (extends_register _ _)
  refine .primary .property key ?_
  refine .derived hnamed .function templates.getter ?_
  refine .derived hgetter .function templates.setter ?_
  refine .derived hsetter .function templates.hydrator ?_
  exact .derived hhydrator .function templates.dehydrator (.refl _)

/-- The names of properties are registered one property after the other. -/
theorem allPropertyNames_registers (graph : TypeGraph) (templates : DerivedTemplates)
    (scope : ScopeId) (fields : List (String × Field)) (registry : NameRegistry) :
    Registers scope registry (allPropertyNames graph templates scope fields registry).2
      ((allPropertyNames graph templates scope fields registry).1.flatMap
        (PropertyNames.registered templates)) := by
  induction fields generalizing registry with
  | nil => exact .refl registry
  | cons entry rest ih =>
    exact (propertyNames_registers graph templates scope entry.1 entry.2 registry).trans (ih _)

/-- The properties have the keys of the fields. -/
theorem allPropertyNames_keys (graph : TypeGraph) (templates : DerivedTemplates)
    (scope : ScopeId) (fields : List (String × Field)) (registry : NameRegistry) :
    (allPropertyNames graph templates scope fields registry).1.map PropertyNames.key
      = fields.map Prod.fst := by
  induction fields generalizing registry with
  | nil => rfl
  | cons entry rest ih => exact congrArg (entry.1 :: ·) (ih _)

section ClassIdents

variable {names : ClassNames} (hn : (names.properties.map PropertyNames.key).Nodup)
  (text : NameId → String)

include hn

/-- Properties with distinct keys are collected as they are. -/
theorem classIdents_properties : (classIdents text names).properties.entries
    = names.properties.map fun property => (property.key, propertyIdents text property) :=
  OrderedMap.entries_ofList_map _ _ hn

/-- A class has identifiers for each of its keys. -/
theorem classIdents_keys :
    (classIdents text names).properties.keys = names.properties.map PropertyNames.key := by
  rw [OrderedMap.keys, classIdents_properties hn, List.map_map]
  rfl

/-- The properties of a class are picked as they are registered. -/
theorem pickedProperties_classIdents (templates : DerivedTemplates) :
    (classIdents text names).pickedProperties templates
      = (names.properties.flatMap (PropertyNames.registered templates)).map
          (Registered.picked text) := by
  rw [ClassIdents.pickedProperties, classIdents_properties hn, List.flatMap_map, List.map_flatMap]
  rfl

end ClassIdents

/-! ## Cases -/

/-- The cases of an enum as they are registered. -/
def registeredCases (cases : List (String × NameId)) : List Registered :=
  cases.map fun entry => ⟨.enumCase, fun _ => entry.1, entry.2⟩

/-- The cases of an enum are registered one after the other. -/
theorem caseNames_registers (scope : ScopeId) (tags : List String) (registry : NameRegistry) :
    Registers scope registry (caseNames scope tags registry).2
      (registeredCases (caseNames scope tags registry).1) := by
  induction tags generalizing registry with
  | nil => exact .refl registry
  | cons tag rest ih => exact .primary .enumCase tag (ih _)

/-- Every case has a name. -/
theorem caseNames_keys (scope : ScopeId) (tags : List String) (registry : NameRegistry) :
    (caseNames scope tags registry).1.map Prod.fst = tags := by
  induction tags generalizing registry with
  | nil => rfl
  | cons tag rest ih => exact congrArg (tag :: ·) (ih _)

section EnumIdents

variable {cases : List (String × NameId)} (hn : (cases.map Prod.fst).Nodup) (name : NameId)
  (text : NameId → String)

include hn

/-- Cases with distinct tags are collected as they are. -/
theorem enumIdents_cases : (enumIdents text ⟨name, cases⟩).cases.entries
    = cases.map fun entry => (entry.1, text entry.2) :=
  OrderedMap.entries_ofList_map _ _ hn

/-- An enum has an identifier for each of its cases. -/
theorem enumIdents_keys : (enumIdents text ⟨name, cases⟩).cases.keys = cases.map Prod.fst := by
  rw [OrderedMap.keys, enumIdents_cases hn, List.map_map]
  rfl

/-- The cases of an enum are picked as they are registered. -/
theorem picked_enumIdents : (enumIdents text ⟨name, cases⟩).picked
    = (registeredCases cases).map (Registered.picked text) := by
  rw [EnumIdents.picked, enumIdents_cases hn, List.map_map, registeredCases, List.map_map]
  rfl

end EnumIdents

/-! ## Classes -/

/-- What is registered for a class: its functions globally, and its properties in a
new scope. -/
theorem registerClass_registers (graph : TypeGraph) (policy : NamingPolicy)
    {name : NameId} (hn : registry.HasNameIn global name) (shape : ClassType)
    {names : ClassNames} {later : NameRegistry}
    (h : registerClass graph policy name shape registry = (names, later)) :
    ∃ middle, Registers global registry middle (names.registered policy.templates)
      ∧ Registers (middle.addScope global shape.name policy.propertyReserved).1
        (middle.addScope global shape.name policy.propertyReserved).2 later
        (names.properties.flatMap (PropertyNames.registered policy.templates))
      ∧ names.properties.map PropertyNames.key = shape.fields.keys
      ∧ names.name = name := by
  cases h
  let hydrate := registry.registerDerived name .function policy.templates.classHydrate
  have hn' : hydrate.2.HasNameIn global name := hn.mono (extends_register _ _)
  refine ⟨_, ?_, allPropertyNames_registers _ _ _ _ _, allPropertyNames_keys _ _ _ _ _, rfl⟩
  exact .derived hn .function _ (.derived hn' .function _ (.refl _))

/-- Registering a class grows the registry. -/
theorem registerClass_grows (hw : registry.WellFormed) (graph : TypeGraph)
    (policy : NamingPolicy) {name : NameId} (hn : registry.HasNameIn global name)
    (shape : ClassType) : registry.Grows (registerClass graph policy name shape registry).2 := by
  obtain ⟨middle, hfunctions, hproperties, -⟩ :=
    registerClass_registers graph policy hn shape rfl
  have hmiddle := hfunctions.grows hw hw.globalScope
  have hopen := hmiddle.wellFormed.grows_addScope hmiddle.wellFormed.globalScope shape.name
    policy.propertyReserved
  exact hmiddle.trans (hopen.trans
    (hproperties.grows hopen.wellFormed (hasScope_addScope _ _ _ _)))

/-- The functions of a class are picked globally, and its properties among them. -/
theorem registerClass_picks (hr : final.Rooted policy assigned) (hw : registry.WellFormed)
    {name : NameId} (hn : registry.HasNameIn global name) {shape : ClassType}
    {names : ClassNames} {later : NameRegistry}
    (h : registerClass graph policy name shape registry = (names, later))
    (he : later.Extends final) :
    policy.PicksAll policy.reserved (registry.textsIn assigned [global])
        ((classIdents (textOf assigned) names).pickedFunctions policy.templates)
      ∧ policy.PicksAll (policy.propertyReserved ++ policy.reserved)
          (registry.textsIn assigned [global]
            ++ (classIdents (textOf assigned) names).functionTexts)
          ((classIdents (textOf assigned) names).pickedProperties policy.templates)
      ∧ later.textsIn assigned [global] = registry.textsIn assigned [global]
        ++ (classIdents (textOf assigned) names).functionTexts := by
  obtain ⟨middle, hfunctions, hproperties, hkeys, -⟩ :=
    registerClass_registers graph policy hn shape h
  have hw' := (hfunctions.grows hw hw.globalScope).wellFormed
  have hopened := hproperties.extends.trans he
  have hglobal := hr.stretch (level_global hr.root) hfunctions
    ((extends_addScope _ _ _ _).trans hopened)
  obtain ⟨hlevel, hstart⟩ := hr.nested hw' hopened
  have hpicks := (hr.stretch hlevel hproperties he).picks
  have houtside := hr.textsIn_registers hproperties he (hw'.addScope_ne_global _ _ _)
  refine ⟨hglobal.picks, ?_, houtside.trans hglobal.texts⟩
  rw [pickedProperties_classIdents (by rw [hkeys]; exact shape.fields.nodup)]
  exact (hstart.trans hglobal.texts) ▸ hpicks

/-- Registering classes one after the other grows the registry. -/
theorem classNames_grows {names : List (TypeId × NameId)} {classes : List (TypeId × ClassType)}
    (hw : registry.WellFormed)
    (hn : ∀ id ∈ classes.map Prod.fst, registry.HasNameIn global (typeName names id))
    (graph : TypeGraph) (policy : NamingPolicy) :
    registry.Grows (classNames graph policy names classes registry).2 := by
  induction classes generalizing registry with
  | nil => exact hw.grows
  | cons entry rest ih =>
    have hfirst := registerClass_grows hw graph policy (hn entry.1 List.mem_cons_self) entry.2
    refine hfirst.trans (ih hfirst.wellFormed fun id hid => ?_)
    exact (hn id (List.mem_cons_of_mem _ hid)).mono hfirst.toExtends

/-- The classes are picked one after the other. -/
theorem classNames_picks (hr : final.Rooted policy assigned) (hw : registry.WellFormed)
    {names : List (TypeId × NameId)} {classes : List (TypeId × ClassType)}
    (hn : ∀ id ∈ classes.map Prod.fst, registry.HasNameIn global (typeName names id))
    {found : List ClassIdents}
    (hfound : (classNames graph policy names classes registry).1.map
      (fun entry => classIdents (textOf assigned) entry.2) = found)
    (he : (classNames graph policy names classes registry).2.Extends final) :
    policy.PicksClasses (registry.textsIn assigned [global]) found
      ∧ (classNames graph policy names classes registry).2.textsIn assigned [global]
        = registry.textsIn assigned [global] ++ found.flatMap ClassIdents.functionTexts := by
  induction classes generalizing registry found with
  | nil =>
    subst hfound
    exact ⟨trivial, (List.append_nil _).symm⟩
  | cons entry rest ih =>
    have hname := hn entry.1 List.mem_cons_self
    have hfirst := registerClass_grows hw graph policy hname entry.2
    have hn' : ∀ id ∈ rest.map Prod.fst, (registerClass graph policy (typeName names entry.1)
        entry.2 registry).2.HasNameIn global (typeName names id) :=
      fun id hid => (hn id (List.mem_cons_of_mem _ hid)).mono hfirst.toExtends
    have hrest := (classNames_grows hfirst.wellFormed hn' graph policy).toExtends
    obtain ⟨hfunctions, hproperties, htexts⟩ :=
      registerClass_picks hr hw hname (Prod.eta _).symm (hrest.trans he)
    obtain ⟨hclasses, hafter⟩ := ih hfirst.wellFormed hn' rfl he
    rw [htexts] at hclasses hafter
    subst hfound
    refine ⟨⟨hfunctions, hproperties, hclasses⟩, ?_⟩
    rw [List.append_assoc] at hafter
    exact hafter

/-- There is an entry for each class. -/
theorem classNames_forClass (text : NameId → String) (names : List (TypeId × NameId))
    (classes : List (TypeId × ClassType)) (registry : NameRegistry) :
    List.Forall₂ (ForClass fun id => text (typeName names id))
      ((classNames graph policy names classes registry).1.map fun entry =>
        (entry.1, classIdents text entry.2)) classes := by
  induction classes generalizing registry with
  | nil => exact .nil
  | cons entry rest ih =>
    have hkeys : (registerClass graph policy (typeName names entry.1) entry.2
        registry).1.properties.map PropertyNames.key = entry.2.fields.keys :=
      allPropertyNames_keys _ _ _ _ _
    have hn := entry.2.fields.nodup
    rw [← OrderedMap.keys, ← hkeys] at hn
    exact .cons ⟨rfl, rfl, (classIdents_keys hn text).trans hkeys⟩ (ih _)

/-! ## Enums -/

/-- The cases of an enum are registered in a scope of its own. -/
theorem registerEnum_registers (shape : EnumType) (registry : NameRegistry) :
    Registers (registry.addScope global shape.name []).1
      (registry.addScope global shape.name []).2 (registerEnum shape registry).2
      (registeredCases (registerEnum shape registry).1) :=
  caseNames_registers _ _ _

/-- No case of an enum is registered twice. -/
theorem nodup_registerEnum (shape : EnumType) (registry : NameRegistry) :
    ((registerEnum shape registry).1.map Prod.fst).Nodup := by
  rw [registerEnum, caseNames_keys]
  exact shape.cases.nodup

/-- Registering an enum grows the registry. -/
theorem registerEnum_grows (hw : registry.WellFormed) (shape : EnumType) :
    registry.Grows (registerEnum shape registry).2 := by
  have hopen := hw.grows_addScope hw.globalScope shape.name []
  exact hopen.trans ((registerEnum_registers shape registry).grows hopen.wellFormed
    (hasScope_addScope _ _ _ _))

/-- Registering enums one after the other grows the registry. -/
theorem enumNames_grows (hw : registry.WellFormed) (names : List (TypeId × NameId))
    (enums : List (TypeId × EnumType)) :
    registry.Grows (enumNames names enums registry).2 := by
  induction enums generalizing registry with
  | nil => exact hw.grows
  | cons entry rest ih =>
    have hfirst := registerEnum_grows hw entry.2
    exact hfirst.trans (ih hfirst.wellFormed)

/-- The cases of each enum are picked among the global names. -/
theorem enumNames_picks (hr : final.Rooted policy assigned) (hw : registry.WellFormed)
    {names : List (TypeId × NameId)} {enums : List (TypeId × EnumType)}
    (he : (enumNames names enums registry).2.Extends final) :
    ∀ entry ∈ (enumNames names enums registry).1,
      policy.PicksAll policy.reserved (registry.textsIn assigned [global])
        (enumIdents (textOf assigned) entry.2).picked := by
  induction enums generalizing registry with
  | nil => simp [enumNames]
  | cons entry rest ih =>
    have hregisters := registerEnum_registers entry.2 registry
    have hfirst := registerEnum_grows hw entry.2
    have hafter := (enumNames_grows hfirst.wellFormed names rest).toExtends.trans he
    rintro found hfound
    rcases List.mem_cons.mp hfound with rfl | hfound
    · obtain ⟨hlevel, hstart⟩ := hr.nested hw (hregisters.extends.trans hafter)
      have hpicks := (hr.stretch hlevel hregisters hafter).picks
      rw [hstart, List.nil_append, ← picked_enumIdents (nodup_registerEnum entry.2 registry)
        (typeName names entry.1) (textOf assigned)] at hpicks
      exact hpicks
    · have hrest := ih hfirst.wellFormed he found hfound
      rw [hr.textsIn_registers hregisters hafter (hw.addScope_ne_global _ _ _)] at hrest
      exact hrest

/-- There is an entry for each enum. -/
theorem enumNames_forEnum (text : NameId → String) (names : List (TypeId × NameId))
    (enums : List (TypeId × EnumType)) (registry : NameRegistry) :
    List.Forall₂ (ForEnum fun id => text (typeName names id))
      ((enumNames names enums registry).1.map fun entry =>
        (entry.1, enumIdents text entry.2)) enums := by
  induction enums generalizing registry with
  | nil => exact .nil
  | cons entry rest ih =>
    have hkeys : (registerEnum entry.2 registry).1.map Prod.fst = entry.2.cases.toList :=
      caseNames_keys _ _ _
    have hn := nodup_registerEnum entry.2 registry
    exact .cons ⟨rfl, rfl, (enumIdents_keys hn (typeName names entry.1) text).trans hkeys⟩ (ih _)

end NameAssignment

end Hydration
