import Hydration.Proofs.Naming.Plain
import Mathlib.Data.List.Perm.Basic
import Mathlib.Data.List.Flatten

/-!
# Distinct identifiers

Whatever a policy does, the identifiers of a graph are there for every class,
enum, field and case, and those that meet in the emitted code differ from each
other and from the reserved words: the global ones among themselves, the ones
of a class from each other, from the type names and from the functions up to
its own, and the cases of an enum from each other and from every global one.
-/

namespace Hydration

section Classes

variable {policy : NamingPolicy} {globals : List String} {classes : List ClassIdents}

/-- The functions of all classes are picked globally, one after the other. -/
theorem NamingPolicy.PicksClasses.functions (h : policy.PicksClasses globals classes) :
    policy.PicksAll policy.reserved globals
      (classes.flatMap (ClassIdents.pickedFunctions policy.templates)) := by
  induction classes generalizing globals with
  | nil => trivial
  | cons idents rest ih => exact h.1.append (ih h.2.2)

/-- The properties of a class are picked among the global names up to its own
functions. -/
theorem NamingPolicy.PicksClasses.properties (h : policy.PicksClasses globals classes)
    {index : Nat} {idents : ClassIdents} (hi : classes[index]? = some idents) :
    policy.PicksAll (policy.propertyReserved ++ policy.reserved)
      (globals ++ (classes.take (index + 1)).flatMap ClassIdents.functionTexts)
      (idents.pickedProperties policy.templates) := by
  induction classes generalizing globals index with
  | nil => cases hi
  | cons first rest ih =>
    cases index with
    | zero =>
      cases hi
      rw [List.take_succ_cons, List.take_zero, List.flatMap_cons, List.flatMap_nil,
        List.append_nil]
      exact h.2.1
    | succ index =>
      have hrest := ih h.2.2 hi
      rw [List.append_assoc] at hrest
      rw [List.take_succ_cons, List.flatMap_cons]
      exact hrest

end Classes

/-! ## Identifiers of a graph -/

/-- The names of a property. -/
def PropertyIdents.texts (idents : PropertyIdents) : List String :=
  [idents.name, idents.getter, idents.setter, idents.hydrator, idents.dehydrator]

/-- The names of all properties of a class. -/
def ClassIdents.propertyTexts (idents : ClassIdents) : List String :=
  idents.properties.values.flatMap PropertyIdents.texts

namespace GraphNames

/-- The names of the classes and of the enums. -/
def typeNames (names : GraphNames) : List String :=
  names.classes.values.map ClassIdents.name ++ names.enums.values.map EnumIdents.name

/-- The names of the conversion functions of the classes. -/
def functionNames (names : GraphNames) : List String :=
  names.classes.values.map ClassIdents.hydrate ++ names.classes.values.map ClassIdents.dehydrate

/-- Everything in a graph has a name, and names that meet are different. -/
structure WellNamed (names : GraphNames) (graph : TypeGraph) (policy : NamingPolicy) : Prop where
  /-- There is an entry for each class in declared order, with one for each field. -/
  classes : List.Forall₂ (ForClass names.nameOf) names.classes.entries graph.classes
  /-- There is an entry for each enum in declared order, with one for each case. -/
  enums : List.Forall₂ (ForEnum names.nameOf) names.enums.entries graph.enums
  /-- The names of types and of their functions are distinct. -/
  globals_nodup : (names.typeNames ++ names.functionNames).Nodup
  /-- None of them is reserved. -/
  globals_allowed : ∀ text ∈ names.typeNames ++ names.functionNames, text ∉ policy.reserved
  /-- The names of the properties of a class are distinct. -/
  properties_nodup : ∀ idents ∈ names.classes.values, idents.propertyTexts.Nodup
  /-- None of them is reserved, and none is the name of a type. -/
  properties_allowed : ∀ idents ∈ names.classes.values, ∀ text ∈ idents.propertyTexts,
    text ∉ policy.reserved ∧ text ∉ policy.propertyReserved ∧ text ∉ names.typeNames
  /-- None of them is a function of the class or of one that is declared earlier. -/
  properties_functions : ∀ (i j : Nat) (idents earlier : ClassIdents),
    names.classes.values[i]? = some idents → names.classes.values[j]? = some earlier → j ≤ i →
    ∀ text ∈ idents.propertyTexts, text ≠ earlier.hydrate ∧ text ≠ earlier.dehydrate
  /-- The cases of an enum are distinct. -/
  cases_nodup : ∀ idents ∈ names.enums.values, idents.cases.values.Nodup
  /-- None of them is reserved, and none is the name of a type or of a function. -/
  cases_allowed : ∀ idents ∈ names.enums.values, ∀ text ∈ idents.cases.values,
    text ∉ policy.reserved ∧ text ∉ names.typeNames ∧ text ∉ names.functionNames

variable {names : GraphNames} {graph : TypeGraph} {policy : NamingPolicy}

/-- The names of the types are the declared ones in another order. -/
theorem Plain.typeNames_perm (h : names.Plain graph policy) :
    names.typeNames.Perm (names.typeTexts graph) := by
  have hperm := graph.perm_declared.map names.nameOf
  rw [List.map_append, ← names_of_entryFor h.classes, ← names_of_entryFor h.enums] at hperm
  rw [map_nameOf_declared] at hperm
  exact hperm

/-- The functions of classes are the ones of each class in another order. -/
theorem functionNames_perm (names : GraphNames) :
    names.functionNames.Perm (names.classes.values.flatMap ClassIdents.functionTexts) := by
  have hperm := List.map_append_flatMap_perm names.classes.values ClassIdents.hydrate
    fun idents => [idents.dehydrate]
  rw [← List.map_eq_flatMap] at hperm
  exact hperm

/-- The global names are the type names and the functions in another order. -/
theorem Plain.globals_perm (h : names.Plain graph policy) :
    (names.typeNames ++ names.functionNames).Perm (names.globalTexts graph) :=
  h.typeNames_perm.append names.functionNames_perm

/-- The global names as they are picked. -/
def pickedGlobals (names : GraphNames) (graph : TypeGraph) (templates : DerivedTemplates) :
    List PickedName :=
  (graph.declared.map fun entry => ⟨.type, entry.2, names.nameOf entry.1⟩)
    ++ names.classes.values.flatMap (ClassIdents.pickedFunctions templates)

/-- The texts that are picked globally are the global texts. -/
theorem map_text_pickedGlobals (names : GraphNames) (graph : TypeGraph)
    (templates : DerivedTemplates) :
    (names.pickedGlobals graph templates).map PickedName.text = names.globalTexts graph := by
  rw [pickedGlobals, List.map_append, List.map_map, List.map_flatMap]
  rfl

/-- All global names are picked one after the other. -/
theorem Plain.picks_globals (h : names.Plain graph policy) :
    policy.PicksAll policy.reserved [] (names.pickedGlobals graph policy.templates) := by
  refine h.types.append ?_
  rw [List.map_map]
  exact h.classNames.functions

/-- The names of the properties of a class as they are picked. -/
theorem map_text_pickedProperties (templates : DerivedTemplates) (idents : ClassIdents) :
    (idents.pickedProperties templates).map PickedName.text = idents.propertyTexts := by
  rw [ClassIdents.pickedProperties, List.map_flatMap, ClassIdents.propertyTexts,
    OrderedMap.values, List.flatMap_map]
  rfl

/-- The cases of an enum as they are picked. -/
theorem map_text_picked (idents : EnumIdents) :
    idents.picked.map PickedName.text = idents.cases.values := by
  rw [EnumIdents.picked, List.map_map]
  rfl

/-- The names of the properties of a class are picked among the type names and the
functions up to its own. -/
theorem Plain.properties (h : names.Plain graph policy) {index : Nat} {idents : ClassIdents}
    (hi : names.classes.values[index]? = some idents) :
    idents.propertyTexts.Nodup
      ∧ ∀ text ∈ idents.propertyTexts, text ∉ policy.propertyReserved ++ policy.reserved
        ∧ text ∉ names.typeTexts graph
          ++ (names.classes.values.take (index + 1)).flatMap ClassIdents.functionTexts := by
  have hpicks := h.classNames.properties hi
  have hnodup := hpicks.nodup
  have hforbidden := hpicks.not_forbidden
  have htaken := hpicks.not_taken
  rw [map_text_pickedProperties] at hnodup hforbidden htaken
  exact ⟨hnodup, fun text hm => ⟨hforbidden text hm, htaken text hm⟩⟩

/-- The names that are picked in the plain order are distinct. -/
theorem Plain.wellNamed (h : names.Plain graph policy) : names.WellNamed graph policy := by
  have hnodup := h.picks_globals.nodup
  have hallowed := h.picks_globals.not_forbidden
  rw [map_text_pickedGlobals] at hnodup hallowed
  refine
    { classes := h.classes
      enums := h.enums
      globals_nodup := h.globals_perm.nodup_iff.mpr hnodup
      globals_allowed := fun text hm => hallowed text (h.globals_perm.mem_iff.mp hm)
      properties_nodup := fun idents hm => ?_
      properties_allowed := fun idents hm text htext => ?_
      properties_functions := fun i j idents earlier hi hj hle text htext => ?_
      cases_nodup := fun idents hm => ?_
      cases_allowed := fun idents hm text htext => ?_ }
  · obtain ⟨index, hi⟩ := List.getElem?_of_mem hm
    exact (h.properties hi).1
  · obtain ⟨index, hi⟩ := List.getElem?_of_mem hm
    obtain ⟨hforbidden, htaken⟩ := (h.properties hi).2 text htext
    rw [List.mem_append, not_or] at hforbidden htaken
    exact ⟨hforbidden.2, hforbidden.1, fun ht => htaken.1 (h.typeNames_perm.mem_iff.mp ht)⟩
  · have htaken := ((h.properties hi).2 text htext).2
    rw [List.mem_append, not_or] at htaken
    have hearlier : earlier ∈ names.classes.values.take (i + 1) :=
      List.mem_of_getElem? ((List.getElem?_take_of_lt (by omega)).trans hj)
    constructor
    · rintro rfl
      exact htaken.2 (List.mem_flatMap.mpr ⟨earlier, hearlier, List.mem_cons_self⟩)
    · rintro rfl
      exact htaken.2 (List.mem_flatMap.mpr ⟨earlier, hearlier,
        List.mem_cons_of_mem _ List.mem_cons_self⟩)
  · have hcases := (h.caseNames idents hm).nodup
    rw [map_text_picked] at hcases
    exact hcases
  · have hpicks := h.caseNames idents hm
    rw [← map_text_picked] at htext
    have htaken := hpicks.not_taken text htext
    rw [← h.globals_perm.mem_iff, List.mem_append, not_or] at htaken
    exact ⟨hpicks.not_forbidden text htext, htaken⟩

/-- Whatever a policy does, the identifiers of a graph are complete and distinct. -/
theorem wellNamed_of_resolve (h : resolve graph policy = .ok names) :
    names.WellNamed graph policy := (plain_of_resolve h).wellNamed

/-- The identifiers of a graph with names that collide. -/
theorem wellNamed_of_resolve_item :
    resolve itemGraph itemPolicy = .ok itemNames ∧ itemNames.WellNamed itemGraph itemPolicy := by
  have hresolve : resolve itemGraph itemPolicy = .ok itemNames := by decide +kernel
  exact ⟨hresolve, wellNamed_of_resolve hresolve⟩

end GraphNames

end Hydration
