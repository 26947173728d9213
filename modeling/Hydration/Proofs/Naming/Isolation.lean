import Hydration.Proofs.Naming.Plain

/-!
# Isolation of identifiers

Two graphs with classes and enums of the same kinds and display names, in the
same order, get the same type names and the same conversion functions under one
policy, whatever else is in them: the global names are picked among each other
only. Within a class the names of a property depend on those of the properties
before it, so properties whose keys come first in both graphs get the same
names; likewise the cases of an enum.
-/

namespace Hydration

/-! ## Equal picks -/

/-- One of two lists of keys comes first in the other. -/
def PrefixEither (keys others : List String) : Prop := keys <+: others ∨ others <+: keys

/-- Keys that come first in both lists, when one continues the other. -/
theorem PrefixEither.exists_shared {keys others : List String} (h : PrefixEither keys others) :
    ∃ shared rest tail, keys = shared ++ rest ∧ others = shared ++ tail
      ∧ ∀ key ∈ keys, key ∈ others → key ∈ shared := by
  rcases h with ⟨tail, htail⟩ | ⟨rest, hrest⟩
  · exact ⟨keys, [], tail, (List.append_nil _).symm, htail.symm, fun _ hm _ => hm⟩
  · exact ⟨others, rest, [], hrest.symm, (List.append_nil _).symm, fun _ _ hm => hm⟩

section Picks

variable {policy : NamingPolicy} {forbidden taken : List String}

/-- What is picked for keys that come first in two lists is the same, if it is
determined by the key and what is taken. -/
theorem NamingPolicy.PicksAll.shared_unique {α : Type} (picked : String → α → List PickedName)
    (hunique : ∀ taken key a b, policy.PicksAll forbidden taken (picked key a) →
      policy.PicksAll forbidden taken (picked key b) →
      (picked key a).map PickedName.text = (picked key b).map PickedName.text)
    {entries others : List (String × α)}
    (h : policy.PicksAll forbidden taken (entries.flatMap fun entry => picked entry.1 entry.2))
    (ho : policy.PicksAll forbidden taken (others.flatMap fun entry => picked entry.1 entry.2))
    {shared rest tail : List String} (hk : entries.map Prod.fst = shared ++ rest)
    (hk' : others.map Prod.fst = shared ++ tail) {key : String} (hkey : key ∈ shared) :
    ∃ a b, Entries.get? key entries = some a ∧ Entries.get? key others = some b
      ∧ (picked key a).map PickedName.text = (picked key b).map PickedName.text := by
  induction shared generalizing taken entries others with
  | nil => cases hkey
  | cons first shared ih =>
    obtain _ | ⟨⟨k, a⟩, entries⟩ := entries
    · cases hk
    obtain _ | ⟨⟨k', b⟩, others⟩ := others
    · cases hk'
    obtain ⟨hfirst, hkeys⟩ := List.cons.inj hk
    obtain ⟨hfirst', hkeys'⟩ := List.cons.inj hk'
    obtain rfl : k = first := hfirst
    obtain rfl : k' = k := hfirst'
    rw [List.flatMap_cons] at h ho
    obtain ⟨ha, hrest⟩ := h.split
    obtain ⟨hb, htail⟩ := ho.split
    have hsame := hunique taken k' a b ha hb
    by_cases heq : k' = key
    · subst heq
      exact ⟨a, b, if_pos rfl, if_pos rfl, hsame⟩
    · have hshared : key ∈ shared := (List.mem_cons.mp hkey).resolve_left fun h => heq h.symm
      rw [← hsame] at htail
      rw [Entries.get?, if_neg heq, Entries.get?, if_neg heq]
      exact ih hrest htail hkeys hkeys' hshared

end Picks

/-- Two properties have the same names. -/
structure PropertyIdents.SameNames (property other : PropertyIdents) : Prop where
  /-- The properties. -/
  name : property.name = other.name
  /-- The functions that read them. -/
  getter : property.getter = other.getter
  /-- The functions that write them. -/
  setter : property.setter = other.setter
  /-- The functions that convert them to JSON. -/
  hydrator : property.hydrator = other.hydrator
  /-- The functions that convert them from JSON. -/
  dehydrator : property.dehydrator = other.dehydrator

/-- Properties with the same picked texts have the same names. -/
theorem PropertyIdents.sameNames_of_texts {templates : DerivedTemplates} {key : String}
    {property other : PropertyIdents}
    (h : (property.picked templates key).map PickedName.text
      = (other.picked templates key).map PickedName.text) : property.SameNames other := by
  simp only [picked, List.map_cons, List.map_nil, List.cons.injEq, and_true] at h
  exact ⟨h.1, h.2.1, h.2.2.1, h.2.2.2.1, h.2.2.2.2⟩

/-- The names of a property are determined by its key and what is taken, since the others derive
from the one that is picked first. -/
theorem PropertyIdents.picked_unique {policy : NamingPolicy} {forbidden taken : List String}
    {key : String} {property other : PropertyIdents}
    (h : policy.PicksAll forbidden taken (property.picked policy.templates key))
    (ho : policy.PicksAll forbidden taken (other.picked policy.templates key)) :
    (property.picked policy.templates key).map PickedName.text
      = (other.picked policy.templates key).map PickedName.text := by
  have hname : property.name = other.name := h.1.unique ho.1
  refine h.unique ho ?_
  simp only [picked, List.map_cons, List.map_nil, hname]

/-- The functions of a class are determined by its name and what is taken. -/
theorem ClassIdents.pickedFunctions_unique {policy : NamingPolicy} {forbidden taken : List String}
    {idents other : ClassIdents} (hname : idents.name = other.name)
    (h : policy.PicksAll forbidden taken (idents.pickedFunctions policy.templates))
    (ho : policy.PicksAll forbidden taken (other.pickedFunctions policy.templates)) :
    idents.functionTexts = other.functionTexts := by
  refine h.unique ho ?_
  simp only [pickedFunctions, List.map_cons, List.map_nil, hname]

/-! ## Classes in two runs -/

/-- Two classes have the same functions, and their properties are picked among the
same texts. -/
structure PickedAlike (policy : NamingPolicy) (idents other : ClassIdents) : Prop where
  /-- The names of the classes. -/
  name : idents.name = other.name
  /-- The functions of the classes. -/
  functions : idents.functionTexts = other.functionTexts
  /-- The properties of the classes. -/
  properties : ∃ forbidden taken,
    policy.PicksAll forbidden taken (idents.pickedProperties policy.templates)
      ∧ policy.PicksAll forbidden taken (other.pickedProperties policy.templates)

/-- Classes with the same names are picked alike when the same texts are taken. -/
theorem NamingPolicy.PicksClasses.alike {policy : NamingPolicy} {globals : List String}
    {classes others : List ClassIdents} (h : policy.PicksClasses globals classes)
    (ho : policy.PicksClasses globals others)
    (hname : classes.map ClassIdents.name = others.map ClassIdents.name) :
    List.Forall₂ (PickedAlike policy) classes others := by
  induction classes generalizing globals others with
  | nil =>
    rw [List.map_nil, List.nil_eq, List.map_eq_nil_iff] at hname
    rw [hname]
    exact .nil
  | cons idents rest ih =>
    obtain _ | ⟨other, tail⟩ := others
    · cases hname
    obtain ⟨hhead, htail⟩ := List.cons.inj hname
    obtain ⟨hfunctions, hproperties, hrest⟩ := h
    obtain ⟨hfunctions', hproperties', hrest'⟩ := ho
    have hsame := ClassIdents.pickedFunctions_unique hhead hfunctions hfunctions'
    rw [← hsame] at hproperties' hrest'
    exact .cons ⟨hhead, hsame, _, _, hproperties, hproperties'⟩ (ih hrest hrest' htail)

/-- Classes whose names are picked alike have the same function names. -/
theorem functionTexts_eq {policy : NamingPolicy} {classes others : List ClassIdents}
    (h : List.Forall₂ (PickedAlike policy) classes others) :
    classes.flatMap ClassIdents.functionTexts = others.flatMap ClassIdents.functionTexts := by
  induction h with
  | nil => rfl
  | cons halike _ ih => rw [List.flatMap_cons, List.flatMap_cons, halike.functions, ih]

/-- Properties of classes that are picked alike. -/
theorem PickedAlike.properties_same {policy : NamingPolicy} {idents idents' : ClassIdents}
    (h : PickedAlike policy idents idents')
    (hp : PrefixEither idents.properties.keys idents'.properties.keys) {key : String}
    (hk : key ∈ idents.properties.keys) (hk' : key ∈ idents'.properties.keys) :
    ∃ property property', idents.properties.get? key = some property
      ∧ idents'.properties.get? key = some property' ∧ property.SameNames property' := by
  obtain ⟨forbidden, taken, hpicks, hpicks'⟩ := h.properties
  obtain ⟨shared, rest, tail, hsplit, hsplit', hshared⟩ := hp.exists_shared
  obtain ⟨property, property', hget, hget', htexts⟩ := hpicks.shared_unique
    (PropertyIdents.picked policy.templates) (fun _ _ _ _ => PropertyIdents.picked_unique) hpicks'
    hsplit hsplit' (hshared key hk hk')
  exact ⟨property, property', hget, hget', PropertyIdents.sameNames_of_texts htexts⟩

/-- Cases of enums that are picked among the same texts. -/
theorem EnumIdents.picked_shared {policy : NamingPolicy} {taken : List String}
    {idents idents' : EnumIdents} (h : policy.PicksAll policy.reserved taken idents.picked)
    (ho : policy.PicksAll policy.reserved taken idents'.picked)
    (hp : PrefixEither idents.cases.keys idents'.cases.keys) {tag : String}
    (hk : tag ∈ idents.cases.keys) (hk' : tag ∈ idents'.cases.keys) :
    ∃ text, idents.cases.get? tag = some text ∧ idents'.cases.get? tag = some text := by
  rw [EnumIdents.picked, List.map_eq_flatMap] at h ho
  obtain ⟨shared, rest, tail, hsplit, hsplit', hshared⟩ := hp.exists_shared
  obtain ⟨text, text', hget, hget', htexts⟩ := h.shared_unique
    (fun tag text => [⟨.enumCase, tag, text⟩])
    (fun _ _ _ _ hfirst hsecond => hfirst.unique hsecond rfl) ho hsplit hsplit' (hshared tag hk hk')
  obtain rfl : text = text' := (List.cons.inj htexts).1
  exact ⟨text, hget, hget'⟩

namespace GraphNames

/-- The identifiers of two graphs agree where they are for the same declarations. -/
structure Agree (names others : GraphNames) (graph other : TypeGraph) : Prop where
  /-- A class or enum has the name of the one at its place. -/
  types : ∀ (i : Nat) (entry entry' : TypeId × String),
    graph.declared[i]? = some entry → other.declared[i]? = some entry' →
    ∃ text, names.typeName? entry.1 = some text ∧ others.typeName? entry'.1 = some text
  /-- A class has the name and the functions of the one at its place. -/
  classes : ∀ (i : Nat) (entry entry' : TypeId × ClassType),
    graph.classes[i]? = some entry → other.classes[i]? = some entry' →
    ∃ idents idents', names.classes.get? entry.1 = some idents
      ∧ others.classes.get? entry'.1 = some idents' ∧ idents.name = idents'.name
      ∧ idents.hydrate = idents'.hydrate ∧ idents.dehydrate = idents'.dehydrate
  /-- A property that both classes have has the same names, if the keys of one class
  are followed by more in the other. -/
  properties : ∀ (i : Nat) (entry entry' : TypeId × ClassType) (idents idents' : ClassIdents),
    graph.classes[i]? = some entry → other.classes[i]? = some entry' →
    names.classes.get? entry.1 = some idents → others.classes.get? entry'.1 = some idents' →
    PrefixEither entry.2.fields.keys entry'.2.fields.keys →
    ∀ key ∈ entry.2.fields.keys, key ∈ entry'.2.fields.keys →
    ∃ property property', idents.properties.get? key = some property
      ∧ idents'.properties.get? key = some property' ∧ property.SameNames property'
  /-- An enum has the name of the one at its place. -/
  enums : ∀ (i : Nat) (entry entry' : TypeId × EnumType),
    graph.enums[i]? = some entry → other.enums[i]? = some entry' →
    ∃ idents idents', names.enums.get? entry.1 = some idents
      ∧ others.enums.get? entry'.1 = some idents' ∧ idents.name = idents'.name
  /-- A case that both enums have has the same name, if the cases of one enum are
  followed by more in the other. -/
  cases : ∀ (i : Nat) (entry entry' : TypeId × EnumType) (idents idents' : EnumIdents),
    graph.enums[i]? = some entry → other.enums[i]? = some entry' →
    names.enums.get? entry.1 = some idents → others.enums.get? entry'.1 = some idents' →
    PrefixEither entry.2.cases.toList entry'.2.cases.toList →
    ∀ tag ∈ entry.2.cases.toList, tag ∈ entry'.2.cases.toList →
    ∃ text, idents.cases.get? tag = some text ∧ idents'.cases.get? tag = some text

section Agreement

variable {names others : GraphNames} {graph other : TypeGraph} {policy : NamingPolicy}

/-- The type names are the same. -/
theorem Plain.typeTexts_eq (h : names.Plain graph policy) (ho : others.Plain other policy)
    (hsame : graph.outline = other.outline) : names.typeTexts graph = others.typeTexts other := by
  have hdisplays : graph.declared.map Prod.snd = other.declared.map Prod.snd := by
    rw [TypeGraph.displays_declared, TypeGraph.displays_declared, hsame]
  have hpicked : graph.declared.map (fun entry => (NameStyle.type, entry.2))
      = other.declared.map fun entry => (NameStyle.type, entry.2) := by
    have hpairs := congrArg (List.map fun display => (NameStyle.type, display)) hdisplays
    rw [List.map_map, List.map_map] at hpairs
    exact hpairs
  have htexts := h.types.unique ho.types (by rw [List.map_map, List.map_map]; exact hpicked)
  rw [List.map_map, List.map_map] at htexts
  exact htexts

/-- The names of the entries of a kind are those of the declared types at its places. -/
theorem names_eq_textsOfKind {ι σ : Type} {nameOf : ι → String} {keysOf : ι → List String}
    {declaredKeys : σ → List String} {entries : List (TypeId × ι)} {kind : TypeKind}
    {shape? : TypeId → Option σ}
    (h : List.Forall₂ (EntryFor nameOf keysOf declaredKeys names.nameOf) entries
      (graph.ids.filterMap fun id => (shape? id).map fun shape => (id, shape)))
    (hkind : ∀ id, (shape? id).isSome ↔ ∃ display, graph.outline? id = some (kind, display)) :
    (entries.map Prod.snd).map nameOf
      = TypeGraph.textsOfKind kind graph.outline (names.typeTexts graph) := by
  refine (names_of_entryFor h).trans (Eq.trans ?_
    (graph.textsOfKind_declaredAmong hkind names.nameOf graph.ids).symm)
  rw [List.map_map]
  rfl

/-- The names of classes are those of the outline's classes. -/
theorem Plain.classNames_eq (h : names.Plain graph policy) :
    names.classes.values.map ClassIdents.name
      = TypeGraph.textsOfKind .classKind graph.outline (names.typeTexts graph) :=
  names_eq_textsOfKind h.classes fun _ => TypeGraph.isSome_class?_iff

/-- The names of enums are those of the outline's enums. -/
theorem Plain.enumNames_eq (h : names.Plain graph policy) :
    names.enums.values.map EnumIdents.name
      = TypeGraph.textsOfKind .enumKind graph.outline (names.typeTexts graph) :=
  names_eq_textsOfKind h.enums fun _ => TypeGraph.isSome_enum?_iff

/-- The classes are picked alike. -/
theorem Plain.alike (h : names.Plain graph policy) (ho : others.Plain other policy)
    (hsame : graph.outline = other.outline) :
    List.Forall₂ (PickedAlike policy) names.classes.values others.classes.values := by
  have htexts := h.typeTexts_eq ho hsame
  have hpicks := ho.classNames
  rw [← htexts] at hpicks
  refine h.classNames.alike hpicks ?_
  rw [h.classNames_eq, ho.classNames_eq, htexts, hsame]

/-- All global names are the same. -/
theorem Plain.globalTexts_eq (h : names.Plain graph policy) (ho : others.Plain other policy)
    (hsame : graph.outline = other.outline) :
    names.globalTexts graph = others.globalTexts other := by
  rw [globalTexts, h.typeTexts_eq ho hsame, functionTexts_eq (h.alike ho hsame), globalTexts]

/-- The classes at a place are picked alike. -/
theorem Plain.alike_at (h : names.Plain graph policy) (ho : others.Plain other policy)
    (hsame : graph.outline = other.outline) {i : Nat} {idents idents' : ClassIdents}
    (hi : names.classes.values[i]? = some idents)
    (hi' : others.classes.values[i]? = some idents') : PickedAlike policy idents idents' := by
  obtain ⟨found, hfound, halike⟩ := getElem?_of_forall₂ (h.alike ho hsame) hi'
  cases hi.symm.trans hfound
  exact halike

/-- Names that are picked in the plain order agree. -/
theorem Plain.agree (h : names.Plain graph policy) (ho : others.Plain other policy)
    (hsame : graph.outline = other.outline) : names.Agree others graph other where
  types i entry entry' hi hi' := by
    have htexts := congrArg (·[i]?) (h.typeTexts_eq ho hsame)
    simp only [typeTexts, List.getElem?_map, hi, hi', Option.map_some, Option.some.injEq] at htexts
    have hmem := List.mem_map_of_mem (f := Prod.fst) (List.mem_of_getElem? hi)
    have hmem' := List.mem_map_of_mem (f := Prod.fst) (List.mem_of_getElem? hi')
    refine ⟨names.nameOf entry.1, typeName?_eq h.classes h.enums hmem, ?_⟩
    rw [htexts]
    exact typeName?_eq ho.classes ho.enums hmem'
  classes i entry entry' hi hi' := by
    obtain ⟨idents, hget, hat, -, -⟩ := exists_of_entryFor h.classes hi
    obtain ⟨idents', hget', hat', -, -⟩ := exists_of_entryFor ho.classes hi'
    have halike := h.alike_at ho hsame hat hat'
    obtain ⟨hhydrate, hrest⟩ := List.cons.inj halike.functions
    exact ⟨idents, idents', hget, hget', halike.name, hhydrate, (List.cons.inj hrest).1⟩
  properties i entry entry' idents idents' hi hi' hget hget' hp key hk hk' := by
    obtain ⟨found, hfound, hat, -, hkeys⟩ := exists_of_entryFor h.classes hi
    obtain ⟨found', hfound', hat', -, hkeys'⟩ := exists_of_entryFor ho.classes hi'
    cases hget.symm.trans hfound
    cases hget'.symm.trans hfound'
    rw [← hkeys, ← hkeys'] at hp
    rw [← hkeys] at hk
    rw [← hkeys'] at hk'
    exact (h.alike_at ho hsame hat hat').properties_same hp hk hk'
  enums i entry entry' hi hi' := by
    obtain ⟨idents, hget, hat, -, -⟩ := exists_of_entryFor h.enums hi
    obtain ⟨idents', hget', hat', -, -⟩ := exists_of_entryFor ho.enums hi'
    have hnames : names.enums.values.map EnumIdents.name
        = others.enums.values.map EnumIdents.name := by
      rw [h.enumNames_eq, ho.enumNames_eq, h.typeTexts_eq ho hsame, hsame]
    have hname := congrArg (·[i]?) hnames
    simp only [List.getElem?_map, hat, hat', Option.map_some, Option.some.injEq] at hname
    exact ⟨idents, idents', hget, hget', hname⟩
  cases i entry entry' idents idents' hi hi' hget hget' hp tag hk hk' := by
    obtain ⟨found, hfound, hat, -, hkeys⟩ := exists_of_entryFor h.enums hi
    obtain ⟨found', hfound', hat', -, hkeys'⟩ := exists_of_entryFor ho.enums hi'
    cases hget.symm.trans hfound
    cases hget'.symm.trans hfound'
    have hpicks := h.caseNames idents (List.mem_of_getElem? hat)
    rw [h.globalTexts_eq ho hsame] at hpicks
    rw [← hkeys, ← hkeys'] at hp
    rw [← hkeys] at hk
    rw [← hkeys'] at hk'
    have hpicks' := ho.caseNames idents' (List.mem_of_getElem? hat')
    exact EnumIdents.picked_shared hpicks hpicks' hp hk hk'

/-- Under one policy, graphs with the same outline get the same identifiers, but for
fields and cases that only one of them has. -/
theorem agree_of_resolve (hsame : graph.outline = other.outline)
    (h : resolve graph policy = .ok names) (ho : resolve other policy = .ok others) :
    names.Agree others graph other :=
  (plain_of_resolve h).agree (plain_of_resolve ho) hsame

/-- The class and the enum with less in them, and another type before them. -/
def shortItemGraph : TypeGraph where
  types := [.integer, .array ⟨0⟩, .classType ⟨"Item", ⟨[("id", ⟨⟨1⟩, false⟩)], by decide⟩⟩,
    .enumType ⟨"Item", ⟨["new"], by decide⟩⟩]
  topLevels := .empty
  sound := by decide

/-- The identifiers of the smaller graph. -/
def shortItemNames : GraphNames where
  classes := ⟨[(⟨2⟩, ⟨"Item", "Item_to_json", "Item_from_json",
    ⟨[("id", ⟨"id2", "get_id2", "set_id2", "hydrate_id2", "dehydrate_id2", false⟩)],
      by decide⟩⟩)], by decide⟩
  enums := ⟨[(⟨3⟩, ⟨"Item2", ⟨[("new", "new2")], by decide⟩⟩)], by decide⟩

/-- More fields and cases leave the identifiers of a graph as they are. -/
theorem agree_of_resolve_item :
    shortItemGraph.outline = itemGraph.outline
      ∧ resolve shortItemGraph itemPolicy = .ok shortItemNames
      ∧ resolve itemGraph itemPolicy = .ok itemNames
      ∧ shortItemNames.Agree itemNames shortItemGraph itemGraph := by
  have houtline : shortItemGraph.outline = itemGraph.outline := by decide +kernel
  have hshort : resolve shortItemGraph itemPolicy = .ok shortItemNames := by decide +kernel
  have hresolve : resolve itemGraph itemPolicy = .ok itemNames := by decide +kernel
  exact ⟨houtline, hshort, hresolve, agree_of_resolve houtline hshort hresolve⟩

end Agreement

end GraphNames

end Hydration
