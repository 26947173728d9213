import Hydration.Command.Target
import Hydration.Proofs.Naming.Attempts
import Hydration.Proofs.Naming.Distinct
import Hydration.Proofs.Text.Opening

/-!
# Legal identifiers

Under the policies of the targets every identifier consists of letters, numerals
and underscores, has at least one of them, begins with no ASCII digit and is not
reserved. It may begin with a numeral of another script: this happens exactly in
graphs with a display text whose first alphanumeric character is such a numeral,
since only the ASCII digits get a mark in front.
-/

namespace Hydration

open Text

/-- Whether a character may stand in an identifier. -/
def Text.isIdentifierChar (c : Char) : Bool := isAlphanumeric c || c == '_'

/-- A text is spelled as an identifier, up to the first character. -/
structure Spelled (text : String) : Prop where
  /-- It is not empty. -/
  nonempty : text ≠ ""
  /-- It has letters, numerals and underscores only. -/
  chars : ∀ c ∈ text.toList, isIdentifierChar c = true
  /-- It does not begin with an ASCII digit. -/
  noDigit : ∀ c, text.toList.head? = some c → c.isDigit = false

/-- A text begins with a letter or an underscore, and with no numeral of any script. -/
def StartsLegally (text : String) : Prop :=
  ∃ c, text.toList.head? = some c ∧ (isAlphabetic c = true ∨ c = '_') ∧ isNumeric c = false

/-! ## Spelling -/

/-- A text is spelled as an identifier; its first character and its first alphanumeric one are
both numerals beyond ASCII, or neither is. -/
structure OpensAs (foreign : Bool) (text : String) : Prop where
  /-- It has letters, numerals and underscores only. -/
  chars : ∀ c ∈ text.toList, isIdentifierChar c = true
  /-- The first character. -/
  head : ∃ c, text.toList.head? = some c ∧ c.isDigit = false ∧ isForeignNumeral c = foreign
  /-- The first alphanumeric character. -/
  opening : ∃ c, text.toList.find? isAlphanumeric = some c ∧ isForeignNumeral c = foreign

namespace OpensAs

variable {foreign : Bool} {text : String}

/-- A text that opens as an identifier does is spelled like one. -/
theorem spelled (h : OpensAs foreign text) : Spelled text := by
  obtain ⟨c, hhead, hdigit, -⟩ := h.head
  refine ⟨?_, h.chars, fun d hd => ?_⟩
  · rintro rfl
    cases hhead
  · cases hhead.symm.trans hd
    exact hdigit

/-- The first character is legal unless it is a numeral beyond ASCII. -/
theorem startsLegally_iff (h : OpensAs foreign text) : StartsLegally text ↔ foreign = false := by
  obtain ⟨c, hhead, hdigit, hforeign⟩ := h.head
  have hnumeric : isNumeric c = foreign := by
    rw [← hforeign, isForeignNumeral, hdigit, Bool.not_false, Bool.and_true]
  constructor
  · rintro ⟨d, hd, -, hnot⟩
    cases hhead.symm.trans hd
    exact hnumeric.symm.trans hnot
  · intro hplain
    have hchar := h.chars c (List.mem_of_mem_head? hhead)
    rw [hplain] at hnumeric
    rw [isIdentifierChar, isAlphanumeric, hnumeric, Bool.or_false, Bool.or_eq_true, beq_iff_eq]
      at hchar
    exact ⟨c, hhead, hchar, hnumeric⟩

/-- Identifier characters at the end change nothing. -/
theorem append (h : OpensAs foreign text) {suffix : String}
    (hs : ∀ c ∈ suffix.toList, isIdentifierChar c = true) : OpensAs foreign (text ++ suffix) := by
  obtain ⟨c, hhead, hplain⟩ := h.head
  obtain ⟨d, hfind, hforeign⟩ := h.opening
  refine ⟨fun e he => ?_, ⟨c, ?_, hplain⟩, ⟨d, ?_, hforeign⟩⟩
  · rw [String.toList_append, List.mem_append] at he
    exact he.elim (h.chars e) (hs e)
  · rw [String.toList_append, List.head?_append, hhead, Option.some_or]
  · rw [String.toList_append, List.find?_append, hfind, Option.some_or]

/-- What a text opens with does not depend on what follows. -/
theorem opensForeign_append (h : OpensAs foreign text) (suffix : String) :
    opensForeign (text ++ suffix) = foreign := by
  obtain ⟨c, hfind, hforeign⟩ := h.opening
  rw [opensForeign, String.toList_append, List.find?_append, hfind, Option.some_or,
    Option.any_some, hforeign]

end OpensAs

namespace NamingPolicy

/-- The marks put in front of what would begin with a digit or be empty. -/
def IsMark (mark : String) : Prop := mark = "T" ∨ mark = "_"

/-- A text behind a mark. -/
theorem opensAs_mark {mark : String} (hm : IsMark mark) {text : String}
    (h : ∀ c ∈ text.toList, isIdentifierChar c = true)
    (hopens : ∃ c, text.toList.find? isAlphanumeric = some c ∧ isForeignNumeral c = false) :
    OpensAs false (mark ++ text) := by
  obtain ⟨c, hfind, hforeign⟩ := hopens
  obtain ⟨m, hmark, hchar, hplain, hletter⟩ : ∃ m, mark.toList = [m] ∧ isIdentifierChar m = true
      ∧ (m.isDigit = false ∧ isForeignNumeral m = false) ∧ (isAlphanumeric m = true ∨ m = '_') := by
    rcases hm with rfl | rfl
    · exact ⟨'T', rfl, by decide +kernel, by decide +kernel, by decide +kernel⟩
    · exact ⟨'_', rfl, by decide +kernel, by decide +kernel, by decide +kernel⟩
  refine ⟨fun d hd => ?_, ⟨m, ?_, hplain⟩, ?_⟩
  · rw [String.toList_append, hmark, List.singleton_append] at hd
    rcases List.mem_cons.mp hd with rfl | hd
    · exact hchar
    · exact h d hd
  · rw [String.toList_append, hmark]
    rfl
  · rw [String.toList_append, hmark, List.singleton_append]
    by_cases hm : isAlphanumeric m = true
    · exact ⟨m, List.find?_cons_of_pos hm, hplain.2⟩
    · exact ⟨c, (List.find?_cons_of_neg hm).trans hfind, hforeign⟩

variable {casing : String → String} {mark : String}

/-- The legal form of a cased text opens as the text does. -/
theorem opensAs_legalize (hk : Casing.KeepsOpening casing) (hm : IsMark mark) (display : String) :
    OpensAs (opensForeign display) (legalize mark (casing display)) := by
  rcases hk display with ⟨hnone, hempty⟩ | ⟨c, hfind, first, rest, hfirst, halpha, hforeign⟩
  · rw [opensForeign, hnone, Option.any_none, hempty]
    have hletters : "empty".toList = ['e', 'm', 'p', 't', 'y'] := rfl
    refine opensAs_mark hm ?_ ⟨'e', ?_, by decide +kernel⟩
    · rw [hletters]
      exact List.all_eq_true.mp (by decide +kernel)
    · rw [hletters]
      exact List.find?_cons_of_pos (by decide +kernel)
  · have hchar : isIdentifierChar first = true := by rw [isIdentifierChar, halpha, Bool.true_or]
    have hkept : (casing display).toList.filter isIdentifierChar
        = first :: rest.filter isIdentifierChar := by
      rw [hfirst, List.filter_cons_of_pos hchar]
    have hchars : ∀ d ∈ first :: rest.filter isIdentifierChar, isIdentifierChar d = true := by
      rw [← hkept]
      exact fun d hd => (List.mem_filter.mp hd).2
    have hopens : (first :: rest.filter isIdentifierChar).find? isAlphanumeric = some first :=
      List.find?_cons_of_pos halpha
    have hlegal : legalize mark (casing display)
        = if first.isDigit then mark ++ String.ofList (first :: rest.filter isIdentifierChar)
          else String.ofList (first :: rest.filter isIdentifierChar) := by
      change (casing display).toList.filter (fun c => isAlphanumeric c || c == '_') = _ at hkept
      rw [legalize, hkept]
    rw [opensForeign, hfind, Option.any_some, ← hforeign, hlegal]
    split
    · rename_i hdigit
      have hplain : isForeignNumeral first = false := by
        rw [isForeignNumeral, hdigit, Bool.not_true, Bool.and_false]
      rw [hplain]
      refine opensAs_mark hm ?_ ?_
      · rw [String.toList_ofList]
        exact hchars
      · rw [String.toList_ofList]
        exact ⟨first, hopens, hplain⟩
    · rename_i hdigit
      refine ⟨?_, ⟨first, ?_, Bool.eq_false_iff.mpr hdigit, rfl⟩, ⟨first, ?_, rfl⟩⟩
      · rw [String.toList_ofList]
        exact hchars
      · rw [String.toList_ofList]
        rfl
      · rw [String.toList_ofList]
        exact hopens

/-- So does a candidate. -/
theorem opensAs_styler (hk : Casing.KeepsOpening casing) (hm : IsMark mark) (display : String)
    (forbidden : List String) :
    OpensAs (opensForeign display) (styler casing mark display forbidden) := by
  have hlegal := opensAs_legalize hk hm display
  rw [styler, escapeKeyword]
  split
  · refine hlegal.append fun c hc => ?_
    rw [List.mem_singleton.mp hc]
    decide +kernel
  · exact hlegal

/-- The policies that change the case of display texts, make them legal and number what is
taken. -/
structure Cased (policy : NamingPolicy) : Prop where
  /-- Every style is a change of case that keeps what a text opens with. -/
  styles : ∀ style, ∃ casing mark, Casing.KeepsOpening casing ∧ IsMark mark
    ∧ policy.style style = styler casing mark
  /-- Alternatives have numeric suffixes. -/
  disambiguate : policy.disambiguate = numericSuffix
  /-- Derived names are the usual ones. -/
  templates : policy.templates = .standard

/-- The digits of a number may stand in an identifier. -/
theorem isIdentifierChar_of_mem_repr {n : Nat} {c : Char} (h : c ∈ n.repr.toList) :
    isIdentifierChar c = true := by
  rw [Nat.toList_repr] at h
  have hdigit := Nat.isDigit_of_mem_toDigits (by omega) (by omega) h
  have hcode := toNat_lt_of_isDigit hdigit
  rw [isIdentifierChar, isAlphanumeric, isNumeric, if_pos hcode, hdigit, Bool.or_true, Bool.true_or]

/-- What is picked opens as the display text does. -/
theorem Picks.opensAs {policy : NamingPolicy} (hc : policy.Cased) {forbidden taken : List String}
    {style : NameStyle} {display text : String}
    (h : policy.Picks forbidden taken style display text) : OpensAs (opensForeign display) text := by
  obtain ⟨casing, mark, hk, hm, hstyle⟩ := hc.styles style
  have hcandidate : OpensAs (opensForeign display) (policy.style style display forbidden) := by
    rw [hstyle]
    exact opensAs_styler hk hm display forbidden
  obtain ⟨index, -, rfl, -⟩ := NameRegistry.firstFree_eq_some_iff.mp h
  cases index with
  | zero => exact hcandidate
  | succ index =>
    rw [attempt_succ, hc.disambiguate]
    exact hcandidate.append fun c hm => isIdentifierChar_of_mem_repr hm

/-- Every text that is picked opens as its display text does. -/
theorem PicksAll.opensAs {policy : NamingPolicy} (hc : policy.Cased) {forbidden taken : List String}
    {picked : List PickedName} (h : policy.PicksAll forbidden taken picked) :
    ∀ next ∈ picked, OpensAs (opensForeign next.display) next.text := by
  induction picked generalizing taken with
  | nil => simp
  | cons first rest ih =>
    intro next hm
    rcases List.mem_cons.mp hm with rfl | hm
    · exact h.1.opensAs hc
    · exact ih h.2 next hm

end NamingPolicy

/-- The policies of both targets change the case of words. -/
theorem Target.cased (target : Target) : target.policy.Cased where
  styles style := by
    cases target <;> cases style
    · exact ⟨_, _, Casing.upperCamel_keepsOpening, Or.inl rfl, rfl⟩
    · exact ⟨_, _, Casing.snake_keepsOpening, Or.inr rfl, rfl⟩
    · exact ⟨_, _, Casing.upperCamel_keepsOpening, Or.inl rfl, rfl⟩
    · exact ⟨_, _, Casing.snake_keepsOpening, Or.inr rfl, rfl⟩
    · exact ⟨_, _, Casing.upperCamel_keepsOpening, Or.inl rfl, rfl⟩
    · exact ⟨_, _, Casing.lowerCamel_keepsOpening, Or.inr rfl, rfl⟩
    · exact ⟨_, _, Casing.upperCamel_keepsOpening, Or.inl rfl, rfl⟩
    · exact ⟨_, _, Casing.lowerCamel_keepsOpening, Or.inr rfl, rfl⟩
  disambiguate := by cases target <;> rfl
  templates := by cases target <;> rfl

/-! ## Identifiers of a graph -/

/-- The display texts of a class: its name and the keys of its fields. -/
def ClassType.displayTexts (shape : ClassType) : List String := shape.name :: shape.fields.keys

/-- The display texts of an enum: its name and its cases. -/
def EnumType.displayTexts (shape : EnumType) : List String := shape.name :: shape.cases.toList

/-- The display texts of the classes and enums of a graph. -/
def TypeGraph.displayTexts (graph : TypeGraph) : List String :=
  (graph.classes.map Prod.snd).flatMap ClassType.displayTexts
    ++ (graph.enums.map Prod.snd).flatMap EnumType.displayTexts

/-- The identifiers of a class, its functions and its properties. -/
def ClassIdents.texts (idents : ClassIdents) : List String :=
  idents.name :: (idents.functionTexts ++ idents.propertyTexts)

/-- The identifiers of an enum and its cases. -/
def EnumIdents.texts (idents : EnumIdents) : List String := idents.name :: idents.cases.values

/-- All identifiers of a graph. -/
def GraphNames.texts (names : GraphNames) : List String :=
  names.classes.values.flatMap ClassIdents.texts ++ names.enums.values.flatMap EnumIdents.texts

/-- Identifiers are spelled for display texts: one that opens with a foreign numeral has a
display text that does, and every display text has an identifier that opens like it. -/
structure SpelledFor (texts displays : List String) : Prop where
  /-- Where the identifiers open as they do. -/
  origin : ∀ text ∈ texts, ∃ foreign, OpensAs foreign text
    ∧ (foreign = true → ∃ display ∈ displays, opensForeign display = true)
  /-- What becomes of the display texts. -/
  target : ∀ display ∈ displays, ∃ text ∈ texts, OpensAs (opensForeign display) text

namespace SpelledFor

variable {texts others displays more : List String}

/-- Identifiers that are spelled for display texts are so together with others. -/
theorem append (h : SpelledFor texts displays) (ho : SpelledFor others more) :
    SpelledFor (texts ++ others) (displays ++ more) where
  origin text hm := by
    rcases List.mem_append.mp hm with hm | hm
    · obtain ⟨foreign, hopensAs, horigin⟩ := h.origin text hm
      refine ⟨foreign, hopensAs, fun hf => ?_⟩
      obtain ⟨display, hd, hopens⟩ := horigin hf
      exact ⟨display, List.mem_append_left _ hd, hopens⟩
    · obtain ⟨foreign, hopensAs, horigin⟩ := ho.origin text hm
      refine ⟨foreign, hopensAs, fun hf => ?_⟩
      obtain ⟨display, hd, hopens⟩ := horigin hf
      exact ⟨display, List.mem_append_right _ hd, hopens⟩
  target display hm := by
    rcases List.mem_append.mp hm with hm | hm
    · obtain ⟨text, ht, hopensAs⟩ := h.target display hm
      exact ⟨text, List.mem_append_left _ ht, hopensAs⟩
    · obtain ⟨text, ht, hopensAs⟩ := ho.target display hm
      exact ⟨text, List.mem_append_right _ ht, hopensAs⟩

/-- Identifiers of parts are spelled for the display texts of the parts. -/
theorem flatMap {α β : Type} {textsOf : α → List String} {displaysOf : β → List String}
    {parts : List α} {shapes : List β}
    (h : List.Forall₂ (fun part shape => SpelledFor (textsOf part) (displaysOf shape)) parts shapes) :
    SpelledFor (parts.flatMap textsOf) (shapes.flatMap displaysOf) := by
  induction h with
  | nil => exact ⟨by simp, by simp⟩
  | cons hpart _ ih =>
    rw [List.flatMap_cons, List.flatMap_cons]
    exact hpart.append ih

/-- The identifiers start legally exactly if no display text opens with a foreign numeral. -/
theorem startLegally_iff (h : SpelledFor texts displays) :
    (∀ text ∈ texts, StartsLegally text) ↔ ∀ display ∈ displays, opensForeign display = false := by
  constructor
  · intro hall display hm
    obtain ⟨text, ht, hopensAs⟩ := h.target display hm
    exact hopensAs.startsLegally_iff.mp (hall text ht)
  · intro hall text hm
    obtain ⟨foreign, hopensAs, horigin⟩ := h.origin text hm
    refine hopensAs.startsLegally_iff.mpr (Bool.eq_false_iff.mpr fun hf => ?_)
    obtain ⟨display, hd, hopens⟩ := horigin hf
    rw [hall display hd] at hopens
    cases hopens

/-- Identifiers of one display text: one opens like it, and the others open with a foreign
numeral only if it does. -/
theorem single {text display : String} (h : OpensAs (opensForeign display) text)
    (ho : ∀ other ∈ others, OpensAs (opensForeign display) other ∨ OpensAs false other) :
    SpelledFor (text :: others) [display] where
  origin other hm := by
    have hopensAs : OpensAs (opensForeign display) other ∨ OpensAs false other := by
      rcases List.mem_cons.mp hm with rfl | hm
      · exact Or.inl h
      · exact ho other hm
    rcases hopensAs with hopensAs | hopensAs
    · exact ⟨_, hopensAs, fun hf => ⟨display, List.mem_singleton_self _, hf⟩⟩
    · exact ⟨false, hopensAs, fun hf => absurd hf Bool.false_ne_true⟩
  target other hm := by
    rw [List.mem_singleton.mp hm]
    exact ⟨text, List.mem_cons_self, h⟩

end SpelledFor

/-- A text behind a word that begins with a letter does not open with a foreign numeral. -/
theorem opensForeign_behind {word : String} {c : Char} {rest : List Char}
    (h : word.toList = c :: rest)
    (hc : isAlphanumeric c = true ∧ isForeignNumeral c = false) (text : String) :
    opensForeign (word ++ text) = false := by
  rw [opensForeign, String.toList_append, h, List.cons_append, List.find?_cons_of_pos hc.1,
    Option.any_some, hc.2]

/-- The accessors of a property open with a letter of their own. -/
theorem opensForeign_accessors (name : String) :
    opensForeign (DerivedTemplates.standard.getter name) = false
      ∧ opensForeign (DerivedTemplates.standard.setter name) = false
      ∧ opensForeign (DerivedTemplates.standard.hydrator name) = false
      ∧ opensForeign (DerivedTemplates.standard.dehydrator name) = false := by
  have hget : "get_".toList = 'g' :: ['e', 't', '_'] := rfl
  have hset : "set_".toList = 's' :: ['e', 't', '_'] := rfl
  have hhydrate : "hydrate_".toList = 'h' :: ['y', 'd', 'r', 'a', 't', 'e', '_'] := rfl
  have hdehydrate : "dehydrate_".toList = 'd' :: ['e', 'h', 'y', 'd', 'r', 'a', 't', 'e', '_'] := rfl
  exact ⟨opensForeign_behind hget (by decide +kernel) name,
    opensForeign_behind hset (by decide +kernel) name,
    opensForeign_behind hhydrate (by decide +kernel) name,
    opensForeign_behind hdehydrate (by decide +kernel) name⟩

section Parts

variable {policy : NamingPolicy} (hc : policy.Cased) {forbidden taken : List String}

include hc

/-- The names of properties are spelled for their keys. -/
theorem SpelledFor.properties {idents : ClassIdents}
    (h : policy.PicksAll forbidden taken (idents.pickedProperties policy.templates)) :
    SpelledFor idents.propertyTexts idents.properties.keys := by
  have hentry : ∀ entry ∈ idents.properties.entries, SpelledFor entry.2.texts [entry.1] := by
    intro entry hm
    have hpicked : ∀ next ∈ entry.2.picked policy.templates entry.1,
        OpensAs (opensForeign next.display) next.text := fun next hnext =>
      h.opensAs hc next (List.mem_flatMap.mpr ⟨entry, hm, hnext⟩)
    rw [hc.templates] at hpicked
    simp only [PropertyIdents.picked, List.forall_mem_cons] at hpicked
    obtain ⟨hname, hgetter, hsetter, hhydrator, hdehydrator, -⟩ := hpicked
    obtain ⟨hget, hset, hhydrate, hdehydrate⟩ := opensForeign_accessors entry.2.name
    rw [hget] at hgetter
    rw [hset] at hsetter
    rw [hhydrate] at hhydrator
    rw [hdehydrate] at hdehydrator
    refine .single hname ?_
    simp only [List.forall_mem_cons]
    exact ⟨Or.inr hgetter, Or.inr hsetter, Or.inr hhydrator, Or.inr hdehydrator, by simp⟩
  have hall : List.Forall₂ (fun part shape : String × PropertyIdents =>
      SpelledFor part.2.texts [shape.1]) idents.properties.entries idents.properties.entries :=
    List.forall₂_same.mpr hentry
  have hspelled := SpelledFor.flatMap hall
  rw [← List.map_eq_flatMap] at hspelled
  rw [ClassIdents.propertyTexts, OrderedMap.values, List.flatMap_map, OrderedMap.keys]
  exact hspelled

/-- The name of a class and its functions are spelled for the name of the class. -/
theorem SpelledFor.functions {idents : ClassIdents} {display : String}
    (hname : OpensAs (opensForeign display) idents.name)
    (h : ∀ next ∈ idents.pickedFunctions policy.templates,
      OpensAs (opensForeign next.display) next.text) :
    SpelledFor (idents.name :: idents.functionTexts) [display] := by
  rw [hc.templates] at h
  simp only [ClassIdents.pickedFunctions, List.forall_mem_cons] at h
  obtain ⟨hhydrate, hdehydrate, -⟩ := h
  have hto : opensForeign (DerivedTemplates.standard.classHydrate idents.name)
      = opensForeign display := hname.opensForeign_append _
  have hfrom : opensForeign (DerivedTemplates.standard.classDehydrate idents.name)
      = opensForeign display := hname.opensForeign_append _
  rw [hto] at hhydrate
  rw [hfrom] at hdehydrate
  refine .single hname ?_
  simp only [ClassIdents.functionTexts, List.forall_mem_cons]
  exact ⟨Or.inl hhydrate, Or.inl hdehydrate, by simp⟩

/-- The cases of an enum are spelled for their tags. -/
theorem SpelledFor.cases {idents : EnumIdents}
    (h : policy.PicksAll forbidden taken idents.picked) :
    SpelledFor idents.cases.values idents.cases.keys := by
  have hentry : ∀ entry ∈ idents.cases.entries, SpelledFor [entry.2] [entry.1] := fun entry hm =>
    .single (h.opensAs hc ⟨.enumCase, entry.1, entry.2⟩ (List.mem_map_of_mem hm)) (by simp)
  have hall : List.Forall₂ (fun part shape : String × String => SpelledFor [part.2] [shape.1])
      idents.cases.entries idents.cases.entries := List.forall₂_same.mpr hentry
  have hspelled := SpelledFor.flatMap hall
  rw [← List.map_eq_flatMap, ← List.map_eq_flatMap] at hspelled
  exact hspelled

end Parts

/-- A type with a display name is declared under it. -/
theorem TypeGraph.mem_declared_of_displayName? {graph : TypeGraph} {id : TypeId} {type : Ty}
    {display : String} (ht : graph.get? id = some type)
    (hd : graph.displayName? id = some display) : (id, display) ∈ graph.declared :=
  mem_filterMap_iff.mpr ⟨mem_ids_of_get? ht, hd⟩

namespace GraphNames

variable {graph : TypeGraph} {policy : NamingPolicy} {names : GraphNames}

/-- The name of a class or enum is spelled for its display name. -/
theorem Plain.opensAs_nameOf (h : names.Plain graph policy) (hc : policy.Cased)
    {entry : TypeId × String} (hm : entry ∈ graph.declared) :
    OpensAs (opensForeign entry.2) (names.nameOf entry.1) :=
  h.types.opensAs hc ⟨.type, entry.2, names.nameOf entry.1⟩ (List.mem_map_of_mem hm)

/-- The identifiers of a class are spelled for its display texts. -/
theorem Plain.spelledFor_class (h : names.Plain graph policy) (hc : policy.Cased)
    {found : TypeId × ClassIdents} (hfound : found.2 ∈ names.classes.values)
    {entry : TypeId × ClassType} (hentry : entry ∈ graph.classes)
    (hfor : ForClass names.nameOf found entry) :
    SpelledFor found.2.texts entry.2.displayTexts := by
  obtain ⟨index, hi⟩ := List.getElem?_of_mem hfound
  have hget := TypeGraph.mem_classes_iff.mp hentry
  have hdisplay : graph.displayName? entry.1 = some entry.2.name := by
    rw [TypeGraph.displayName?, hget]
  have hname := h.opensAs_nameOf hc (TypeGraph.mem_declared_of_displayName? hget hdisplay)
  rw [← hfor.name] at hname
  have hfunctions := SpelledFor.functions hc hname fun next hm =>
    h.classNames.functions.opensAs hc next (List.mem_flatMap.mpr ⟨found.2, hfound, hm⟩)
  have hproperties := SpelledFor.properties hc (h.classNames.properties hi)
  rw [hfor.keys] at hproperties
  exact hfunctions.append hproperties

/-- The identifiers of an enum are spelled for its display texts. -/
theorem Plain.spelledFor_enum (h : names.Plain graph policy) (hc : policy.Cased)
    {found : TypeId × EnumIdents} (hfound : found.2 ∈ names.enums.values)
    {entry : TypeId × EnumType} (hentry : entry ∈ graph.enums)
    (hfor : ForEnum names.nameOf found entry) :
    SpelledFor found.2.texts entry.2.displayTexts := by
  have hget := TypeGraph.mem_enums_iff.mp hentry
  have hdisplay : graph.displayName? entry.1 = some entry.2.name := by
    rw [TypeGraph.displayName?, hget]
  have hname := h.opensAs_nameOf hc (TypeGraph.mem_declared_of_displayName? hget hdisplay)
  rw [← hfor.name] at hname
  have hcases := SpelledFor.cases hc (h.caseNames found.2 hfound)
  rw [hfor.keys] at hcases
  have hown : SpelledFor [found.2.name] [entry.2.name] := .single hname (by simp)
  exact hown.append hcases

/-- All identifiers of a graph are spelled for its display texts. -/
theorem Plain.spelledFor (h : names.Plain graph policy) (hc : policy.Cased) :
    SpelledFor names.texts graph.displayTexts := by
  have hclasses : List.Forall₂ (fun idents shape => SpelledFor idents.texts shape.displayTexts)
      names.classes.values (graph.classes.map Prod.snd) := by
    rw [OrderedMap.values, List.forall₂_map_left_iff, List.forall₂_map_right_iff]
    exact forall₂_imp_of_mem h.classes fun found hfound entry hentry hfor =>
      h.spelledFor_class hc (List.mem_map_of_mem hfound) hentry hfor
  have henums : List.Forall₂ (fun idents shape => SpelledFor idents.texts shape.displayTexts)
      names.enums.values (graph.enums.map Prod.snd) := by
    rw [OrderedMap.values, List.forall₂_map_left_iff, List.forall₂_map_right_iff]
    exact forall₂_imp_of_mem h.enums fun found hfound entry hentry hfor =>
      h.spelledFor_enum hc (List.mem_map_of_mem hfound) hentry hfor
  exact (SpelledFor.flatMap hclasses).append (SpelledFor.flatMap henums)

/-- No identifier of a graph is reserved, and no property has a word reserved for properties. -/
theorem WellNamed.allowed (h : names.WellNamed graph policy) :
    (∀ text ∈ names.texts, text ∉ policy.reserved)
      ∧ ∀ idents ∈ names.classes.values, ∀ text ∈ idents.propertyTexts,
        text ∉ policy.propertyReserved := by
  refine ⟨fun text hm => ?_, fun idents hi text hm => (h.properties_allowed idents hi text hm).2.1⟩
  rcases List.mem_append.mp hm with hm | hm
  · obtain ⟨idents, hi, hm⟩ := List.mem_flatMap.mp hm
    simp only [ClassIdents.texts, ClassIdents.functionTexts, List.mem_cons, List.mem_append,
      List.not_mem_nil, or_false] at hm
    rcases hm with rfl | (rfl | rfl) | hm
    · exact h.globals_allowed _ (List.mem_append_left _
        (List.mem_append_left _ (List.mem_map_of_mem hi)))
    · exact h.globals_allowed _ (List.mem_append_right _
        (List.mem_append_left _ (List.mem_map_of_mem hi)))
    · exact h.globals_allowed _ (List.mem_append_right _
        (List.mem_append_right _ (List.mem_map_of_mem hi)))
    · exact (h.properties_allowed idents hi text hm).1
  · obtain ⟨idents, hi, hm⟩ := List.mem_flatMap.mp hm
    rcases List.mem_cons.mp hm with rfl | hm
    · exact h.globals_allowed _ (List.mem_append_left _
        (List.mem_append_right _ (List.mem_map_of_mem hi)))
    · exact (h.cases_allowed idents hi text hm).1

/-- Under the policy of a target, identifiers are spelled legally and not reserved, and all
of them start legally exactly if no display text opens with a numeral beyond ASCII. -/
theorem legal_of_resolve (target : Target) (h : resolve graph target.policy = .ok names) :
    (∀ text ∈ names.texts, Spelled text ∧ text ∉ target.policy.reserved)
      ∧ (∀ idents ∈ names.classes.values, ∀ text ∈ idents.propertyTexts,
          text ∉ target.policy.propertyReserved)
      ∧ ((∀ text ∈ names.texts, StartsLegally text)
          ↔ ∀ display ∈ graph.displayTexts, opensForeign display = false) := by
  have hplain := plain_of_resolve h
  have hspelled := hplain.spelledFor target.cased
  obtain ⟨hreserved, hproperties⟩ := hplain.wellNamed.allowed
  refine ⟨fun text hm => ⟨?_, hreserved text hm⟩, hproperties, hspelled.startLegally_iff⟩
  obtain ⟨foreign, hopensAs, -⟩ := hspelled.origin text hm
  exact hopensAs.spelled

/-- A class without a name, whose fields need a mark and a number; an enum with a numeral
that is not first, and a reserved word as its case. -/
def digitGraph : TypeGraph where
  types := [.string,
    .classType ⟨"", ⟨[("2fa", ⟨⟨0⟩, false⟩), ("get_2fa", ⟨⟨0⟩, true⟩)], by decide⟩⟩,
    .enumType ⟨"n٣", ⟨["self"], by decide⟩⟩]
  topLevels := .empty
  sound := by decide

/-- The identifiers of the graph for Rust. -/
def digitNames : GraphNames where
  classes := ⟨[(⟨1⟩, ⟨"Tempty", "tempty_to_json", "tempty_from_json",
    ⟨[("2fa", ⟨"_2fa", "get_2fa", "set_2fa", "hydrate_2fa", "dehydrate_2fa", false⟩),
      ("get_2fa", ⟨"get_2fa2", "get_get_2fa2", "set_get_2fa2", "hydrate_get_2fa2",
        "dehydrate_get_2fa2", true⟩)], by decide⟩⟩)], by decide⟩
  enums := ⟨[(⟨2⟩, ⟨"N٣", ⟨[("self", "Self_")], by decide⟩⟩)], by decide⟩

/-- All identifiers of the graph start legally. -/
theorem legal_of_resolve_digit :
    resolve digitGraph Target.rust.policy = .ok digitNames
      ∧ ∀ text ∈ digitNames.texts, StartsLegally text := by
  have hresolve : resolve digitGraph Target.rust.policy = .ok digitNames := by decide +kernel
  refine ⟨hresolve, (legal_of_resolve .rust hresolve).2.2.mpr ?_⟩
  have hall : digitGraph.displayTexts.all (fun display => !opensForeign display) = true := by
    decide +kernel
  exact fun display hm => Bool.not_eq_true' _ |>.mp (List.all_eq_true.mp hall display hm)

/-- A class with a field whose key is an Arabic numeral. -/
def numeralGraph : TypeGraph where
  types := [.string, .classType ⟨"Item", ⟨[("٣", ⟨⟨0⟩, false⟩)], by decide⟩⟩]
  topLevels := .empty
  sound := by decide

/-- The identifiers of the graph for Rust; the property begins with the numeral. -/
def numeralNames : GraphNames where
  classes := ⟨[(⟨1⟩, ⟨"Item", "item_to_json", "item_from_json",
    ⟨[("٣", ⟨"٣", "get_٣", "set_٣", "hydrate_٣", "dehydrate_٣", false⟩)], by decide⟩⟩)],
    by decide⟩
  enums := .empty

/-- Not all identifiers start legally. -/
theorem not_startsLegally_of_resolve :
    ∃ (graph : TypeGraph) (names : GraphNames) (text : String),
      resolve graph .rust = .ok names ∧ text ∈ names.texts ∧ ¬StartsLegally text := by
  refine ⟨numeralGraph, numeralNames, "٣", by decide +kernel, by decide +kernel, ?_⟩
  rintro ⟨c, hhead, -, hnumeric⟩
  cases (show ("٣".toList.head? = some '٣') from rfl).symm.trans hhead
  exact absurd hnumeric (by decide +kernel)

end GraphNames

end Hydration
