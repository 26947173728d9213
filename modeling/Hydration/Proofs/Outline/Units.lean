import Hydration.Outline.Plan
import Hydration.Proofs.Naming.Distinct
import Hydration.Proofs.Outline.Lines
import Hydration.Proofs.Plan.Faithful

/-!
# The units of an outline

An outline of a plan with the names of its graph has a unit for each enum, class and
union codec and no other. The name of a unit is that of its type behind the sort of
the type: the types of a graph have distinct names, and so no unit takes the place of
another. Since there is a name for every class and enum, with one for each field and
case, nothing that is planned is left out.
-/

namespace Hydration

/-- The text of an id can be read back from its digits. -/
theorem TypeId.text_injective : Function.Injective TypeId.text := by
  rintro ⟨i⟩ ⟨j⟩ h
  exact congrArg TypeId.mk (ofDigitChars_repr.injective ((String.append_right_inj "#").mp h))

namespace TypeGraph

variable {graph : TypeGraph} {id : TypeId}

/-- A class is one of the declared types. -/
theorem mem_declared_of_class {shape : ClassType} (h : graph.get? id = some (.classType shape)) :
    id ∈ graph.declared.map Prod.fst :=
  mem_declared_iff.mpr (Or.inl (List.mem_map.mpr ⟨(id, shape), mem_classes_iff.mpr h, rfl⟩))

/-- An enum is one of the declared types. -/
theorem mem_declared_of_enum {shape : EnumType} (h : graph.get? id = some (.enumType shape)) :
    id ∈ graph.declared.map Prod.fst :=
  mem_declared_iff.mpr (Or.inr (List.mem_map.mpr ⟨(id, shape), mem_enums_iff.mpr h, rfl⟩))

end TypeGraph

namespace GraphNames.Plain

variable {names : GraphNames} {graph : TypeGraph} {policy : NamingPolicy} {id : TypeId}

/-- A class has a name and one for each of its fields. -/
theorem exists_classIdents (h : names.Plain graph policy) {shape : ClassType}
    (ht : graph.get? id = some (.classType shape)) :
    ∃ idents, names.classes.get? id = some idents ∧ idents.name = names.nameOf id
      ∧ idents.properties.keys = shape.fields.keys := by
  have hentry : (id, shape) ∈ graph.classes := TypeGraph.mem_classes_iff.mpr ht
  obtain ⟨index, hi⟩ := List.getElem?_of_mem hentry
  obtain ⟨idents, hget, -, hname, hkeys⟩ := exists_of_entryFor h.classes hi
  exact ⟨idents, hget, hname, hkeys⟩

/-- An enum has a name and one for each of its cases. -/
theorem exists_enumIdents (h : names.Plain graph policy) {shape : EnumType}
    (ht : graph.get? id = some (.enumType shape)) :
    ∃ idents, names.enums.get? id = some idents ∧ idents.name = names.nameOf id
      ∧ idents.cases.keys = shape.cases.toList := by
  have hentry : (id, shape) ∈ graph.enums := TypeGraph.mem_enums_iff.mpr ht
  obtain ⟨index, hi⟩ := List.getElem?_of_mem hentry
  obtain ⟨idents, hget, -, hname, hkeys⟩ := exists_of_entryFor h.enums hi
  exact ⟨idents, hget, hname, hkeys⟩

/-- A declared type has its name. -/
theorem typeName?_eq_nameOf (h : names.Plain graph policy)
    (hid : id ∈ graph.declared.map Prod.fst) : names.typeName? id = some (names.nameOf id) :=
  GraphNames.typeName?_eq h.classes h.enums hid

/-- Types of the same name are the same. -/
theorem eq_of_nameOf_eq (h : names.Plain graph policy) {other : TypeId}
    (hid : id ∈ graph.declared.map Prod.fst) (hother : other ∈ graph.declared.map Prod.fst)
    (heq : names.nameOf id = names.nameOf other) : id = other := by
  have hn : (names.typeTexts graph).Nodup :=
    h.typeNames_perm.nodup_iff.mp h.wellNamed.globals_nodup.of_append_left
  rw [← GraphNames.map_nameOf_declared] at hn
  exact List.inj_on_of_nodup_map hn hid hother heq

end GraphNames.Plain

namespace Outline

open Plan (ClassOf EnumOf UnionOf)

variable (names : GraphNames) (graph : TypeGraph) (known : TypeId → Prop)

/-- What an enum's unit says of a case: the identifier of the tag, and the tag. -/
inductive CaseText (idents : EnumIdents) : String → String → Prop
  | intro {tag ident : String} (hi : idents.cases.get? tag = some ident) :
      CaseText idents tag (ident ++ " = " ++ Text.Quoted.encode tag)

/-- The unit of an enum: under the identifier of the enum, a line for each declared case. -/
inductive EnumUnit : TypeId × EnumConverter → String × String → Prop
  | intro {id : TypeId} {converter : EnumConverter} {idents : EnumIdents} {cases : List String}
      (he : EnumOf graph id converter) (hi : names.enums.get? id = some idents)
      (hc : List.Forall₂ (CaseText idents) converter.cases.toList cases) :
      EnumUnit (id, converter) ("enum " ++ idents.name, Line.allWritten 0
        (Line.block ("enum " ++ idents.name ++ " (" ++ id.text ++ ")") (Line.flat cases)))

/-- What a class's unit says of a field: the identifier of the key, the key itself, the rule
of the field and whether it may be absent, and below this the identifiers of its functions. -/
inductive FieldText (idents : ClassIdents) : FieldConverter → List Line → Prop
  | intro {field : FieldConverter} {property : PropertyIdents}
      (hi : idents.properties.get? field.key = some property) :
      FieldText idents field (Line.block
        (property.name ++ " <- " ++ Text.Quoted.encode field.key ++ ": "
          ++ field.rule.outlineText names
          ++ " (" ++ (if field.optional then "optional" else "required") ++ ")")
        (Line.flat [property.getter ++ " / " ++ property.setter,
          property.hydrator ++ " / " ++ property.dehydrator]))

/-- The unit of a class: under the identifier of the class, its functions and then an entry
for each declared field. -/
inductive ClassUnit : TypeId × ClassConverter → String × String → Prop
  | intro {id : TypeId} {converter : ClassConverter} {idents : ClassIdents}
      {fields : List (List Line)}
      (hc : ClassOf graph known id converter) (hi : names.classes.get? id = some idents)
      (hf : List.Forall₂ (FieldText names idents) converter.fields fields) :
      ClassUnit (id, converter) ("class " ++ idents.name, Line.allWritten 0
        (Line.block ("class " ++ idents.name ++ " (" ++ id.text ++ ")")
          (Line.flat ["hydrate: " ++ idents.hydrate, "dehydrate: " ++ idents.dehydrate]
            ++ fields.flatten)))

/-- The unit of a union codec: under the id of the union, a line for each member. -/
inductive UnionUnit : TypeId × UnionCodec → String × String → Prop
  | intro {id : TypeId} {codec : UnionCodec} (hu : UnionOf graph known id codec) :
      UnionUnit (id, codec) ("union " ++ id.text, Line.allWritten 0
        (Line.block ("union " ++ id.text) (Line.flat (codecLines names codec))))

variable {names} {graph} {known}

/-! ## The lines of each unit -/

/-- The line of a case is its identifier and its tag. -/
theorem CaseText.writes {id : TypeId} {idents : EnumIdents} {tag text : String}
    (h : CaseText idents tag text) (hi : names.enums.get? id = some idents) :
    (Writing.line (caseText names id tag ++ " = " ++ Text.Quoted.encode tag)).Writes
      [⟨0, text⟩] := by
  obtain ⟨hident⟩ := h
  rw [caseText, hi, Option.bind_some, hident, Option.getD_some]
  exact Writing.writes_line _

/-- The unit of an enum is a block with a line for each case. -/
theorem writes_enumUnit {id : TypeId} {converter : EnumConverter} {idents : EnumIdents}
    {cases : List String} (hi : names.enums.get? id = some idents)
    (hc : List.Forall₂ (CaseText idents) converter.cases.toList cases) (name : String) :
    (enumUnit names id converter name).Writes
      (Line.block ("enum " ++ name ++ " (" ++ id.text ++ ")") (Line.flat cases)) :=
  (Writing.writes_eachLine (hc.imp fun _ _ hcase => hcase.writes hi)).block _

/-- The lines of a field are those of its identifiers. -/
theorem FieldText.writes {idents : ClassIdents} {field : FieldConverter} {lines : List Line}
    (h : FieldText names idents field lines) :
    (match idents.properties.get? field.key with
      | some property => fieldLines names field property
      | none => return () : Writing Unit).Writes lines := by
  obtain ⟨hproperty⟩ := h
  rw [hproperty]
  exact ((Writing.writes_line _).andThen (Writing.writes_line _)).block _

/-- The unit of a class is a block with its functions and the lines of its fields. -/
theorem writes_classUnit {id : TypeId} {converter : ClassConverter} {idents : ClassIdents}
    {fields : List (List Line)}
    (hf : List.Forall₂ (FieldText names idents) converter.fields fields) :
    (classUnit names id converter idents).Writes
      (Line.block ("class " ++ idents.name ++ " (" ++ id.text ++ ")")
        (Line.flat ["hydrate: " ++ idents.hydrate, "dehydrate: " ++ idents.dehydrate]
          ++ fields.flatten)) := by
  have heach := Writing.writes_each (hf.imp fun _ _ hfield => hfield.writes)
  exact ((Writing.writes_line _).andThen ((Writing.writes_line _).andThen heach)).block _

/-- The unit of a union is a block with the lines of its codec. -/
theorem writes_unionUnit (names : GraphNames) (id : TypeId) (codec : UnionCodec) :
    (unionUnit names id codec).Writes
      (Line.block ("union " ++ id.text) (Line.flat (codecLines names codec))) :=
  (Writing.writes_eachLine
    (List.forall₂_same.mpr fun text _ => Writing.writes_line text)).block _

/-! ## Adding units -/

/-- Adding the entry of a type puts a unit for it under the name of the type. -/
structure Adds {α : Type} (add : Outline → TypeId × α → Outline)
    (unitOf : TypeId × α → String × String → Prop) (nameOf : TypeId → String)
    (entry : TypeId × α) (unit : String × String) : Prop where
  /-- The unit is one for the entry. -/
  isUnit : unitOf entry unit
  /-- It is named for the type. -/
  name : unit.1 = nameOf entry.1
  /-- It is what is added. -/
  add : ∀ outline, add outline entry = outline.put unit

section Adds

variable {α : Type} {add : Outline → TypeId × α → Outline}
  {unitOf : TypeId × α → String × String → Prop} {nameOf : TypeId → String}
  {entries : List (TypeId × α)} {units : List (String × String)}

/-- Adding entries one after the other puts their units. -/
theorem Adds.foldl (h : List.Forall₂ (Adds add unitOf nameOf) entries units) (outline : Outline) :
    entries.foldl add outline = units.foldl put outline := by
  induction h generalizing outline with
  | nil => rfl
  | cons ha _ ih => rw [List.foldl_cons, List.foldl_cons, ha.add, ih]

/-- The units have the names of the types. -/
theorem Adds.titles (h : List.Forall₂ (Adds add unitOf nameOf) entries units) :
    units.map Prod.fst = (entries.map Prod.fst).map nameOf := by
  rw [List.map_map]
  exact (map_eq_of_forall₂ h fun _ _ ha => ha.name.symm).symm

end Adds

/-- The name of an enum's unit. -/
def enumTitle (names : GraphNames) (id : TypeId) : String := "enum " ++ names.nameOf id

/-- The name of a class's unit. -/
def classTitle (names : GraphNames) (id : TypeId) : String := "class " ++ names.nameOf id

/-- The name of a union codec's unit. -/
def unionTitle (id : TypeId) : String := "union " ++ id.text

variable {policy : NamingPolicy} {id : TypeId}

/-- There is an identifier for each case of an enum, so its unit is added complete. -/
theorem exists_adds_enum (h : names.Plain graph policy) {converter : EnumConverter}
    (he : EnumOf graph id converter) :
    ∃ unit, Adds (addEnum names) (EnumUnit names graph) (enumTitle names) (id, converter) unit := by
  obtain ⟨ht⟩ := he
  rename_i shape
  obtain ⟨idents, hi, hname, hkeys⟩ := h.exists_enumIdents ht
  have hcases : ∃ cases, List.Forall₂ (CaseText idents) shape.cases.toList cases :=
    exists_forall₂ fun tag hm => by
      rw [← hkeys, OrderedMap.mem_keys_iff] at hm
      obtain ⟨ident, hident⟩ := hm
      exact ⟨_, .intro hident⟩
  obtain ⟨cases, hc⟩ := hcases
  have hdeclared := TypeGraph.mem_declared_of_enum ht
  refine ⟨_, .intro (.intro ht) hi hc, congrArg ("enum " ++ ·) hname, fun outline => ?_⟩
  rw [addEnum, h.typeName?_eq_nameOf hdeclared, Option.getD_some, ← hname]
  exact record_eq (writes_enumUnit hi hc _) _ _

/-- There are identifiers for each field of a class, so its unit is added complete. -/
theorem exists_adds_class (h : names.Plain graph policy) {converter : ClassConverter}
    (hc : ClassOf graph known id converter) :
    ∃ unit, Adds (addClass names) (ClassUnit names graph known) (classTitle names)
      (id, converter) unit := by
  obtain ⟨ht, hfields⟩ := hc
  rename_i shape fields
  obtain ⟨idents, hi, hname, hkeys⟩ := h.exists_classIdents ht
  have htexts : ∃ texts, List.Forall₂ (FieldText names idents) fields texts :=
    exists_forall₂ fun field hm => by
      have hkey : field.key ∈ idents.properties.keys := by
        rw [hkeys, OrderedMap.keys, ← Plan.map_key_eq hfields]
        exact List.mem_map_of_mem hm
      obtain ⟨property, hproperty⟩ := OrderedMap.mem_keys_iff.mp hkey
      exact ⟨_, .intro hproperty⟩
  obtain ⟨texts, hf⟩ := htexts
  refine ⟨_, .intro (.intro ht hfields) hi hf, congrArg ("class " ++ ·) hname, fun outline => ?_⟩
  rw [addClass, hi]
  exact record_eq (writes_classUnit hf) _ _

/-- The codec of a union adds one unit, under the title of the union. -/
theorem exists_adds_union {codec : UnionCodec} (hu : UnionOf graph known id codec) :
    ∃ unit, Adds (addUnion names) (UnionUnit names graph known) unionTitle (id, codec) unit :=
  ⟨_, .intro hu, rfl, fun outline => record_eq (writes_unionUnit names id codec) outline _⟩

/-! ## Names of units -/

/-- Texts behind a word are distinct if the texts are. -/
theorem nodup_titles {ids : List TypeId} (hn : ids.Nodup) (word : String)
    {nameOf : TypeId → String}
    (hinj : ∀ id ∈ ids, ∀ other ∈ ids, nameOf id = nameOf other → id = other) :
    (ids.map fun id => word ++ nameOf id).Nodup :=
  hn.map_on fun id hid other hother heq =>
    hinj id hid other hother ((String.append_right_inj word).mp heq)

/-- Texts that begin differently are different. -/
theorem disjoint_titles {ids others : List TypeId} {titleOf otherOf : TypeId → String}
    {first second : Char} (hne : first ≠ second)
    (hfirst : ∀ id, (titleOf id).toList.head? = some first)
    (hsecond : ∀ id, (otherOf id).toList.head? = some second) :
    (ids.map titleOf).Disjoint (others.map otherOf) := by
  intro title htitle hother
  obtain ⟨id, -, rfl⟩ := List.mem_map.mp htitle
  obtain ⟨other, -, heq⟩ := List.mem_map.mp hother
  have hhead := hsecond other
  rw [heq, hfirst] at hhead
  exact hne (Option.some.inj hhead)

theorem head?_enumTitle (names : GraphNames) (id : TypeId) :
    (enumTitle names id).toList.head? = some 'e' := by
  simp [enumTitle]

theorem head?_classTitle (names : GraphNames) (id : TypeId) :
    (classTitle names id).toList.head? = some 'c' := by
  simp [classTitle]

theorem head?_unionTitle (id : TypeId) : (unionTitle id).toList.head? = some 'u' := by
  simp [unionTitle]

/-- The units of a plan have distinct names. -/
theorem nodup_unitTitles {plan : Converters} (h : names.Plain graph policy)
    (hp : plan.Faithful graph) :
    (plan.enums.keys.map (enumTitle names) ++ plan.classes.keys.map (classTitle names)
      ++ plan.unions.keys.map unionTitle).Nodup := by
  have henum : ∀ id ∈ plan.enums.keys, id ∈ graph.declared.map Prod.fst := by
    intro id hid
    obtain ⟨converter, hc⟩ := OrderedMap.mem_keys_iff.mp hid
    obtain ⟨ht⟩ := hp.enums id converter hc
    exact TypeGraph.mem_declared_of_enum ht
  have hclass : ∀ id ∈ plan.classes.keys, id ∈ graph.declared.map Prod.fst := by
    intro id hid
    obtain ⟨converter, hc⟩ := OrderedMap.mem_keys_iff.mp hid
    obtain ⟨ht, -⟩ := hp.classes id converter hc
    exact TypeGraph.mem_declared_of_class ht
  have henums : (plan.enums.keys.map (enumTitle names)).Nodup :=
    nodup_titles plan.enums.nodup _ fun id hid other hother =>
      h.eq_of_nameOf_eq (henum id hid) (henum other hother)
  have hclasses : (plan.classes.keys.map (classTitle names)).Nodup :=
    nodup_titles plan.classes.nodup _ fun id hid other hother =>
      h.eq_of_nameOf_eq (hclass id hid) (hclass other hother)
  have hunions : (plan.unions.keys.map unionTitle).Nodup :=
    nodup_titles plan.unions.nodup _ fun _ _ _ _ heq => TypeId.text_injective heq
  refine ((henums.append hclasses ?_).append hunions ?_)
  · exact disjoint_titles (by decide) (head?_enumTitle names) (head?_classTitle names)
  · rw [List.disjoint_append_left]
    exact ⟨disjoint_titles (by decide) (head?_enumTitle names) head?_unionTitle,
      disjoint_titles (by decide) (head?_classTitle names) head?_unionTitle⟩

/-- Units with distinct names are recorded in order, and none takes the place of another. -/
theorem entries_foldl_put {units : List (String × String)} (h : (units.map Prod.fst).Nodup) :
    (units.foldl put empty).units.entries = units := by
  have hunits : ∀ (rest : List (String × String)) (outline : Outline),
      (rest.foldl put outline).units
        = rest.foldl (fun m entry => m.insert entry.1 entry.2) outline.units := by
    intro rest
    induction rest with
    | nil => exact fun _ => rfl
    | cons unit rest ih => exact fun outline => ih (outline.put unit)
  rw [hunits]
  exact OrderedMap.entries_ofList h

variable {entries : List TypeId} {routing : UnionRouting} {plan : Converters}

/-- The outline of a plan has one unit for each enum, class and union codec, in this order
and in the order of the plan, each complete: a line for every case and an entry for every
field, in declared order and with the identifiers of the graph. -/
theorem units_ofPlan (hnames : GraphNames.resolve graph policy = .ok names)
    (hplan : Converters.build graph entries routing = .ok plan) :
    ∃ enums classes unions,
      (ofPlan names plan).units.entries = enums ++ classes ++ unions
        ∧ List.Forall₂ (EnumUnit names graph) plan.enums.entries enums
        ∧ List.Forall₂ (ClassUnit names graph plan.Records) plan.classes.entries classes
        ∧ List.Forall₂ (UnionUnit names graph plan.Records) plan.unions.entries unions := by
  have h := GraphNames.plain_of_resolve hnames
  have hp := Converters.faithful_of_build hplan
  obtain ⟨enums, henums⟩ : ∃ enums, List.Forall₂
      (Adds (addEnum names) (EnumUnit names graph) (enumTitle names)) plan.enums.entries enums :=
    exists_forall₂ fun entry hm =>
      exists_adds_enum h (hp.enums entry.1 entry.2 (OrderedMap.mem_entries_iff.mp hm))
  obtain ⟨classes, hclasses⟩ : ∃ classes, List.Forall₂
      (Adds (addClass names) (ClassUnit names graph plan.Records) (classTitle names))
      plan.classes.entries classes :=
    exists_forall₂ fun entry hm =>
      exists_adds_class h (hp.classes entry.1 entry.2 (OrderedMap.mem_entries_iff.mp hm))
  obtain ⟨unions, hunions⟩ : ∃ unions, List.Forall₂
      (Adds (addUnion names) (UnionUnit names graph plan.Records) unionTitle)
      plan.unions.entries unions :=
    exists_forall₂ fun entry hm =>
      exists_adds_union (hp.unions entry.1 entry.2 (OrderedMap.mem_entries_iff.mp hm))
  have hfold : ofPlan names plan = (enums ++ classes ++ unions).foldl put empty := by
    rw [List.foldl_append, List.foldl_append, ofPlan, Adds.foldl henums, Adds.foldl hclasses,
      Adds.foldl hunions]
  have hn : ((enums ++ classes ++ unions).map Prod.fst).Nodup := by
    rw [List.map_append, List.map_append, Adds.titles henums, Adds.titles hclasses,
      Adds.titles hunions]
    exact nodup_unitTitles h hp
  refine ⟨enums, classes, unions, ?_, henums.imp fun _ _ ha => ha.isUnit,
    hclasses.imp fun _ _ ha => ha.isUnit, hunions.imp fun _ _ ha => ha.isUnit⟩
  rw [hfold]
  exact entries_foldl_put hn

/-- An enum and a class of one name; a field of the class has the values of the enum and
integers. -/
def choiceGraph : TypeGraph where
  types := [.enumType ⟨"Item", ⟨["Item", "new"], by decide⟩⟩,
    .union ⟨[⟨2⟩, ⟨0⟩], by decide⟩, .integer,
    .classType ⟨"Item", ⟨[("kind", ⟨⟨1⟩, false⟩), ("next", ⟨⟨3⟩, true⟩)], by decide⟩⟩]
  topLevels := .empty
  sound := by decide

/-- The identifiers of the enum and of the class, the latter with a suffix. -/
def choiceNames : GraphNames where
  classes := ⟨[(⟨3⟩, ⟨"Item2", "Item2_to_json", "Item2_from_json",
    ⟨[("kind", ⟨"kind", "get_kind", "set_kind", "hydrate_kind", "dehydrate_kind", false⟩),
      ("next", ⟨"next", "get_next", "set_next", "hydrate_next", "dehydrate_next", true⟩)],
      by decide⟩⟩)], by decide⟩
  enums := ⟨[(⟨0⟩, ⟨"Item", ⟨[("Item", "Item3"), ("new", "new2")], by decide⟩⟩)], by decide⟩

/-- The plan of the class, with the enum and the codec of the union. -/
def choicePlan : Converters where
  entries := [⟨3⟩]
  classes := ⟨[(⟨3⟩, ⟨⟨3⟩, "Item",
    [⟨"kind", false, .unionRef ⟨1⟩⟩, ⟨"next", true, .classRef ⟨3⟩⟩]⟩)], by decide⟩
  enums := ⟨[(⟨0⟩, ⟨⟨0⟩, "Item", ⟨["Item", "new"], by decide⟩⟩)], by decide⟩
  unions := ⟨[(⟨1⟩, { UnionCodec.blank ⟨1⟩ with integer := true, enumeration := some ⟨0⟩ })],
    by decide⟩

/-- The outline of a class with an enum of its name and a union. -/
theorem units_ofPlan_choice :
    GraphNames.resolve choiceGraph GraphNames.itemPolicy = .ok choiceNames
      ∧ Converters.build choiceGraph [⟨3⟩] .codec = .ok choicePlan
      ∧ ∃ enums classes unions,
        (ofPlan choiceNames choicePlan).units.entries = enums ++ classes ++ unions
          ∧ List.Forall₂ (EnumUnit choiceNames choiceGraph) choicePlan.enums.entries enums
          ∧ List.Forall₂ (ClassUnit choiceNames choiceGraph choicePlan.Records)
            choicePlan.classes.entries classes
          ∧ List.Forall₂ (UnionUnit choiceNames choiceGraph choicePlan.Records)
            choicePlan.unions.entries unions := by
  have hnames : GraphNames.resolve choiceGraph GraphNames.itemPolicy = .ok choiceNames := by
    decide +kernel
  have hplan : Converters.build choiceGraph [⟨3⟩] .codec = .ok choicePlan := by decide +kernel
  exact ⟨hnames, hplan, units_ofPlan hnames hplan⟩

example : (ofPlan choiceNames choicePlan).units.get? "enum Item"
    = some "enum Item (#0)\n    Item3 = \"Item\"\n    new2 = \"new\"\n" := by decide +kernel

end Outline

end Hydration
