import Hydration.Proofs.Typed.RoundTrip

/-!
# Dehydrating decides conformance

`Conforms graph id value` says that a value is one of a type, read from the
graph alone. A plan accepts exactly the values that conform: planning keeps
what a type stands for, and the interpreter follows the plan.
-/

namespace Hydration

open Plan (RuleOf FieldOf CodecOf HasMember)

namespace TypeGraph

variable (graph : TypeGraph)

/-- A value is one of a type. -/
inductive Conforms : TypeId → Json → Prop where
  /-- Every value. -/
  | any {id : TypeId} (h : graph.get? id = some .any) (value : Json) : Conforms id value
  /-- Null. -/
  | null {id : TypeId} (h : graph.get? id = some .null) : Conforms id .null
  /-- A truth value. -/
  | bool {id : TypeId} (h : graph.get? id = some .bool) (b : Bool) : Conforms id (.bool b)
  /-- An integer token that fits. -/
  | integer {id : TypeId} {n : Json.Number} {i : Int64} (h : graph.get? id = some .integer)
      (hn : n.toInt64? = some i) : Conforms id (.number n)
  /-- Every number. -/
  | double {id : TypeId} (h : graph.get? id = some .double) (n : Json.Number) :
      Conforms id (.number n)
  /-- Every string. -/
  | string {id : TypeId} (h : graph.get? id = some .string) (text : String) :
      Conforms id (.string text)
  /-- A string that its interpretation parses. -/
  | transformed {id : TypeId} {kind : TransformKind} {text : String} {parsed : Transformed}
      (h : graph.get? id = some (.transformed (.known kind)))
      (hp : kind.parse text = .ok parsed) : Conforms id (.string text)
  /-- An array of conforming elements. -/
  | array {id inner : TypeId} {items : List Json} (h : graph.get? id = some (.array inner))
      (hi : ∀ item ∈ items, Conforms inner item) : Conforms id (.array items)
  /-- An object of conforming values. -/
  | map {id inner : TypeId} {members : List (String × Json)}
      (h : graph.get? id = some (.map inner))
      (hv : ∀ member ∈ members, Conforms inner member.2) : Conforms id (.object members)
  /-- A case of an enum. -/
  | enumCase {id : TypeId} {shape : EnumType} {tag : String}
      (h : graph.get? id = some (.enumType shape)) (hc : shape.cases.contains tag = true) :
      Conforms id (.string tag)
  /-- An object in which each declared field is missing with the field optional,
  null with the field optional, or a conforming value. -/
  | object {id : TypeId} {shape : ClassType} {members : List (String × Json)}
      (h : graph.get? id = some (.classType shape))
      (hm : ∀ entry ∈ shape.fields.entries, Entries.get? entry.1 members = none →
        entry.2.optional = true)
      (hf : ∀ entry ∈ shape.fields.entries, ∀ value, Entries.get? entry.1 members = some value →
        ¬(value = .null ∧ entry.2.optional = true) → Conforms entry.2.type value) :
      Conforms id (.object members)
  /-- Null for a union of null alone. -/
  | nullOnly {id : TypeId} {members : OrderedSet TypeId}
      (h : graph.get? id = some (.union members))
      (hs : graph.unionShape members = .nullOnly) : Conforms id .null
  /-- A value of the only member. -/
  | single {id member : TypeId} {members : OrderedSet TypeId} {value : Json}
      (h : graph.get? id = some (.union members))
      (hs : graph.unionShape members = .single member) (hv : Conforms member value) :
      Conforms id value
  /-- Null for a nullable type. -/
  | absent {id member : TypeId} {members : OrderedSet TypeId}
      (h : graph.get? id = some (.union members))
      (hs : graph.unionShape members = .nullable member) : Conforms id .null
  /-- A value of the type made nullable. -/
  | present {id member : TypeId} {members : OrderedSet TypeId} {value : Json}
      (h : graph.get? id = some (.union members))
      (hs : graph.unionShape members = .nullable member) (hv : Conforms member value) :
      Conforms id value
  /-- Null with a null member. -/
  | unionNull {id member : TypeId} {members : OrderedSet TypeId} {nullable : Bool}
      (h : graph.get? id = some (.union members))
      (hs : graph.unionShape members = .multi nullable) (hm : member ∈ members.toList)
      (ht : graph.get? member = some .null) : Conforms id .null
  /-- A truth value with a member of truth values. -/
  | unionBool {id member : TypeId} {members : OrderedSet TypeId} {nullable : Bool}
      (h : graph.get? id = some (.union members))
      (hs : graph.unionShape members = .multi nullable) (hm : member ∈ members.toList)
      (ht : graph.get? member = some .bool) (b : Bool) : Conforms id (.bool b)
  /-- A number that fits with an integer member. -/
  | unionInteger {id member : TypeId} {members : OrderedSet TypeId} {nullable : Bool}
      {n : Json.Number} {i : Int64} (h : graph.get? id = some (.union members))
      (hs : graph.unionShape members = .multi nullable) (hm : member ∈ members.toList)
      (ht : graph.get? member = some .integer) (hn : n.toInt64? = some i) :
      Conforms id (.number n)
  /-- Any other number with a number member. -/
  | unionDouble {id member : TypeId} {members : OrderedSet TypeId} {nullable : Bool}
      {n : Json.Number} (h : graph.get? id = some (.union members))
      (hs : graph.unionShape members = .multi nullable) (hm : member ∈ members.toList)
      (ht : graph.get? member = some .double)
      (hn : ∀ other ∈ members.toList, graph.get? other = some .integer → n.toInt64? = none) :
      Conforms id (.number n)
  /-- A case of the enum member. -/
  | unionEnum {id member : TypeId} {members : OrderedSet TypeId} {nullable : Bool}
      {shape : EnumType} {text : String} (h : graph.get? id = some (.union members))
      (hs : graph.unionShape members = .multi nullable) (hm : member ∈ members.toList)
      (ht : graph.get? member = some (.enumType shape))
      (hc : shape.cases.contains text = true) : Conforms id (.string text)
  /-- Any other string that is one of the string member. -/
  | unionString {id member : TypeId} {members : OrderedSet TypeId} {nullable : Bool}
      {text : String} (h : graph.get? id = some (.union members))
      (hs : graph.unionShape members = .multi nullable) (hm : member ∈ members.toList)
      (hc : ∀ other ∈ members.toList, ∀ shape, graph.get? other = some (.enumType shape) →
        shape.cases.contains text = false)
      (hk : graph.kind? member = some .string) (hv : Conforms member (.string text)) :
      Conforms id (.string text)
  /-- An array that is one of the array member. -/
  | unionArray {id member : TypeId} {members : OrderedSet TypeId} {nullable : Bool}
      {items : List Json} (h : graph.get? id = some (.union members))
      (hs : graph.unionShape members = .multi nullable) (hm : member ∈ members.toList)
      (hk : graph.kind? member = some .array) (hv : Conforms member (.array items)) :
      Conforms id (.array items)
  /-- An object that is one of the class member. -/
  | unionObject {id member : TypeId} {members : OrderedSet TypeId} {nullable : Bool}
      {entries : List (String × Json)} (h : graph.get? id = some (.union members))
      (hs : graph.unionShape members = .multi nullable) (hm : member ∈ members.toList)
      (hk : graph.kind? member = some .classKind) (hv : Conforms member (.object entries)) :
      Conforms id (.object entries)
  /-- Without a class member, an object that is one of the map member. -/
  | unionMap {id member : TypeId} {members : OrderedSet TypeId} {nullable : Bool}
      {entries : List (String × Json)} (h : graph.get? id = some (.union members))
      (hs : graph.unionShape members = .multi nullable) (hm : member ∈ members.toList)
      (hc : ∀ other ∈ members.toList, graph.kind? other ≠ some .classKind)
      (hk : graph.kind? member = some .map) (hv : Conforms member (.object entries)) :
      Conforms id (.object entries)

variable {graph}

/-- A type of the kind of classes is a class. -/
theorem get?_of_kind?_class {id : TypeId} (h : graph.kind? id = some .classKind) :
    ∃ shape, graph.get? id = some (.classType shape) := by
  unfold kind? at h
  obtain ⟨type, ht, hk⟩ := Option.map_eq_some_iff.mp h
  cases type with
  | classType shape => exact ⟨shape, ht⟩
  | _ => cases hk

end TypeGraph

namespace Converters

open TypeGraph (Conforms)

variable {graph : TypeGraph} {plan : Converters}

/-- Null conforms to a type with a nullable rule. -/
theorem conforms_null {type : TypeId} {rule : Rule} (hr : RuleOf graph plan.Records type rule)
    (hn : rule.isNullable = true) : Conforms graph type .null := by
  induction hr with
  | single h hs _ ih => exact .single h hs (ih hn)
  | nullable h hs => exact .absent h hs
  | _ => cases hn

/-- A rule that converts null reads it. -/
theorem reads_null {rule : Rule} (h : plan.acceptsNull rule = true) :
    ∃ typed, plan.Reads rule .null typed := by
  unfold acceptsNull at h
  split at h
  · exact ⟨_, reads_iff.mpr (.any .null)⟩
  · exact ⟨_, reads_iff.mpr .null⟩
  · exact ⟨_, reads_iff.mpr (.absent _)⟩
  · split at h
    · rename_i hu
      exact ⟨_, reads_iff.mpr (.union hu (.null h))⟩
    · cases h
  · cases h

/-- A field that conforms or may be absent is read. -/
theorem exists_fieldLayer {members : List (String × Json)} {entry : String × Field}
    {field : FieldConverter} (hfield : FieldOf graph plan.Records entry field)
    (hm : Entries.get? entry.1 members = none → entry.2.optional = true)
    (hf : ∀ value, Entries.get? entry.1 members = some value →
      ¬(value = .null ∧ entry.2.optional = true) → ∃ typed, plan.Reads field.rule value typed) :
    ∃ typed, plan.FieldLayer plan.Reads members field typed := by
  rw [← hfield.key, ← hfield.optional] at hm
  rw [← hfield.key, ← hfield.optional] at hf
  cases hg : Entries.get? field.key members with
  | none => exact ⟨none, .missing hg (hm hg)⟩
  | some value =>
    by_cases hdropped : value = .null ∧ plan.dropsNull field = true
    · obtain ⟨rfl, hd⟩ := hdropped
      exact ⟨none, .dropped hg hd⟩
    · have hkept : value = .null → plan.dropsNull field = false := by
        intro hv
        rw [Bool.eq_false_iff]
        exact fun hd => hdropped ⟨hv, hd⟩
      have hread : ∃ typed, plan.Reads field.rule value typed := by
        by_cases hoptional : value = .null ∧ field.optional = true
        · obtain ⟨rfl, ho⟩ := hoptional
          have hd := hkept rfl
          rw [dropsNull, ho, Bool.true_and, Bool.or_eq_false_iff, Bool.not_eq_false'] at hd
          exact reads_null hd.2
        · exact hf value hg hoptional
      obtain ⟨typed, htyped⟩ := hread
      exact ⟨some typed, .present hg hkept htyped⟩

/-- A value is read by a rule, and it conforms to the types that have the rule. -/
def ReadsConforming (graph : TypeGraph) (plan : Converters) (rule : Rule) (value : Json)
    (typed : TypedValue) : Prop :=
  plan.Reads rule value typed
    ∧ ∀ type, RuleOf graph plan.Records type rule → Conforms graph type value

/-- The elements of an array conform if they are read so. -/
theorem conforms_items {inner : TypeId} {rule : Rule} {items : List Json}
    {typed : List TypedValue} (hr : RuleOf graph plan.Records inner rule)
    (h : List.Forall₂ (ReadsConforming graph plan rule) items typed) :
    ∀ item ∈ items, Conforms graph inner item := by
  intro item hi
  obtain ⟨read, -, -, hread⟩ := exists_of_forall₂_left h hi
  exact hread inner hr

/-- The values of a map conform if they are read so. -/
theorem conforms_entries {inner : TypeId} {rule : Rule} {members : List (String × Json)}
    {typed : List (String × TypedValue)} (hr : RuleOf graph plan.Records inner rule)
    (h : List.Forall₂ (fun member entry => entry.1 = member.1
      ∧ ReadsConforming graph plan rule member.2 entry.2) members typed) :
    ∀ member ∈ members, Conforms graph inner member.2 := by
  intro member hm
  obtain ⟨read, -, -, -, hread⟩ := exists_of_forall₂_left h hm
  exact hread inner hr

section Faithful

variable (hp : plan.Faithful graph)
include hp

/-- The cases of a codec's enum member are those of the enum among the members. -/
theorem isCaseOf_iff_member {id : TypeId} {members : List TypeId} {codec : UnionCodec}
    (hcodec : CodecOf graph plan.Records id members codec) {text : String} :
    plan.isCaseOf codec text = true ↔ ∃ member ∈ members, ∃ shape,
      graph.get? member = some (.enumType shape) ∧ shape.cases.contains text = true := by
  rw [isCaseOf_iff]
  constructor
  · rintro ⟨member, converter, hmember, he, hcase⟩
    obtain ⟨hm, shape, ht⟩ := hcodec.enumeration_iff.mp hmember
    cases he.symm.trans (hp.enum_of ht (hcodec.known_of_member (Or.inr hmember)))
    exact ⟨member, hm, shape, ht, hcase⟩
  · rintro ⟨member, hm, shape, ht, hcase⟩
    have hmember := hcodec.enumeration_iff.mpr ⟨hm, shape, ht⟩
    have hfound := hp.enum_of ht (hcodec.known_of_member (Or.inr hmember))
    exact ⟨member, _, hmember, hfound, hcase⟩

/-- An instance conforms to its class if its fields do to their types. -/
theorem conforms_object {id : TypeId} {shape : ClassType} {value : Json} {object : TypedObject}
    (ht : graph.get? id = some (.classType shape))
    (ho : plan.ObjectLayer (ReadsConforming graph plan) id value object) :
    Conforms graph id value := by
  obtain ⟨hc, hf⟩ := ho
  rename_i converter members fields
  obtain ⟨ht', hfields⟩ := hp.classes id converter hc
  cases ht.symm.trans ht'
  have hdeclared : ∀ entry ∈ shape.fields.entries, ∃ field typed,
      FieldOf graph plan.Records entry field
        ∧ plan.FieldLayer (ReadsConforming graph plan) members field typed := by
    intro entry hm
    obtain ⟨field, hmem, hfield⟩ := exists_of_forall₂_left hfields hm
    obtain ⟨read, -, -, hread⟩ := exists_of_forall₂_left hf hmem
    exact ⟨field, read.2, hfield, hread⟩
  refine .object ht (fun entry hm hnone => ?_) fun entry hm value hsome hkept => ?_
  · obtain ⟨field, typed, hfield, hread⟩ := hdeclared entry hm
    rw [← hfield.key] at hnone
    rw [← hfield.optional]
    cases hread with
    | missing _ ho => exact ho
    | dropped hg => cases hnone.symm.trans hg
    | present hg => cases hnone.symm.trans hg
  · obtain ⟨field, typed, hfield, hread⟩ := hdeclared entry hm
    rw [← hfield.key] at hsome
    rw [← hfield.optional] at hkept
    cases hread with
    | missing hg => cases hg.symm.trans hsome
    | dropped hg hd =>
      cases hg.symm.trans hsome
      rcases omitsNull_or_required hd with ⟨ho, -⟩ | ⟨-, hnullable⟩
      · exact absurd ⟨rfl, ho⟩ hkept
      · exact conforms_null hfield.rule hnullable
    | present hg _ hr =>
      cases hg.symm.trans hsome
      exact hr.2 _ hfield.rule

/-- A value that a codec reads conforms to the union if its parts do. -/
theorem conforms_union {id : TypeId} {members : OrderedSet TypeId} {nullable : Bool}
    {codec : UnionCodec} {value : Json} {slots : UnionValue}
    (ht : graph.get? id = some (.union members))
    (hs : graph.unionShape members = .multi nullable)
    (hcodec : CodecOf graph plan.Records id members.toList codec)
    (hlayer : plan.UnionLayer (ReadsConforming graph plan) codec value slots) :
    Conforms graph id value := by
  cases hlayer with
  | null hn =>
    obtain ⟨member, hm, hmt⟩ := hcodec.nullable_iff.mp hn
    exact .unionNull ht hs hm hmt
  | bool b hb =>
    obtain ⟨member, hm, hmt⟩ := hcodec.boolean_iff.mp hb
    exact .unionBool ht hs hm hmt b
  | integer hi hn =>
    obtain ⟨member, hm, hmt⟩ := hcodec.integer_iff.mp hi
    exact .unionInteger ht hs hm hmt hn
  | double hi hd =>
    obtain ⟨member, hm, hmt⟩ := hcodec.double_iff.mp hd
    refine .unionDouble ht hs hm hmt fun other ho hot => ?_
    exact hi (hcodec.integer_iff.mpr ⟨other, ho, hot⟩)
  | enumCase hc =>
    obtain ⟨member, hm, shape, hmt, hcase⟩ := (isCaseOf_iff_member hp hcodec).mp hc
    exact .unionEnum ht hs hm hmt hcase
  | @string rule text typed he hc hstring htext =>
    have hother : ∀ other ∈ members.toList, ∀ shape,
        graph.get? other = some (.enumType shape) → shape.cases.contains text = false := by
      intro other ho shape hot
      rw [Bool.eq_false_iff]
      intro hcase
      have hmember := (isCaseOf_iff_member hp hcodec).mpr ⟨other, ho, shape, hot, hcase⟩
      cases hc.symm.trans hmember
    cases htext with
    | plain =>
      obtain ⟨member, hm, hmt⟩ := hcodec.plain_iff.mp hstring
      exact .unionString ht hs hm hother (TypeGraph.kind?_of_get? hmt) (.string hmt _)
    | transformed hparse =>
      obtain ⟨member, hm, hmt⟩ := hcodec.transformed_iff.mp hstring
      exact .unionString ht hs hm hother (TypeGraph.kind?_of_get? hmt) (.transformed hmt hparse)
  | array ha hitems =>
    obtain ⟨member, hm, inner, hmt, hinner⟩ := hcodec.array_member ha
    exact .unionArray ht hs hm (TypeGraph.kind?_of_get? hmt)
      (.array hmt (conforms_items hinner hitems))
  | object hmember ho =>
    obtain ⟨hm, shape, hmt⟩ := hcodec.classMember_iff.mp hmember
    exact .unionObject ht hs hm (TypeGraph.kind?_of_get? hmt) (conforms_object hp hmt ho)
  | map hnone hmap hentries =>
    obtain ⟨member, hm, inner, hmt, hinner⟩ := hcodec.map_member hmap
    refine .unionMap ht hs hm (fun other ho hkind => ?_) (TypeGraph.kind?_of_get? hmt)
      (.map hmt (conforms_entries hinner hentries))
    have hclass := hcodec.classMember_iff.mpr ⟨ho, TypeGraph.get?_of_kind?_class hkind⟩
    cases hnone.symm.trans hclass

/-- What is read by the rule of a type conforms to the type. -/
theorem conforms_of_reads {rule : Rule} {value : Json} {typed : TypedValue}
    (h : plan.Reads rule value typed) :
    ∀ type, RuleOf graph plan.Records type rule → Conforms graph type value := by
  refine Reads.induct (fun rule value typed hlayer => ?_) h
  intro type hr
  -- A union of one member has its rule and its values: only the type is smaller there.
  induction hr with
  | any ht => exact .any ht value
  | null ht =>
    cases hlayer
    exact .null ht
  | bool ht =>
    cases hlayer
    exact .bool ht _
  | integer ht =>
    cases hlayer with
    | integer hn => exact .integer ht hn
  | double ht =>
    cases hlayer
    exact .double ht _
  | string ht =>
    cases hlayer
    exact .string ht _
  | transformed ht =>
    cases hlayer with
    | transformed hparse => exact .transformed ht hparse
  | array ht hinner =>
    cases hlayer with
    | array hitems => exact .array ht (conforms_items hinner hitems)
  | map ht hinner =>
    cases hlayer with
    | map hentries => exact .map ht (conforms_entries hinner hentries)
  | classRef ht hk =>
    cases hlayer with
    | object ho => exact conforms_object hp ht ho
  | enumRef ht hk =>
    cases hlayer with
    | enumCase he hc =>
      cases he.symm.trans (hp.enum_of ht hk)
      exact .enumCase ht hc
  | nullOnly ht hs =>
    cases hlayer
    exact .nullOnly ht hs
  | single ht hs _ ih => exact .single ht hs (ih hlayer)
  | nullable ht hs hinner =>
    cases hlayer with
    | absent => exact .absent ht hs
    | present hv hread => exact .present ht hs (hread.2 _ hinner)
  | @unionRef id members nullable ht hs hk =>
    cases hlayer with
    | union hu hlayer =>
      obtain ⟨codec, hu', hcodec⟩ := hp.union_of ht hk
      cases hu.symm.trans hu'
      exact conforms_union hp ht hs hcodec hlayer

/-- An object is read by the rule of its class if the values of its fields are. -/
theorem reads_object_of_fields {id : TypeId} {shape : ClassType} {rule : Rule}
    {members : List (String × Json)} (ht : graph.get? id = some (.classType shape))
    (hr : RuleOf graph plan.Records id rule)
    (hm : ∀ entry ∈ shape.fields.entries, Entries.get? entry.1 members = none →
      entry.2.optional = true)
    (hf : ∀ entry ∈ shape.fields.entries, ∀ value, Entries.get? entry.1 members = some value →
      ¬(value = .null ∧ entry.2.optional = true) →
      ∀ rule, RuleOf graph plan.Records entry.2.type rule → ∃ typed, plan.Reads rule value typed) :
    ∃ typed, plan.Reads rule (.object members) typed := by
  obtain ⟨rfl, hk⟩ := hr.eq_classRef ht
  obtain ⟨fields, hc, hfields⟩ := hp.class_of ht hk
  have hfield : ∀ field ∈ fields, ∃ entry : String × Option TypedValue,
      entry.1 = field.key ∧ plan.FieldLayer plan.Reads members field entry.2 := by
    intro field hmem
    obtain ⟨entry, hentry, hof⟩ := exists_of_forall₂_right hfields hmem
    obtain ⟨typed, htyped⟩ := exists_fieldLayer hof (hm entry hentry)
      fun value hg hkept => hf entry hentry value hg hkept _ hof.rule
    exact ⟨(field.key, typed), rfl, htyped⟩
  obtain ⟨typed, htyped⟩ := exists_forall₂ hfield
  exact ⟨_, reads_iff.mpr (.object (.intro hc htyped))⟩

section Union

variable {id : TypeId} {members : OrderedSet TypeId} {codec : UnionCodec}

/-- A value is read by the rule of a union if it is by the codec of the union. -/
theorem reads_of_unionLayer {nullable : Bool} {rule : Rule} {value : Json}
    (ht : graph.get? id = some (.union members))
    (hs : graph.unionShape members = .multi nullable) (hr : RuleOf graph plan.Records id rule)
    (hlayer : ∀ codec, plan.unions.get? id = some codec →
      CodecOf graph plan.Records id members.toList codec →
      ∃ slots, plan.UnionLayer plan.Reads codec value slots) :
    ∃ typed, plan.Reads rule value typed := by
  obtain ⟨rfl, hk⟩ := hr.eq_unionRef ht hs
  obtain ⟨codec, hu, hcodec⟩ := hp.union_of ht hk
  obtain ⟨slots, hslots⟩ := hlayer codec hu hcodec
  exact ⟨_, reads_iff.mpr (.union hu hslots)⟩

variable (hu : plan.unions.get? id = some codec)
  (hcodec : CodecOf graph plan.Records id members.toList codec)
  {member : TypeId} (hm : member ∈ members.toList)
include hu hcodec hm

/-- A string that is no case is read if it is by the rule of the string member. -/
theorem exists_stringLayer {text : String}
    (hc : ∀ other ∈ members.toList, ∀ shape, graph.get? other = some (.enumType shape) →
      shape.cases.contains text = false)
    (hk : graph.kind? member = some .string)
    (hv : ∀ rule, RuleOf graph plan.Records member rule →
      ∃ typed, plan.Reads rule (.string text) typed) :
    ∃ slots, plan.UnionLayer plan.Reads codec (.string text) slots := by
  have hcase : plan.isCaseOf codec text = false := by
    rw [Bool.eq_false_iff]
    intro hcase
    obtain ⟨other, ho, shape, hot, htag⟩ := (isCaseOf_iff_member hp hcodec).mp hcase
    cases (hc other ho shape hot).symm.trans htag
  have he := hp.exists_enumeration hu
  cases hcodec.member member hm with
  | string ht hstring => exact ⟨_, .string he hcase hstring (.plain text)⟩
  | transformed ht hstring =>
    obtain ⟨typed, htyped⟩ := hv _ (.transformed ht)
    cases reads_iff.mp htyped with
    | transformed hparse => exact ⟨_, .string he hcase hstring (.transformed hparse)⟩
  | _ ht => cases hk.symm.trans (TypeGraph.kind?_of_get? ht)

omit hp hu in
/-- An array is read if it is by the rule of the array member. -/
theorem exists_arrayLayer {items : List Json} (hk : graph.kind? member = some .array)
    (hv : ∀ rule, RuleOf graph plan.Records member rule →
      ∃ typed, plan.Reads rule (.array items) typed) :
    ∃ slots, plan.UnionLayer plan.Reads codec (.array items) slots := by
  cases hcodec.member member hm with
  | array ht hrule hslot =>
    obtain ⟨typed, htyped⟩ := hv _ (.array ht hrule)
    cases reads_iff.mp htyped with
    | array hitems => exact ⟨_, .array hslot hitems⟩
  | _ ht => cases hk.symm.trans (TypeGraph.kind?_of_get? ht)

omit hp hu in
/-- An object is read if it is by the rule of the class member. -/
theorem exists_objectLayer {entries : List (String × Json)}
    (hk : graph.kind? member = some .classKind)
    (hv : ∀ rule, RuleOf graph plan.Records member rule →
      ∃ typed, plan.Reads rule (.object entries) typed) :
    ∃ slots, plan.UnionLayer plan.Reads codec (.object entries) slots := by
  cases hcodec.member member hm with
  | classMember ht hrecords hslot =>
    obtain ⟨typed, htyped⟩ := hv _ (.classRef ht hrecords)
    cases reads_iff.mp htyped with
    | object ho => exact ⟨_, .object hslot ho⟩
  | _ ht => cases hk.symm.trans (TypeGraph.kind?_of_get? ht)

omit hp hu in
/-- Without a class member, an object is read if it is by the rule of the map member. -/
theorem exists_mapLayer {entries : List (String × Json)}
    (hc : ∀ other ∈ members.toList, graph.kind? other ≠ some .classKind)
    (hk : graph.kind? member = some .map)
    (hv : ∀ rule, RuleOf graph plan.Records member rule →
      ∃ typed, plan.Reads rule (.object entries) typed) :
    ∃ slots, plan.UnionLayer plan.Reads codec (.object entries) slots := by
  have hnone : codec.classMember = none := by
    rw [Option.eq_none_iff_forall_ne_some]
    intro other hother
    obtain ⟨ho, shape, hot⟩ := hcodec.classMember_iff.mp hother
    exact hc other ho (TypeGraph.kind?_of_get? hot)
  cases hcodec.member member hm with
  | map ht hrule hslot =>
    obtain ⟨typed, htyped⟩ := hv _ (.map ht hrule)
    cases reads_iff.mp htyped with
    | map hentries => exact ⟨_, .map hnone hslot hentries⟩
  | _ ht => cases hk.symm.trans (TypeGraph.kind?_of_get? ht)

end Union

/-- What conforms to a type is read by the rule of the type. -/
theorem reads_of_conforms {type : TypeId} {value : Json} (h : Conforms graph type value)
    {rule : Rule} (hr : RuleOf graph plan.Records type rule) :
    ∃ typed, plan.Reads rule value typed := by
  induction h generalizing rule with
  | any h value =>
    obtain rfl := hr.inv h
    exact ⟨_, reads_iff.mpr (.any value)⟩
  | null h =>
    obtain rfl := hr.inv h
    exact ⟨_, reads_iff.mpr .null⟩
  | bool h b =>
    obtain rfl := hr.inv h
    exact ⟨_, reads_iff.mpr (.bool b)⟩
  | integer h hn =>
    obtain rfl := hr.inv h
    exact ⟨_, reads_iff.mpr (.integer hn)⟩
  | double h n =>
    obtain rfl := hr.inv h
    exact ⟨_, reads_iff.mpr (.double n)⟩
  | string h text =>
    obtain rfl := hr.inv h
    exact ⟨_, reads_iff.mpr (.string text)⟩
  | transformed h hparse =>
    obtain ⟨_, ⟨⟩, rfl⟩ := hr.inv h
    exact ⟨_, reads_iff.mpr (.transformed hparse)⟩
  | array h _ ih =>
    obtain ⟨inner, rfl, hinner⟩ := hr.inv h
    obtain ⟨typed, htyped⟩ := exists_forall₂ fun item hi => ih item hi hinner
    exact ⟨_, reads_iff.mpr (.array htyped)⟩
  | @map id inner members h _ ih =>
    obtain ⟨values, rfl, hvalues⟩ := hr.inv h
    have hentry : ∀ member ∈ members, ∃ entry : String × TypedValue,
        entry.1 = member.1 ∧ plan.Reads values member.2 entry.2 := by
      intro member hm
      obtain ⟨typed, htyped⟩ := ih member hm hvalues
      exact ⟨(member.1, typed), rfl, htyped⟩
    obtain ⟨typed, htyped⟩ := exists_forall₂ hentry
    exact ⟨_, reads_iff.mpr (.map htyped)⟩
  | enumCase h hc =>
    obtain ⟨rfl, hk⟩ := hr.inv h
    exact ⟨_, reads_iff.mpr (.enumCase (hp.enum_of h hk) hc)⟩
  | object h hm _ ih =>
    exact reads_object_of_fields hp h hr hm fun entry he value hg hkept rule hrule =>
      ih entry he value hg hkept hrule
  | nullOnly h hs =>
    obtain rfl := hr.eq_null h hs
    exact ⟨_, reads_iff.mpr .null⟩
  | single h hs _ ih => exact ih (hr.single_member h hs)
  | absent h hs =>
    obtain ⟨inner, rfl, -⟩ := hr.nullable_member h hs
    exact ⟨_, reads_iff.mpr (.absent inner)⟩
  | @present id member members value h hs _ ih =>
    obtain ⟨inner, rfl, hinner⟩ := hr.nullable_member h hs
    by_cases hv : value = .null
    · subst hv
      exact ⟨_, reads_iff.mpr (.absent inner)⟩
    · obtain ⟨typed, htyped⟩ := ih hinner
      exact ⟨typed, reads_iff.mpr (.present hv htyped)⟩
  | unionNull h hs hm ht =>
    refine reads_of_unionLayer hp h hs hr fun codec _ hcodec => ?_
    exact ⟨_, .null (hcodec.nullable_iff.mpr ⟨_, hm, ht⟩)⟩
  | unionBool h hs hm ht b =>
    refine reads_of_unionLayer hp h hs hr fun codec _ hcodec => ?_
    exact ⟨_, .bool b (hcodec.boolean_iff.mpr ⟨_, hm, ht⟩)⟩
  | unionInteger h hs hm ht hn =>
    refine reads_of_unionLayer hp h hs hr fun codec _ hcodec => ?_
    exact ⟨_, .integer (hcodec.integer_iff.mpr ⟨_, hm, ht⟩) hn⟩
  | @unionDouble id member members nullable n h hs hm ht hn =>
    refine reads_of_unionLayer hp h hs hr fun codec _ hcodec => ?_
    have hi : codec.integer = true → n.toInt64? = none := by
      intro hi
      obtain ⟨other, ho, hot⟩ := hcodec.integer_iff.mp hi
      exact hn other ho hot
    exact ⟨_, .double hi (hcodec.double_iff.mpr ⟨_, hm, ht⟩)⟩
  | unionEnum h hs hm ht hc =>
    refine reads_of_unionLayer hp h hs hr fun codec _ hcodec => ?_
    exact ⟨_, .enumCase ((isCaseOf_iff_member hp hcodec).mpr ⟨_, hm, _, ht, hc⟩)⟩
  | unionString h hs hm hc hk _ ih =>
    exact reads_of_unionLayer hp h hs hr fun codec hu hcodec =>
      exists_stringLayer hp hu hcodec hm hc hk fun rule hrule => ih hrule
  | unionArray h hs hm hk _ ih =>
    exact reads_of_unionLayer hp h hs hr fun codec _ hcodec =>
      exists_arrayLayer hcodec hm hk fun rule hrule => ih hrule
  | unionObject h hs hm hk _ ih =>
    exact reads_of_unionLayer hp h hs hr fun codec _ hcodec =>
      exists_objectLayer hcodec hm hk fun rule hrule => ih hrule
  | unionMap h hs hm hc hk _ ih =>
    exact reads_of_unionLayer hp h hs hr fun codec _ hcodec =>
      exists_mapLayer hcodec hm hc hk fun rule hrule => ih hrule

end Faithful

/-- A planned class accepts exactly the values that conform to it. -/
theorem dehydrates_iff_conforms {entries : List TypeId} {routing : UnionRouting}
    (h : build graph entries routing = .ok plan) {id : TypeId} (hid : id ∈ plan.classes.keys)
    (value : Json) : (∃ typed, plan.dehydrate id value = .ok typed) ↔ Conforms graph id value := by
  have hp := faithful_of_build h
  obtain ⟨converter, hc⟩ := OrderedMap.mem_keys_iff.mp hid
  have hr : RuleOf graph plan.Records id (.classRef id) := by
    obtain ⟨ht, -⟩ := hp.classes id converter hc
    exact .classRef ht (Or.inl hid)
  constructor
  · rintro ⟨typed, htyped⟩
    exact conforms_of_reads hp (dehydrate_eq_ok.mp htyped) id hr
  · intro hconforms
    obtain ⟨typed, htyped⟩ := reads_of_conforms hp hconforms hr
    cases reads_iff.mp htyped with
    | object ho => exact ⟨_, dehydrate_eq_ok.mpr htyped⟩

/-- The text of an integer conforms to what a box holds, another text does not. -/
theorem dehydrates_iff_conforms_box :
    (⟨6⟩ : TypeId) ∈ boxPlan.classes.keys
      ∧ Conforms boxGraph ⟨6⟩ (.object [("v", .string "05")])
      ∧ ¬Conforms boxGraph ⟨6⟩ (.object [("v", .string "five")]) := by
  have hbuild : build boxGraph [⟨6⟩] .codec = .ok boxPlan := rfl
  have hmem : (⟨6⟩ : TypeId) ∈ boxPlan.classes.keys := List.mem_singleton_self _
  have hread : boxPlan.dehydrate ⟨6⟩ (.object [("v", .string "05")]) = .ok (boxOf 5) := rfl
  refine ⟨hmem, (dehydrates_iff_conforms hbuild hmem _).mp ⟨boxOf 5, hread⟩, fun hconforms => ?_⟩
  obtain ⟨typed, htyped⟩ := (dehydrates_iff_conforms hbuild hmem _).mpr hconforms
  cases htyped

end Converters

end Hydration
