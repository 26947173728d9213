import Hydration.Proofs.Naming.Plain
import Hydration.Proofs.Plan.Cycles
import Hydration.Proofs.Typed.Canonical
import Hydration.Proofs.Typed.Conformance
import Hydration.Proofs.Typed.Frames

/-!
# Where null is accepted

Whether null is a value is asked in three ways: of a type, of the rule of the type in a
plan, and of the interpreter by the rule. `acceptsNull_agree` says that the answers are
the same, so the mark of a property in the names of a graph is right about its field.
-/

namespace Hydration

namespace TypeGraph

variable {graph : TypeGraph} {id : TypeId} {members : OrderedSet TypeId}

/-- Null is a member of a union of several members if its shape says so. -/
theorem nullable_iff_of_multi {nullable : Bool}
    (hs : graph.unionShape members = .multi nullable) :
    nullable = true ↔ ∃ member ∈ members.toList, graph.get? member = some .null := by
  have hany : nullable = members.toList.any graph.isNullType := by
    unfold unionShape at hs
    dsimp only at hs
    split at hs
    · cases hs
    · split at hs <;> cases hs
    · cases hs
      rfl
  rw [hany, List.any_eq_true]
  simp [isNullType]

/-- A type that is no union accepts null if it is null or every value. -/
theorem acceptsNull_of_not_union {type : Ty} (h : graph.get? id = some type)
    (hu : type.kind ≠ .union) :
    graph.acceptsNull id = decide (type = .any ∨ type = .null) := by
  have hstands : graph.standsFor? id = some id :=
    standsForWithin_of_not_union fun inner hinner => by
      rw [h] at hinner
      cases hinner
      exact hu rfl
  rw [acceptsNull, hstands, Option.bind_some, h]
  cases type <;> first | rfl | exact absurd rfl hu

/-- A union accepts null as its shape says. -/
theorem acceptsNull_of_union (h : graph.get? id = some (.union members)) :
    graph.acceptsNull id = match graph.unionShape members with
      | .nullOnly => true
      | .nullable _ => true
      | .single member => graph.acceptsNull member
      | .multi nullable => nullable := by
  cases hs : graph.unionShape members with
  | single member =>
    have hmember : graph.standsFor? member = some member :=
      standsForWithin_of_not_union (member_of_unionShape h (Or.inl hs)).2.2
    show graph.acceptsNull id = graph.acceptsNull member
    unfold acceptsNull
    rw [standsFor?_of_single h hs, hmember]
  | _ =>
    have hstands : graph.standsFor? id = some id := by
      simp only [standsFor?, standsForWithin, h, hs]
    rw [acceptsNull, hstands, Option.bind_some, h]
    simp only [hs]

end TypeGraph

/-! ## Marks in the names -/

/-- Whether null is accepted at a field: it may mark absence, or the type accepts it. -/
def TypeGraph.marksNull (graph : TypeGraph) (field : Field) : Bool :=
  field.optional || graph.acceptsNull field.type

namespace NameAssignment

variable {graph : TypeGraph} {policy : NamingPolicy}

/-- The properties are marked as the fields say. -/
theorem allPropertyNames_marks (graph : TypeGraph) (templates : DerivedTemplates)
    (scope : ScopeId) (fields : List (String × Field)) (registry : NameRegistry) :
    (allPropertyNames graph templates scope fields registry).1.map
        (fun property => (property.key, property.nullable))
      = fields.map fun entry => (entry.1, graph.marksNull entry.2) := by
  induction fields generalizing registry with
  | nil => rfl
  | cons entry rest ih => exact congrArg ((entry.1, graph.marksNull entry.2) :: ·) (ih _)

/-- An entry is the one for a class, and its properties are marked as the fields say. -/
def MarkedFor (graph : TypeGraph) (found : TypeId × ClassIdents) (entry : TypeId × ClassType) :
    Prop :=
  found.1 = entry.1
    ∧ found.2.properties.entries.map (fun property => (property.1, property.2.nullable))
      = entry.2.fields.entries.map fun field => (field.1, graph.marksNull field.2)

/-- The properties of every class are marked as its fields say. -/
theorem classNames_markedFor (text : NameId → String) (names : List (TypeId × NameId))
    (classes : List (TypeId × ClassType)) (registry : NameRegistry) :
    List.Forall₂ (MarkedFor graph)
      ((classNames graph policy names classes registry).1.map fun entry =>
        (entry.1, classIdents text entry.2)) classes := by
  induction classes generalizing registry with
  | nil => exact .nil
  | cons entry rest ih =>
    have hkeys : (registerClass graph policy (typeName names entry.1) entry.2
        registry).1.properties.map PropertyNames.key = entry.2.fields.keys :=
      allPropertyNames_keys _ _ _ _ _
    have hn := entry.2.fields.nodup
    rw [← OrderedMap.keys, ← hkeys] at hn
    refine .cons ⟨rfl, ?_⟩ (ih _)
    rw [← allPropertyNames_marks]
    exact (congrArg _ (classIdents_properties hn text)).trans (by rw [List.map_map]; rfl)

end NameAssignment

open NameRegistry NameAssignment in
/-- A declared field has a property, marked as the field says. -/
theorem GraphNames.exists_property {graph : TypeGraph} {policy : NamingPolicy} {names : GraphNames}
    (h : resolve graph policy = .ok names) {id : TypeId} {shape : ClassType}
    (hs : graph.get? id = some (.classType shape)) {key : String} {field : Field}
    (hf : shape.fields.get? key = some field) :
    ∃ idents property, names.classes.get? id = some idents
      ∧ idents.properties.get? key = some property
      ∧ property.nullable = graph.marksNull field := by
  obtain ⟨assigned, hr, rfl⟩ := exists_rooted h
  have hentries := (entries_collect hr).1
  have hmarked : List.Forall₂ (MarkedFor graph) (classEntries graph policy (textOf assigned))
      graph.classes := classNames_markedFor _ _ _ _
  rw [← hentries] at hmarked
  have hclass : (id, shape) ∈ graph.classes := TypeGraph.mem_classes_iff.mpr hs
  obtain ⟨⟨_, idents⟩, hidents, rfl, hmarks⟩ := exists_of_forall₂_right hmarked hclass
  have hfield : (key, graph.marksNull field) ∈ idents.properties.entries.map
      fun property => (property.1, property.2.nullable) := by
    rw [hmarks]
    exact List.mem_map.mpr ⟨(key, field), OrderedMap.mem_entries_iff.mpr hf, rfl⟩
  obtain ⟨⟨found, property⟩, hproperty, heq⟩ := List.mem_map.mp hfield
  obtain ⟨hkey, hmark⟩ := Prod.mk.inj heq
  obtain rfl : found = key := hkey
  exact ⟨idents, property, OrderedMap.mem_entries_iff.mp hidents,
    OrderedMap.mem_entries_iff.mp hproperty, hmark⟩

namespace Converters

open Plan (RuleOf)

variable {graph : TypeGraph} {plan : Converters}

/-- A type accepts null if its rule does. -/
theorem acceptsNull_of_ruleOf (hp : plan.Faithful graph) {type : TypeId} {rule : Rule}
    (h : RuleOf graph plan.Records type rule) :
    graph.acceptsNull type = plan.acceptsNull rule := by
  induction h with
  | nullOnly ht hs =>
    rw [TypeGraph.acceptsNull_of_union ht, hs]
    rfl
  | single ht hs _ ih =>
    rw [TypeGraph.acceptsNull_of_union ht, hs]
    exact ih
  | nullable ht hs =>
    rw [TypeGraph.acceptsNull_of_union ht, hs]
    rfl
  | unionRef ht hs hk =>
    obtain ⟨codec, hu, hcodec⟩ := hp.union_of ht hk
    rw [TypeGraph.acceptsNull_of_union ht, hs, acceptsNull, hu]
    exact Bool.eq_iff_iff.mpr
      ((TypeGraph.nullable_iff_of_multi hs).trans hcodec.nullable_iff.symm)
  | _ ht =>
    rw [TypeGraph.acceptsNull_of_not_union ht (by simp [Ty.kind])]
    rfl

/-- A rule accepts null if null is read by it, at any place. -/
theorem acceptsNull_iff_reads (rule : Rule) (path : Path) :
    plan.acceptsNull rule = true ↔ ∃ typed, plan.dehydrateRule .null rule path = .ok typed := by
  constructor
  · intro h
    obtain ⟨typed, ht⟩ := reads_null h
    exact ⟨typed, ht path⟩
  · rintro ⟨typed, ht⟩
    exact acceptsNull_of_reads_null ((reads_iff_at path).mpr ht)

/-- An object is read as an instance if each of its fields is read. -/
theorem exists_dehydrate_iff {id : TypeId} {converter : ClassConverter}
    (hc : plan.classes.get? id = some converter) {members : List (String × Json)} :
    (∃ typed, plan.dehydrate id (.object members) = .ok typed)
      ↔ ∀ field ∈ converter.fields,
        ∃ typed, plan.FieldLayer plan.Reads members field typed := by
  constructor
  · rintro ⟨typed, ht⟩ field hf
    cases readObject_eq_ok.mp ht with
    | intro hc' hfields =>
      cases hc.symm.trans hc'
      obtain ⟨entry, -, -, hfield⟩ := exists_of_forall₂_left hfields hf
      exact ⟨entry.2, hfield⟩
  · intro h
    have hentry : ∀ field ∈ converter.fields, ∃ entry : String × Option TypedValue,
        entry.1 = field.key ∧ plan.FieldLayer plan.Reads members field entry.2 := by
      intro field hf
      obtain ⟨typed, ht⟩ := h field hf
      exact ⟨(field.key, typed), rfl, ht⟩
    obtain ⟨fields, hfields⟩ := exists_forall₂ hentry
    exact ⟨_, readObject_eq_ok.mpr (.intro hc hfields)⟩

/-- Null is read at a field if it marks absence or the rule accepts it. -/
theorem exists_fieldLayer_null_iff {members : List (String × Json)} {field : FieldConverter}
    (hg : Entries.get? field.key members = some .null) :
    (∃ typed, plan.FieldLayer plan.Reads members field typed)
      ↔ (field.optional || plan.acceptsNull field.rule) = true := by
  constructor
  · rintro ⟨typed, ht⟩
    cases ht with
    | missing hg' => cases hg.symm.trans hg'
    | dropped _ hd =>
      rcases Bool.or_eq_true_iff.mp hd with hnullable | hoptional
      · rw [acceptsNull_of_isNullable hnullable, Bool.or_true]
      · rw [(Bool.and_eq_true_iff.mp hoptional).1, Bool.true_or]
    | present hg' _ hr =>
      cases hg.symm.trans hg'
      rw [acceptsNull_of_reads_null hr, Bool.or_true]
  · intro h
    cases hd : plan.dropsNull field with
    | true => exact ⟨none, .dropped hg hd⟩
    | false =>
      have haccepts : plan.acceptsNull field.rule = true := by
        by_contra hnot
        rw [Bool.not_eq_true] at hnot
        rw [hnot, Bool.or_false] at h
        rw [dropsNull, h, hnot, Bool.not_false, Bool.and_true, Bool.or_true] at hd
        cases hd
      obtain ⟨typed, ht⟩ := reads_null haccepts
      exact ⟨some typed, .present hg (fun _ => hd) ht⟩

/-- Null in the place of the value of a field of an accepted object. -/
theorem exists_dehydrate_null_iff (hn : plan.DistinctKeys) {id : TypeId}
    {converter : ClassConverter} (hc : plan.classes.get? id = some converter)
    {field : FieldConverter} (hf : field ∈ converter.fields) {members : List (String × Json)}
    {typed : TypedObject} (h : plan.dehydrate id (.object members) = .ok typed) :
    (∃ again, plan.dehydrate id (.object (Entries.insert field.key .null members)) = .ok again)
      ↔ (field.optional || plan.acceptsNull field.rule) = true := by
  have hread := (exists_dehydrate_iff hc).mp ⟨typed, h⟩
  have hg : Entries.get? field.key (Entries.insert field.key .null members) = some .null := by
    rw [Entries.get?_insert, if_pos rfl]
  rw [exists_dehydrate_iff hc, ← exists_fieldLayer_null_iff hg]
  constructor
  · exact fun hall => hall field hf
  · intro hnull other ho
    by_cases hkey : field.key = other.key
    · rw [List.inj_on_of_nodup_map (hn id converter hc) ho hf hkey.symm]
      exact hnull
    · obtain ⟨value, hvalue⟩ := hread other ho
      have hsame : Entries.get? other.key members
          = Entries.get? other.key (Entries.insert field.key .null members) := by
        rw [Entries.get?_insert, if_neg hkey]
      have hother : plan.readField converter.name (plan.memberSources members) other Path.top
          = .ok value := readField_eq_ok.mpr hvalue
      rw [readField_congr hsame] at hother
      exact ⟨value, readField_eq_ok.mp hother⟩

/-- A type that the plan knows accepts null exactly when its rule does, and when null is
read by this rule. So the mark of a property says whether null may stand in the place of
the value of the field in any object of the class. -/
theorem acceptsNull_agree {entries : List TypeId} {routing : UnionRouting}
    (h : build graph entries routing = .ok plan) :
    (∀ type, graph.Reaches entries type → ∃ rule, RuleOf graph plan.Records type rule)
      ∧ (∀ type rule, RuleOf graph plan.Records type rule →
        graph.acceptsNull type = plan.acceptsNull rule
          ∧ ∀ path, plan.acceptsNull rule = true
            ↔ ∃ typed, plan.dehydrateRule .null rule path = .ok typed)
      ∧ ∀ policy names, GraphNames.resolve graph policy = .ok names →
        ∀ id converter, plan.classes.get? id = some converter → ∀ field ∈ converter.fields,
          ∃ idents property, names.classes.get? id = some idents
            ∧ idents.properties.get? field.key = some property
            ∧ ∀ members typed, plan.dehydrate id (.object members) = .ok typed →
              ((∃ again, plan.dehydrate id (.object (Entries.insert field.key .null members))
                  = .ok again)
                ↔ property.nullable = true) := by
  have hp := faithful_of_build h
  refine ⟨fun type => exists_rule_of_reaches hp (exists_rule_of_build h), ?_, ?_⟩
  · exact fun type rule hrule => ⟨acceptsNull_of_ruleOf hp hrule, acceptsNull_iff_reads rule⟩
  · intro policy names hnames id converter hc field hf
    obtain ⟨hs, hfields⟩ := hp.classes id converter hc
    obtain ⟨⟨key, declared⟩, hdeclared, hof⟩ := exists_of_forall₂_right hfields hf
    obtain ⟨idents, property, hidents, hproperty, hmark⟩ :=
      GraphNames.exists_property hnames hs (OrderedMap.mem_entries_iff.mp hdeclared)
    refine ⟨idents, property, hidents, hof.key ▸ hproperty, fun members typed ht => ?_⟩
    rw [exists_dehydrate_null_iff (fun _ _ => hp.nodup_keys) hc hf ht, hmark,
      TypeGraph.marksNull, hof.optional, acceptsNull_of_ruleOf hp hof.rule]

/-- The identifiers of boxes without styling. -/
def boxNames : GraphNames where
  classes := ⟨[(⟨6⟩, ⟨"Box", "Box_to_json", "Box_from_json", ⟨[
    ("v", ⟨"v", "get_v", "set_v", "hydrate_v", "dehydrate_v", false⟩),
    ("note", ⟨"note", "get_note", "set_note", "hydrate_note", "dehydrate_note", true⟩)],
      by decide⟩⟩)], by decide⟩
  enums := ⟨[(⟨0⟩, ⟨"Digit", ⟨[("5", "5")], by decide⟩⟩)], by decide⟩

/-- The note of a box may be null, but not what the box holds, and the names say so. -/
theorem acceptsNull_agree_box :
    (boxGraph.acceptsNull ⟨2⟩ = boxPlan.acceptsNull (.unionRef ⟨2⟩)
        ∧ ¬∃ typed, boxPlan.dehydrateRule .null (.unionRef ⟨2⟩) Path.top = .ok typed)
      ∧ (∃ again, boxPlan.dehydrate ⟨6⟩ (.object [("v", .string "5"), ("note", .null)])
        = .ok again)
      ∧ ¬∃ again, boxPlan.dehydrate ⟨6⟩ (.object [("v", .null)]) = .ok again := by
  have hbuild : build boxGraph [⟨6⟩] .codec = .ok boxPlan := rfl
  have hnames : GraphNames.resolve boxGraph .verbatim = .ok boxNames := by decide +kernel
  have hread : boxPlan.dehydrate ⟨6⟩ (.object [("v", .string "5")])
      = .ok ⟨⟨6⟩, [("v", some (.union { UnionSlots.null with enumCase := some "5" })),
        ("note", none)]⟩ := rfl
  obtain ⟨-, hrules, hmarks⟩ := acceptsNull_agree hbuild
  have hheld : RuleOf boxGraph boxPlan.Records ⟨2⟩ (.unionRef ⟨2⟩) :=
    .unionRef rfl rfl (Or.inr (Or.inr (List.mem_singleton_self _)))
  obtain ⟨hsame, hnull⟩ := hrules _ _ hheld
  refine ⟨⟨hsame, mt (hnull Path.top).mpr (by decide)⟩, ?_, ?_⟩
  · obtain ⟨idents, property, hidents, hproperty, hiff⟩ :=
      hmarks _ _ hnames ⟨6⟩ _ rfl _ (List.mem_cons_of_mem _ (List.mem_singleton_self _))
    cases hidents
    cases hproperty
    exact (hiff _ _ hread).mpr rfl
  · obtain ⟨idents, property, hidents, hproperty, hiff⟩ :=
      hmarks _ _ hnames ⟨6⟩ _ rfl _ List.mem_cons_self
    cases hidents
    cases hproperty
    exact mt (hiff _ _ hread).mp Bool.false_ne_true

end Converters

end Hydration
