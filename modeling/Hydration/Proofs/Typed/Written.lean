import Hydration.Proofs.Typed.WellTyped

/-!
# What a written value comes from

`Wrote plan rule typed value` says that hydrating a typed value by a rule gives a
JSON value, at some place. `WriteLayer` is one step of it with the writing of the
parts as a parameter, and `writeLayer_of_wrote` says that nothing else is written:
whatever the typed value holds besides, each part of the result was written from one
of its parts.
-/

namespace Hydration

/-- How the parts of a typed value are written. -/
abbrev PartWriting := Rule → TypedValue → Json → Prop

namespace Converters

variable (plan : Converters)

/-- A typed value is written as a value by a rule, at some place. -/
def Wrote (rule : Rule) (typed : TypedValue) (value : Json) : Prop :=
  ∃ path, plan.hydrateRule typed rule path = .ok value

/-- How a field of an instance is written. -/
inductive FieldWritten (W : PartWriting) (object : TypedObject) (field : FieldConverter) :
    Option Json → Prop where
  /-- A present value is written by the rule of the field. -/
  | present {typed : TypedValue} {value : Json} (hg : object.get? field.key = some typed)
      (hw : W field.rule typed value) : FieldWritten W object field (some value)
  /-- An absent optional field is left out. -/
  | skipped (hg : object.get? field.key = none) (ho : field.optional = true) :
      FieldWritten W object field none
  /-- An absent required field is null if its rule converts null. -/
  | null (hg : object.get? field.key = none) (ha : plan.acceptsNull field.rule = true) :
      FieldWritten W object field (some .null)

/-- How a value of a union is written: through the first slot that is filled. -/
inductive UnionWritten (W : PartWriting) (codec : UnionCodec) (slots : UnionValue) :
    Json → Prop where
  /-- A truth value. -/
  | bool (b : Bool) (hb : codec.boolean = true) : UnionWritten W codec slots (.bool b)
  /-- An integer. -/
  | integer (i : Int64) (hi : codec.integer = true) :
      UnionWritten W codec slots (.number (.ofInt64 i))
  /-- A number. -/
  | double (n : Json.Number) (hd : codec.double = true) : UnionWritten W codec slots (.number n)
  /-- A string, by the rule of the string member. -/
  | string {rule : StringRule} {typed : TypedValue} {value : Json}
      (hslot : slots.string = some typed) (hs : codec.string = some rule)
      (hw : W rule.rule typed value) : UnionWritten W codec slots value
  /-- An array, by the rule of the array member. -/
  | array {rule : Rule} {items : List TypedValue} {value : Json}
      (hslot : slots.array = some items) (ha : codec.array = some rule)
      (hw : W (.array rule) (.array items) value) : UnionWritten W codec slots value
  /-- An instance of the class member. -/
  | object {id : TypeId} {object : TypedObject} {value : Json}
      (hslot : slots.object = some object) (hm : codec.classMember = some id)
      (hw : W (.classRef id) (.object object) value) : UnionWritten W codec slots value
  /-- A map, by the rule of the map member. -/
  | map {rule : Rule} {entries : List (String × TypedValue)} {value : Json}
      (hslot : slots.map = some entries) (hfirst : slots.filled.head? = some .map)
      (hm : codec.map = some rule) (hw : W (.map rule) (.map entries) value) :
      UnionWritten W codec slots value
  /-- A case of the enum member. -/
  | enumCase {tag : String} (hc : plan.isCaseOf codec tag = true) :
      UnionWritten W codec slots (.string tag)
  /-- Null if no slot is filled. -/
  | null (hn : codec.nullable = true) : UnionWritten W codec slots .null

/-- How a typed value is written by a rule. -/
inductive WriteLayer (W : PartWriting) : PartWriting where
  /-- Every value. -/
  | any (value : Json) : WriteLayer W (.copy .any) (.any value) value
  /-- Null. -/
  | null : WriteLayer W (.copy .null) .null .null
  /-- A truth value. -/
  | bool (b : Bool) : WriteLayer W (.copy .bool) (.bool b) (.bool b)
  /-- An integer. -/
  | integer (i : Int64) : WriteLayer W (.copy .integer) (.integer i) (.number (.ofInt64 i))
  /-- A number. -/
  | double (n : Json.Number) : WriteLayer W (.copy .double) (.double n) (.number n)
  /-- A string. -/
  | string (text : String) : WriteLayer W (.copy .string) (.string text) (.string text)
  /-- The canonical text of a string under an interpretation. -/
  | transformed {kind : TransformKind} {x : Transformed} {text : String}
      (hf : kind.format x = some text) :
      WriteLayer W (.transformed kind) (.transformed x) (.string text)
  /-- A case of an enum. -/
  | enumCase {id : TypeId} {converter : EnumConverter} {tag : String}
      (he : plan.enums.get? id = some converter) (hc : converter.cases.contains tag = true) :
      WriteLayer W (.enumRef id) (.enumCase tag) (.string tag)
  /-- The fields of an instance in declared order. -/
  | object {object : TypedObject} {converter : ClassConverter}
      {written : FieldConverter → Option Json}
      (hc : plan.classes.get? object.classId = some converter)
      (hf : ∀ field ∈ converter.fields, plan.FieldWritten W object field (written field)) :
      WriteLayer W (.classRef object.classId) (.object object)
        (.object (converter.fields.filterMap fun field =>
          (written field).map fun value => (field.key, value)))
  /-- An array. -/
  | array {rule : Rule} {typed : List TypedValue} {items : List Json}
      (h : List.Forall₂ (W rule) typed items) :
      WriteLayer W (.array rule) (.array typed) (.array items)
  /-- A map. -/
  | map {rule : Rule} {typed : List (String × TypedValue)} {members : List (String × Json)}
      (h : List.Forall₂ (fun entry member => member.1 = entry.1 ∧ W rule entry.2 member.2)
        typed members) : WriteLayer W (.map rule) (.map typed) (.object members)
  /-- Null of a nullable type. -/
  | absent (rule : Rule) : WriteLayer W (.nullable rule) .null .null
  /-- Any other value of a nullable type. -/
  | present {rule : Rule} {typed : TypedValue} {value : Json} (ht : typed ≠ .null)
      (hw : W rule typed value) : WriteLayer W (.nullable rule) typed value
  /-- A value of a union. -/
  | union {id : TypeId} {codec : UnionCodec} {slots : UnionValue} {value : Json}
      (hu : plan.unions.get? id = some codec) (hw : plan.UnionWritten W codec slots value) :
      WriteLayer W (.unionRef id) (.union slots) value

variable {plan} {path : Path}

/-- The writers of elements are their hydrations. -/
theorem itemWriters_eq (items : List TypedValue) :
    plan.itemWriters items = items.map plan.hydrateRule := by
  induction items with
  | nil => rfl
  | cons item rest ih => rw [itemWriters, ih, List.map_cons, hydrateRule]

/-- The writers of entries are the hydrations of their values. -/
theorem entryWriters_eq (entries : List (String × TypedValue)) :
    plan.entryWriters entries
      = entries.map fun entry => (entry.1, plan.hydrateRule entry.2) := by
  induction entries with
  | nil => rfl
  | cons entry rest ih =>
    obtain ⟨key, value⟩ := entry
    rw [entryWriters, ih, List.map_cons, hydrateRule]

/-- Items that were written were so one by one. -/
theorem wrote_of_writeItems {rule : Rule} {index : Nat} {typed : List TypedValue}
    {items : List Json}
    (h : writeItems rule path index (plan.itemWriters typed) = .ok items) :
    List.Forall₂ (plan.Wrote rule) typed items := by
  induction typed generalizing index items with
  | nil =>
    cases h
    exact .nil
  | cons item rest ih =>
    rw [itemWriters, writeItems] at h
    obtain ⟨value, hvalue, h⟩ := bind_eq_ok.mp h
    obtain ⟨values, hvalues, h⟩ := bind_eq_ok.mp h
    cases h
    exact .cons ⟨_, hvalue⟩ (ih hvalues)

/-- Entries that were written were so one by one. -/
theorem wrote_of_writeEntries {rule : Rule} {typed : List (String × TypedValue)}
    {members : List (String × Json)}
    (h : writeEntries rule path (plan.entryWriters typed) = .ok members) :
    List.Forall₂ (fun entry member => member.1 = entry.1 ∧ plan.Wrote rule entry.2 member.2)
      typed members := by
  induction typed generalizing members with
  | nil =>
    cases h
    exact .nil
  | cons entry rest ih =>
    obtain ⟨key, item⟩ := entry
    rw [entryWriters, writeEntries] at h
    obtain ⟨value, hvalue, h⟩ := bind_eq_ok.mp h
    obtain ⟨values, hvalues, h⟩ := bind_eq_ok.mp h
    cases h
    exact .cons ⟨rfl, _, hvalue⟩ (ih hvalues)

/-- What was written of a field is described by its value. -/
theorem fieldWritten_of_writeField {className : String} {object : TypedObject}
    {field : FieldConverter} {written : Option Json}
    (h : plan.writeField className (plan.instanceWriters object) field path = .ok written) :
    plan.FieldWritten plan.Wrote object field written := by
  unfold writeField at h
  rw [get?_instanceWriters] at h
  cases hg : object.get? field.key with
  | some typed =>
    rw [hg] at h
    obtain ⟨value, hvalue, rfl⟩ := map_eq_ok.mp h
    exact .present hg ⟨_, hvalue⟩
  | none =>
    rw [hg] at h
    dsimp only [Option.map_none] at h
    split at h
    · rename_i ho
      cases h
      exact .skipped hg ho
    · split at h
      · rename_i ha
        cases h
        exact .null hg ha
      · cases h

/-- What a field is written as, if it is. -/
def written (plan : Converters) (className : String) (object : TypedObject) (path : Path)
    (field : FieldConverter) : Option Json :=
  (plan.writeField className (plan.instanceWriters object) field path).toOption.join

/-- The fields of an instance are written one by one. -/
theorem written_of_writeFields {className : String} {object : TypedObject}
    {fields : List FieldConverter} {members : List (String × Json)}
    (h : plan.writeFields className (plan.instanceWriters object) path fields = .ok members) :
    (∀ field ∈ fields, plan.FieldWritten plan.Wrote object field
        (plan.written className object path field))
      ∧ members = fields.filterMap fun field =>
        (plan.written className object path field).map fun value => (field.key, value) := by
  induction fields generalizing members with
  | nil =>
    cases h
    exact ⟨by simp, rfl⟩
  | cons field rest ih =>
    rw [writeFields] at h
    obtain ⟨value, hvalue, h⟩ := bind_eq_ok.mp h
    obtain ⟨others, hothers, h⟩ := bind_eq_ok.mp h
    obtain ⟨hrest, rfl⟩ := ih hothers
    have hwritten : plan.written className object path field = value := by
      rw [written, hvalue]
      rfl
    constructor
    · intro other hm
      rcases List.mem_cons.mp hm with rfl | hm
      · exact hwritten ▸ fieldWritten_of_writeField hvalue
      · exact hrest other hm
    · cases value with
      | none =>
        cases h
        rw [List.filterMap_cons_none (by rw [hwritten, Option.map_none])]
      | some value =>
        cases h
        rw [List.filterMap_cons_some (by rw [hwritten, Option.map_some])]

/-- What was written of an object is described by its class. -/
theorem writeLayer_of_writeObject {id : TypeId} {object : TypedObject} {value : Json}
    (h : plan.writeObject id (plan.instanceWriters object) path = .ok value) :
    plan.WriteLayer plan.Wrote (.classRef id) (.object object) value := by
  unfold writeObject at h
  obtain ⟨converter, hconverter, hrest⟩ := bind_eq_ok.mp h
  unfold classConverter at hconverter
  split at hconverter
  · rename_i found hc
    cases hconverter
    have hclass : (plan.instanceWriters object).classId = object.classId := by
      obtain ⟨id, fields⟩ := object
      rw [instanceWriters]
    rw [hclass] at hrest
    split at hrest
    · rename_i hid
      obtain ⟨members, hmembers, hvalue⟩ := bind_eq_ok.mp hrest
      cases hvalue
      obtain ⟨hf, rfl⟩ := written_of_writeFields hmembers
      subst hid
      exact .object hc hf
    · cases hrest
  · cases hconverter

/-- What is written for a tag is a case of the enum. -/
theorem exists_case_of_writeCase {id : TypeId} {tag : String} {value : Json}
    (h : plan.writeCase id tag path = .ok value) :
    ∃ converter, plan.enums.get? id = some converter ∧ converter.cases.contains tag = true
      ∧ value = .string tag := by
  unfold writeCase at h
  obtain ⟨converter, hconverter, hrest⟩ := bind_eq_ok.mp h
  unfold enumConverter at hconverter
  split at hconverter
  · rename_i found he
    cases hconverter
    split at hrest
    · rename_i hc
      cases hrest
      exact ⟨converter, he, hc, rfl⟩
    · cases hrest
  · cases hconverter

/-- A flag of a codec that has to be set is set. -/
theorem flagOf_eq_ok {kind : String} {flag : Bool} {written value : Json} :
    flagOf path kind flag written = .ok value ↔ flag = true ∧ written = value := by
  unfold flagOf
  split <;> simp_all

/-- A member that a codec has to have is there. -/
theorem memberOf_eq_ok {α : Type} {kind : String} {found : Option α} {member : α} :
    memberOf path kind found = .ok member ↔ found = some member := by
  unfold memberOf
  split <;> simp

/-- A union value is written through its first filled slot, whatever else is filled. -/
theorem unionWritten_of_encode {codec : UnionCodec} {slots : UnionValue} {value : Json}
    (h : plan.encode codec (plan.slotWriters slots) path = .ok value) :
    plan.UnionWritten plan.Wrote codec slots value := by
  obtain ⟨b, i, d, s, a, o, m, e⟩ := slots
  rw [slotWriters] at h
  unfold encode at h
  cases b
  case some b =>
    obtain ⟨hb, rfl⟩ := flagOf_eq_ok.mp h
    exact .bool b hb
  cases i
  case some i =>
    obtain ⟨hi, rfl⟩ := flagOf_eq_ok.mp h
    exact .integer i hi
  cases d
  case some n =>
    obtain ⟨hd, rfl⟩ := flagOf_eq_ok.mp h
    exact .double n hd
  cases s
  case some typed =>
    obtain ⟨rule, hs, h⟩ := bind_eq_ok.mp h
    exact .string rfl (memberOf_eq_ok.mp hs) ⟨path, h⟩
  cases a
  case some items =>
    obtain ⟨rule, ha, h⟩ := bind_eq_ok.mp h
    obtain ⟨values, hvalues, h⟩ := bind_eq_ok.mp h
    cases h
    exact .array rfl (memberOf_eq_ok.mp ha) ⟨path, map_eq_ok.mpr ⟨values, hvalues, rfl⟩⟩
  cases o
  case some object =>
    obtain ⟨id, hm, h⟩ := bind_eq_ok.mp h
    exact .object rfl (memberOf_eq_ok.mp hm) ⟨path, h⟩
  cases m
  case some entries =>
    obtain ⟨rule, hm, h⟩ := bind_eq_ok.mp h
    obtain ⟨members, hmembers, h⟩ := bind_eq_ok.mp h
    cases h
    exact .map rfl rfl (memberOf_eq_ok.mp hm) ⟨path, map_eq_ok.mpr ⟨members, hmembers, rfl⟩⟩
  cases e
  case some tag =>
    obtain ⟨id, hm, h⟩ := bind_eq_ok.mp h
    obtain ⟨converter, he, hc, rfl⟩ := exists_case_of_writeCase h
    exact .enumCase (isCaseOf_iff.mpr ⟨id, converter, memberOf_eq_ok.mp hm, he, hc⟩)
  simp only [optionWriter, arrayWriters, objectWriters, mapWriters] at h
  split at h
  · rename_i hn
    cases h
    exact .null hn
  · cases h

/-- One step of a writing. -/
theorem writeLayer_of_wrote {rule : Rule} {typed : TypedValue} {value : Json}
    (h : plan.Wrote rule typed value) : plan.WriteLayer plan.Wrote rule typed value := by
  obtain ⟨path, h⟩ := h
  rw [hydrateRule] at h
  cases rule with
  | copy primitive => cases primitive <;> cases typed <;> cases h <;> constructor
  | transformed kind =>
    cases typed with
    | transformed x =>
      simp only [layer, writeLayer] at h
      split at h
      · rename_i text hf
        cases h
        exact .transformed hf
      · cases h
    | _ => cases h
  | enumRef id =>
    cases typed with
    | enumCase tag =>
      obtain ⟨converter, he, hc, rfl⟩ := exists_case_of_writeCase h
      exact .enumCase he hc
    | _ => cases h
  | classRef id =>
    cases typed with
    | object object => exact writeLayer_of_writeObject h
    | _ => cases h
  | array rule =>
    cases typed with
    | array items =>
      obtain ⟨values, hvalues, rfl⟩ := map_eq_ok.mp h
      exact .array (wrote_of_writeItems hvalues)
    | _ => cases h
  | map rule =>
    cases typed with
    | map entries =>
      obtain ⟨members, hmembers, rfl⟩ := map_eq_ok.mp h
      exact .map (wrote_of_writeEntries hmembers)
    | _ => cases h
  | nullable rule =>
    cases typed with
    | null =>
      cases h
      exact .absent rule
    | _ => exact .present (by simp) ⟨path, h⟩
  | unionRef id =>
    cases typed with
    | union slots =>
      obtain ⟨codec, hcodec, hvalue⟩ := bind_eq_ok.mp h
      unfold unionCodec at hcodec
      split at hcodec
      · rename_i found hu
        cases hcodec
        exact .union hu (unionWritten_of_encode hvalue)
      · cases hcodec
    | _ => cases h

/-- Hydrating an instance writes it by the rule of its class. -/
theorem wrote_of_hydrate {object : TypedObject} {value : Json}
    (h : plan.hydrate object = .ok value) :
    plan.Wrote (.classRef object.classId) (.object object) value := ⟨Path.top, h⟩

end Converters

end Hydration
