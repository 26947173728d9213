import Hydration.Proofs.Structure
import Hydration.Typed.Hydrate

/-!
# What hydrating writes

`Writes plan rule typed value` says that a typed value is written as a JSON
value, wherever it stands. There is one introduction rule for each kind of
typed value, stated with the writing of its parts; a value of a union is
written through the one slot that it fills.
-/

namespace Hydration.Converters

variable (plan : Converters)

/-- A typed value is written as a value by a rule, wherever it stands. -/
def Writes (rule : Rule) (typed : TypedValue) (value : Json) : Prop :=
  ∀ path, plan.hydrateRule typed rule path = .ok value

/-- What a field of an instance is written as, if it is written. -/
inductive FieldWrites (object : TypedObject) (field : FieldConverter) : Option Json → Prop where
  /-- A present value is written by the rule of the field. -/
  | present {typed : TypedValue} {value : Json} (hg : object.get? field.key = some typed)
      (hw : plan.Writes field.rule typed value) : FieldWrites object field (some value)
  /-- An absent optional field is left out. -/
  | skipped (hg : object.get? field.key = none) (ho : field.optional = true) :
      FieldWrites object field none
  /-- An absent required field is null if its rule converts null. -/
  | null (hg : object.get? field.key = none) (ho : field.optional = false)
      (ha : plan.acceptsNull field.rule = true) : FieldWrites object field (some .null)

variable {plan}

/-- The writers of fields are the hydrations of the present ones. -/
theorem fieldWriters_eq (fields : List (String × Option TypedValue)) :
    plan.fieldWriters fields
      = fields.map fun field => (field.1, field.2.map plan.hydrateRule) := by
  induction fields with
  | nil => rfl
  | cons field rest ih =>
    obtain ⟨key, value⟩ := field
    rw [fieldWriters, ih, List.map_cons]
    cases value <;> rfl

/-- The writer of a field is the hydration of its value. -/
theorem get?_instanceWriters (object : TypedObject) (key : String) :
    (plan.instanceWriters object).get? key = (object.get? key).map plan.hydrateRule := by
  obtain ⟨id, fields⟩ := object
  rw [instanceWriters, fieldWriters_eq, Instance.get?, Instance.get?]
  dsimp only
  rw [Entries.get?_mapValues]
  cases Entries.get? key fields with
  | none => rfl
  | some value => cases value <;> rfl

/-- What a nullable rule writes besides null it writes as its inner rule does. -/
theorem hydrateRule_nullable {typed : TypedValue} (ht : typed ≠ .null)
    (rule : Rule) (path : Path) :
    plan.hydrateRule typed (.nullable rule) path = plan.hydrateRule typed rule path := by
  cases typed with
  | null => exact absurd rfl ht
  | _ => rfl

/-- Items that are written each are written together. -/
theorem writeItems_eq_ok {rule : Rule} {typed : List TypedValue} {items : List Json}
    (h : List.Forall₂ (plan.Writes rule) typed items) (path : Path) (index : Nat) :
    writeItems rule path index (plan.itemWriters typed) = .ok items := by
  induction h generalizing index with
  | nil => rfl
  | cons hw _ ih =>
    rw [itemWriters, writeItems]
    exact bind_eq_ok.mpr ⟨_, hw _, bind_eq_ok.mpr ⟨_, ih (index + 1), rfl⟩⟩

/-- Entries that are written each are written together. -/
theorem writeEntries_eq_ok {rule : Rule} {typed : List (String × TypedValue)}
    {members : List (String × Json)}
    (h : List.Forall₂ (fun entry member => member.1 = entry.1 ∧ plan.Writes rule entry.2 member.2)
      typed members) (path : Path) :
    writeEntries rule path (plan.entryWriters typed) = .ok members := by
  induction h with
  | nil => rfl
  | @cons entry member _ _ hw _ ih =>
    obtain ⟨key, value⟩ := entry
    obtain ⟨key', written⟩ := member
    obtain ⟨rfl, hw⟩ := hw
    rw [entryWriters, writeEntries]
    exact bind_eq_ok.mpr ⟨_, hw _, bind_eq_ok.mpr ⟨_, ih, rfl⟩⟩

/-- A field is written as described. -/
theorem writeField_eq_ok {className : String} {object : TypedObject} {field : FieldConverter}
    {written : Option Json} (h : plan.FieldWrites object field written) (path : Path) :
    plan.writeField className (plan.instanceWriters object) field path = .ok written := by
  unfold writeField
  rw [get?_instanceWriters]
  cases h with
  | present hg hw =>
    rw [hg]
    exact map_eq_ok.mpr ⟨_, hw _, rfl⟩
  | skipped hg ho =>
    rw [hg]
    exact if_pos ho
  | null hg ho ha =>
    rw [hg]
    dsimp only [Option.map_none]
    rw [if_neg (by simp [ho]), if_pos ha]

/-- Fields are written in their order, without those that are left out. -/
theorem writeFields_eq_ok {className : String} {object : TypedObject}
    {fields : List FieldConverter} {written : FieldConverter → Option Json}
    (h : ∀ field ∈ fields, plan.FieldWrites object field (written field)) (path : Path) :
    plan.writeFields className (plan.instanceWriters object) path fields
      = .ok (fields.filterMap fun field => (written field).map fun value => (field.key, value)) := by
  induction fields with
  | nil => rfl
  | cons field rest ih =>
    have hfirst : plan.writeField className (plan.instanceWriters object) field path
        = .ok (written field) := writeField_eq_ok (h field List.mem_cons_self) path
    have hrest := ih fun other hm => h other (List.mem_cons_of_mem _ hm)
    rw [writeFields]
    refine bind_eq_ok.mpr ⟨_, hfirst, bind_eq_ok.mpr ⟨_, hrest, ?_⟩⟩
    cases hw : written field with
    | none =>
      rw [List.filterMap_cons_none (by rw [hw, Option.map_none])]
      rfl
    | some value =>
      rw [List.filterMap_cons_some (by rw [hw, Option.map_some])]
      rfl

/-- An instance is written field by field in declared order. -/
theorem writeObject_eq_ok {converter : ClassConverter} {object : TypedObject}
    {written : FieldConverter → Option Json}
    (hc : plan.classes.get? object.classId = some converter)
    (h : ∀ field ∈ converter.fields, plan.FieldWrites object field (written field))
    (path : Path) :
    plan.writeObject object.classId (plan.instanceWriters object) path
      = .ok (.object (converter.fields.filterMap fun field =>
          (written field).map fun value => (field.key, value))) := by
  have hid : (plan.instanceWriters object).classId = object.classId := by
    obtain ⟨id, fields⟩ := object
    rw [instanceWriters]
  rw [writeObject, classConverter, hc]
  refine bind_eq_ok.mpr ⟨_, rfl, ?_⟩
  rw [if_pos hid]
  exact bind_eq_ok.mpr ⟨_, writeFields_eq_ok h path, rfl⟩

theorem writeCase_eq_ok {id : TypeId} {converter : EnumConverter} {tag : String}
    (he : plan.enums.get? id = some converter) (hc : converter.cases.contains tag = true)
    (path : Path) : plan.writeCase id tag path = .ok (.string tag) := by
  rw [writeCase, enumConverter, he]
  exact bind_eq_ok.mpr ⟨_, rfl, if_pos hc⟩

namespace Writes

theorem any (value : Json) : plan.Writes (.copy .any) (.any value) value := fun _ => rfl

theorem null : plan.Writes (.copy .null) .null .null := fun _ => rfl

theorem bool (b : Bool) : plan.Writes (.copy .bool) (.bool b) (.bool b) := fun _ => rfl

theorem integer (i : Int64) :
    plan.Writes (.copy .integer) (.integer i) (.number (.ofInt64 i)) := fun _ => rfl

theorem double (n : Json.Number) : plan.Writes (.copy .double) (.double n) (.number n) :=
  fun _ => rfl

theorem string (text : String) : plan.Writes (.copy .string) (.string text) (.string text) :=
  fun _ => rfl

/-- A transformed value is written as its text. -/
theorem transformed {kind : TransformKind} {value : Transformed} {text : String}
    (hf : kind.format value = some text) :
    plan.Writes (.transformed kind) (.transformed value) (.string text) := by
  intro path
  rw [hydrateRule, layer, writeLayer, hf]

/-- A case of an enum is written as its tag. -/
theorem enumCase {id : TypeId} {converter : EnumConverter} {tag : String}
    (he : plan.enums.get? id = some converter) (hc : converter.cases.contains tag = true) :
    plan.Writes (.enumRef id) (.enumCase tag) (.string tag) :=
  fun path => writeCase_eq_ok he hc path

/-- An array is written as what its items are. -/
theorem array {rule : Rule} {typed : List TypedValue} {items : List Json}
    (h : List.Forall₂ (plan.Writes rule) typed items) :
    plan.Writes (.array rule) (.array typed) (.array items) :=
  fun path => map_eq_ok.mpr ⟨_, writeItems_eq_ok h path 0, rfl⟩

/-- A map is written as what its values are. -/
theorem map {rule : Rule} {typed : List (String × TypedValue)} {members : List (String × Json)}
    (h : List.Forall₂ (fun entry member => member.1 = entry.1 ∧ plan.Writes rule entry.2 member.2)
      typed members) : plan.Writes (.map rule) (.map typed) (.object members) :=
  fun path => map_eq_ok.mpr ⟨_, writeEntries_eq_ok h path, rfl⟩

/-- An object is written as what its fields are. -/
theorem object {converter : ClassConverter} {object : TypedObject}
    {written : FieldConverter → Option Json}
    (hc : plan.classes.get? object.classId = some converter)
    (h : ∀ field ∈ converter.fields, plan.FieldWrites object field (written field)) :
    plan.Writes (.classRef object.classId) (.object object)
      (.object (converter.fields.filterMap fun field =>
        (written field).map fun value => (field.key, value))) :=
  fun path => writeObject_eq_ok hc h path

theorem absent (rule : Rule) : plan.Writes (.nullable rule) .null .null := fun _ => rfl

/-- A value other than null is written under a nullable rule as without it. -/
theorem present {rule : Rule} {typed : TypedValue} {value : Json} (ht : typed ≠ .null)
    (hw : plan.Writes rule typed value) : plan.Writes (.nullable rule) typed value :=
  fun path => (hydrateRule_nullable ht rule path).trans (hw path)

/-- A value of a union is written as its codec encodes it. -/
theorem union {id : TypeId} {codec : UnionCodec} {typed : UnionValue} {value : Json}
    (hc : plan.unions.get? id = some codec)
    (he : ∀ path, plan.encode codec (plan.slotWriters typed) path = .ok value) :
    plan.Writes (.unionRef id) (.union typed) value := by
  intro path
  have hcodec : plan.unionCodec id = .ok codec := by rw [unionCodec, hc]
  exact bind_eq_ok.mpr ⟨codec, hcodec, he path⟩

end Writes

variable {codec : UnionCodec} {path : Path}

/-- A union value without a slot is encoded as null. -/
theorem encode_null (hn : codec.nullable = true) :
    plan.encode codec (plan.slotWriters UnionSlots.null) path = .ok .null := by
  have hs : plan.slotWriters UnionSlots.null = UnionSlots.null := rfl
  rw [hs]
  exact if_pos hn

/-- A union value with a boolean alone is encoded as the boolean. -/
theorem encode_bool {b : Bool} (hb : codec.boolean = true) :
    plan.encode codec (plan.slotWriters { UnionSlots.null with bool := some b }) path
      = .ok (.bool b) := if_pos hb

theorem encode_integer {i : Int64} (hi : codec.integer = true) :
    plan.encode codec (plan.slotWriters { UnionSlots.null with integer := some i }) path
      = .ok (.number (.ofInt64 i)) := if_pos hi

theorem encode_double {n : Json.Number} (hd : codec.double = true) :
    plan.encode codec (plan.slotWriters { UnionSlots.null with double := some n }) path
      = .ok (.number n) := if_pos hd

/-- A union value with a string alone is encoded as the string is written. -/
theorem encode_string {rule : StringRule} {typed : TypedValue} {value : Json}
    (hs : codec.string = some rule) (hw : plan.Writes rule.rule typed value) :
    plan.encode codec (plan.slotWriters { UnionSlots.null with string := some typed }) path
      = .ok value := by
  have hm : memberOf path "string" codec.string = .ok rule := by rw [hs, memberOf]
  exact bind_eq_ok.mpr ⟨rule, hm, hw path⟩

/-- A union value with an array alone is encoded as the array is written. -/
theorem encode_array {rule : Rule} {typed : List TypedValue} {value : Json}
    (ha : codec.array = some rule) (hw : plan.Writes (.array rule) (.array typed) value) :
    plan.encode codec (plan.slotWriters { UnionSlots.null with array := some typed }) path
      = .ok value := by
  have hm : memberOf path "array" codec.array = .ok rule := by rw [ha, memberOf]
  obtain ⟨items, hitems, hvalue⟩ := map_eq_ok.mp (hw path)
  exact bind_eq_ok.mpr ⟨rule, hm, bind_eq_ok.mpr ⟨items, hitems, congrArg Except.ok hvalue⟩⟩

/-- A union value with an object alone is encoded as the object is written. -/
theorem encode_object {id : TypeId} {typed : TypedObject} {value : Json}
    (hc : codec.classMember = some id) (hw : plan.Writes (.classRef id) (.object typed) value) :
    plan.encode codec (plan.slotWriters { UnionSlots.null with object := some typed }) path
      = .ok value := by
  have hm : memberOf path "object" codec.classMember = .ok id := by rw [hc, memberOf]
  exact bind_eq_ok.mpr ⟨id, hm, hw path⟩

/-- A union value with a map alone is encoded as the map is written. -/
theorem encode_map {rule : Rule} {typed : List (String × TypedValue)} {value : Json}
    (hm : codec.map = some rule) (hw : plan.Writes (.map rule) (.map typed) value) :
    plan.encode codec (plan.slotWriters { UnionSlots.null with map := some typed }) path
      = .ok value := by
  have hmap : memberOf path "map" codec.map = .ok rule := by rw [hm, memberOf]
  obtain ⟨members, hmembers, hvalue⟩ := map_eq_ok.mp (hw path)
  exact bind_eq_ok.mpr ⟨rule, hmap, bind_eq_ok.mpr ⟨members, hmembers, congrArg Except.ok hvalue⟩⟩

/-- A union value with a case alone is encoded as its tag. -/
theorem encode_enumCase {id : TypeId} {converter : EnumConverter} {tag : String}
    (hi : codec.enumeration = some id) (he : plan.enums.get? id = some converter)
    (hc : converter.cases.contains tag = true) :
    plan.encode codec (plan.slotWriters { UnionSlots.null with enumCase := some tag }) path
      = .ok (.string tag) := by
  have hm : memberOf path "enum" codec.enumeration = .ok id := by rw [hi, memberOf]
  exact bind_eq_ok.mpr ⟨id, hm, writeCase_eq_ok he hc path⟩

/-- An instance is hydrated as it is written by the rule of its class. -/
theorem hydrate_eq_ok {object : TypedObject} {value : Json}
    (h : plan.Writes (.classRef object.classId) (.object object) value) :
    plan.hydrate object = .ok value := h Path.top

end Hydration.Converters
