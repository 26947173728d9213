import Hydration.Proofs.Typed.Places

/-!
# What dehydrating accepts

`Reads plan rule value typed` says that a value is read as a typed value,
wherever it stands. `ValueLayer` is one step of it with the reading of the parts
as a parameter. `reads_iff` unfolds one step, and `Reads.induct` is the
induction over a whole reading.
-/

namespace Hydration

/-- How the parts of a value are read. -/
abbrev PartReading := Rule → Json → TypedValue → Prop

/-- How the text of a string member is read. -/
inductive TextLayer : StringRule → String → TypedValue → Prop where
  /-- A plain text is kept. -/
  | plain (text : String) : TextLayer .plain text (.string text)
  /-- A text under an interpretation is parsed. -/
  | transformed {kind : TransformKind} {text : String} {value : Transformed}
      (hp : kind.parse text = .ok value) : TextLayer (.transformed kind) text (.transformed value)

namespace Converters

variable (plan : Converters)

/-- Whether null at a field marks absence. -/
def dropsNull (field : FieldConverter) : Bool :=
  field.rule.isNullable || (field.optional && !plan.acceptsNull field.rule)

/-- Whether a text is a case of a codec's enum member. -/
def isCaseOf (codec : UnionCodec) (text : String) : Bool :=
  isMemberCase (codec.enumeration.bind plan.enums.get?) text

/-- How a field of an object is read. -/
inductive FieldLayer (R : PartReading) (members : List (String × Json)) (field : FieldConverter) :
    Option TypedValue → Prop where
  /-- An optional field may be missing. -/
  | missing (hg : Entries.get? field.key members = none) (ho : field.optional = true) :
      FieldLayer R members field none
  /-- Null may mark absence. -/
  | dropped (hg : Entries.get? field.key members = some .null)
      (hd : plan.dropsNull field = true) : FieldLayer R members field none
  /-- Any other value is read by the rule of the field. -/
  | present {value : Json} {typed : TypedValue} (hg : Entries.get? field.key members = some value)
      (hd : value = .null → plan.dropsNull field = false) (hr : R field.rule value typed) :
      FieldLayer R members field (some typed)

/-- How an instance of a class is read. -/
inductive ObjectLayer (R : PartReading) (id : TypeId) : Json → TypedObject → Prop where
  /-- Field by field in declared order. -/
  | intro {converter : ClassConverter} {members : List (String × Json)}
      {fields : List (String × Option TypedValue)} (hc : plan.classes.get? id = some converter)
      (hf : List.Forall₂ (fun field entry =>
        entry.1 = field.key ∧ plan.FieldLayer R members field entry.2) converter.fields fields) :
      ObjectLayer R id (.object members) ⟨id, fields⟩

/-- How a value of a union is read. -/
inductive UnionLayer (R : PartReading) (codec : UnionCodec) : Json → UnionValue → Prop where
  /-- Null fills no slot. -/
  | null (hn : codec.nullable = true) : UnionLayer R codec .null UnionSlots.null
  /-- A truth value. -/
  | bool (b : Bool) (hb : codec.boolean = true) :
      UnionLayer R codec (.bool b) { UnionSlots.null with bool := some b }
  /-- An integer token in range goes to the integer member. -/
  | integer {n : Json.Number} {i : Int64} (hi : codec.integer = true) (hn : n.toInt64? = some i) :
      UnionLayer R codec (.number n) { UnionSlots.null with integer := some i }
  /-- Any other number goes to the number member. -/
  | double {n : Json.Number} (hi : codec.integer = true → n.toInt64? = none)
      (hd : codec.double = true) :
      UnionLayer R codec (.number n) { UnionSlots.null with double := some n }
  /-- A case goes to the enum member. -/
  | enumCase {text : String} (hc : plan.isCaseOf codec text = true) :
      UnionLayer R codec (.string text) { UnionSlots.null with enumCase := some text }
  /-- Any other text goes to the string member. -/
  | string {rule : StringRule} {text : String} {typed : TypedValue}
      (he : ∀ id, codec.enumeration = some id → ∃ converter, plan.enums.get? id = some converter)
      (hc : plan.isCaseOf codec text = false) (hs : codec.string = some rule)
      (ht : TextLayer rule text typed) :
      UnionLayer R codec (.string text) { UnionSlots.null with string := some typed }
  /-- An array is read element by element. -/
  | array {rule : Rule} {items : List Json} {typed : List TypedValue}
      (ha : codec.array = some rule) (hr : List.Forall₂ (R rule) items typed) :
      UnionLayer R codec (.array items) { UnionSlots.null with array := some typed }
  /-- An object goes to the class member. -/
  | object {id : TypeId} {members : List (String × Json)} {typed : TypedObject}
      (hc : codec.classMember = some id) (ho : plan.ObjectLayer R id (.object members) typed) :
      UnionLayer R codec (.object members) { UnionSlots.null with object := some typed }
  /-- Without a class member it goes to the map member. -/
  | map {rule : Rule} {members : List (String × Json)} {typed : List (String × TypedValue)}
      (hc : codec.classMember = none) (hm : codec.map = some rule)
      (hr : List.Forall₂ (fun member entry => entry.1 = member.1 ∧ R rule member.2 entry.2)
        members typed) :
      UnionLayer R codec (.object members) { UnionSlots.null with map := some typed }

/-- How a value is read by a rule. -/
inductive ValueLayer (R : PartReading) : Rule → Json → TypedValue → Prop where
  /-- Every value. -/
  | any (value : Json) : ValueLayer R (.copy .any) value (.any value)
  /-- Null. -/
  | null : ValueLayer R (.copy .null) .null .null
  /-- A truth value. -/
  | bool (b : Bool) : ValueLayer R (.copy .bool) (.bool b) (.bool b)
  /-- An integer token in range. -/
  | integer {n : Json.Number} {i : Int64} (hn : n.toInt64? = some i) :
      ValueLayer R (.copy .integer) (.number n) (.integer i)
  /-- A number. -/
  | double (n : Json.Number) : ValueLayer R (.copy .double) (.number n) (.double n)
  /-- A string. -/
  | string (text : String) : ValueLayer R (.copy .string) (.string text) (.string text)
  /-- A string under an interpretation. -/
  | transformed {kind : TransformKind} {text : String} {value : Transformed}
      (hp : kind.parse text = .ok value) :
      ValueLayer R (.transformed kind) (.string text) (.transformed value)
  /-- A case of an enum. -/
  | enumCase {id : TypeId} {converter : EnumConverter} {tag : String}
      (he : plan.enums.get? id = some converter) (hc : converter.cases.contains tag = true) :
      ValueLayer R (.enumRef id) (.string tag) (.enumCase tag)
  /-- An instance of a class. -/
  | object {id : TypeId} {value : Json} {typed : TypedObject}
      (ho : plan.ObjectLayer R id value typed) : ValueLayer R (.classRef id) value (.object typed)
  /-- An array. -/
  | array {rule : Rule} {items : List Json} {typed : List TypedValue}
      (hr : List.Forall₂ (R rule) items typed) :
      ValueLayer R (.array rule) (.array items) (.array typed)
  /-- A map. -/
  | map {rule : Rule} {members : List (String × Json)} {typed : List (String × TypedValue)}
      (hr : List.Forall₂ (fun member entry => entry.1 = member.1 ∧ R rule member.2 entry.2)
        members typed) : ValueLayer R (.map rule) (.object members) (.map typed)
  /-- Null of a nullable type. -/
  | absent (rule : Rule) : ValueLayer R (.nullable rule) .null .null
  /-- Any other value of a nullable type. -/
  | present {rule : Rule} {value : Json} {typed : TypedValue} (hv : value ≠ .null)
      (hr : R rule value typed) : ValueLayer R (.nullable rule) value typed
  /-- A value of a union. -/
  | union {id : TypeId} {codec : UnionCodec} {value : Json} {typed : UnionValue}
      (hc : plan.unions.get? id = some codec) (hu : plan.UnionLayer R codec value typed) :
      ValueLayer R (.unionRef id) value (.union typed)

/-- A value is read as a typed value by a rule, wherever it stands. -/
def Reads (rule : Rule) (value : Json) (typed : TypedValue) : Prop :=
  ∀ path, plan.dehydrateRule value rule path = .ok typed

variable {plan}

/-- Only objects are instances. -/
theorem ObjectLayer.eq_object {R : PartReading} {id : TypeId} {value : Json} {typed : TypedObject}
    (h : plan.ObjectLayer R id value typed) : ∃ members, value = .object members := by
  cases h
  exact ⟨_, rfl⟩

/-- What is read as an instance of a class is one. -/
theorem ObjectLayer.classId_eq {R : PartReading} {id : TypeId} {value : Json}
    {typed : TypedObject} (h : plan.ObjectLayer R id value typed) : typed.classId = id := by
  cases h
  rfl

/-- One place decides for all. -/
theorem reads_iff_at {rule : Rule} {value : Json} {typed : TypedValue} (path : Path) :
    plan.Reads rule value typed ↔ plan.dehydrateRule value rule path = .ok typed := by
  constructor
  · intro h
    exact h path
  · intro h q
    exact (plan.dehydrateRule_steady value rule path q typed).mp h

/-- Items are read exactly if each of them is. -/
theorem readItems_eq_ok {rule : Rule} {path : Path} {index : Nat} {items : List Json}
    {typed : List TypedValue} :
    readItems rule path index (items.map plan.dehydrateRule) = .ok typed
      ↔ List.Forall₂ (plan.Reads rule) items typed := by
  induction items generalizing index typed with
  | nil =>
    rw [List.map_nil, readItems, List.forall₂_nil_left_iff, Except.ok.injEq]
    exact eq_comm
  | cons item rest ih =>
    rw [List.map_cons, readItems, bind_eq_ok, List.forall₂_cons_left_iff]
    constructor
    · rintro ⟨value, hv, h⟩
      obtain ⟨values, hvs, h⟩ := bind_eq_ok.mp h
      cases h
      exact ⟨value, values, (reads_iff_at _).mpr hv, ih.mp hvs, rfl⟩
    · rintro ⟨value, values, hv, hvs, rfl⟩
      exact ⟨value, hv _, bind_eq_ok.mpr ⟨values, ih.mpr hvs, rfl⟩⟩

/-- Entries are read exactly if each of them is. -/
theorem readEntries_eq_ok {rule : Rule} {path : Path} {members : List (String × Json)}
    {typed : List (String × TypedValue)} :
    readEntries rule path (plan.memberSources members) = .ok typed
      ↔ List.Forall₂ (fun member entry => entry.1 = member.1 ∧ plan.Reads rule member.2 entry.2)
          members typed := by
  induction members generalizing typed with
  | nil =>
    rw [memberSources, readEntries, List.forall₂_nil_left_iff, Except.ok.injEq]
    exact eq_comm
  | cons member rest ih =>
    obtain ⟨key, value⟩ := member
    rw [memberSources, readEntries, bind_eq_ok, List.forall₂_cons_left_iff]
    constructor
    · rintro ⟨t, ht, h⟩
      obtain ⟨ts, hts, h⟩ := bind_eq_ok.mp h
      cases h
      exact ⟨(key, t), ts, ⟨rfl, (reads_iff_at _).mpr ht⟩, ih.mp hts, rfl⟩
    · rintro ⟨⟨key', t⟩, ts, ⟨hk, ht⟩, hts, rfl⟩
      cases hk
      exact ⟨t, ht _, bind_eq_ok.mpr ⟨ts, ih.mpr hts, rfl⟩⟩

/-- The source that a key finds is that of the value that it finds. -/
theorem get?_memberSources (key : String) (members : List (String × Json)) :
    Entries.get? key (plan.memberSources members)
      = (Entries.get? key members).map plan.sourceOf := by
  rw [memberSources_eq]
  exact Entries.get?_mapValues plan.sourceOf key members

/-- A member that is there marks absence or is read. -/
theorem readField_of_get? {className : String} {members : List (String × Json)}
    {field : FieldConverter} {path : Path} {value : Json}
    (hg : Entries.get? field.key members = some value) :
    plan.readField className (plan.memberSources members) field path
      = if value = .null ∧ plan.dropsNull field = true then .ok none
        else (plan.dehydrateRule value field.rule (path.child field.key)).map some := by
  have hread : (plan.sourceOf value).read = plan.dehydrateRule value := rfl
  have hnull : (plan.sourceOf value).isNull = value.isNull := rfl
  unfold readField
  rw [get?_memberSources, hg]
  dsimp only [Option.map_some]
  rw [hread, hnull]
  by_cases hv : value = .null
  · subst hv
    cases hr : field.rule.isNullable <;> simp [Json.isNull, dropsNull, hr]
  · have hn : value.isNull = false := Bool.eq_false_iff.mpr (mt (Json.isNull_iff value).mp hv)
    simp [hn, hv]

/-- What a field is read as is described by its layer. -/
theorem readField_eq_ok {className : String} {members : List (String × Json)}
    {field : FieldConverter} {path : Path} {typed : Option TypedValue} :
    plan.readField className (plan.memberSources members) field path = .ok typed
      ↔ plan.FieldLayer plan.Reads members field typed := by
  cases hg : Entries.get? field.key members with
  | none =>
    have hnone : Entries.get? field.key (plan.memberSources members) = none := by
      rw [get?_memberSources, hg, Option.map_none]
    rw [readField, hnone]
    dsimp only
    constructor
    · intro h
      split at h
      · rename_i ho
        cases h
        exact .missing hg ho
      · cases h
    · intro h
      cases h with
      | missing _ ho => rw [if_pos ho]
      | dropped hg' => cases hg.symm.trans hg'
      | present hg' => cases hg.symm.trans hg'
  | some value =>
    rw [readField_of_get? hg]
    constructor
    · intro h
      split at h
      · rename_i hd
        cases h
        exact .dropped (hd.1 ▸ hg) hd.2
      · rename_i hd
        obtain ⟨t, ht, rfl⟩ := map_eq_ok.mp h
        refine .present hg (fun hv => ?_) ((reads_iff_at _).mpr ht)
        simpa [hv] using hd
    · intro h
      cases h with
      | missing hg' => cases hg.symm.trans hg'
      | dropped hg' hd =>
        cases hg.symm.trans hg'
        rw [if_pos ⟨rfl, hd⟩]
      | present hg' hd hr =>
        cases hg.symm.trans hg'
        rw [if_neg (fun h => by simp [hd h.1] at h), map_eq_ok]
        exact ⟨_, hr _, rfl⟩

/-- What fields are read as is described by the layer of each. -/
theorem readFields_eq_ok {className : String} {members : List (String × Json)} {path : Path}
    {fields : List FieldConverter} {typed : List (String × Option TypedValue)} :
    plan.readFields className (plan.memberSources members) path fields = .ok typed
      ↔ List.Forall₂ (fun field entry =>
          entry.1 = field.key ∧ plan.FieldLayer plan.Reads members field entry.2) fields typed := by
  induction fields generalizing typed with
  | nil =>
    rw [readFields, List.forall₂_nil_left_iff, Except.ok.injEq]
    exact eq_comm
  | cons field rest ih =>
    rw [readFields, bind_eq_ok, List.forall₂_cons_left_iff]
    constructor
    · rintro ⟨t, ht, h⟩
      obtain ⟨ts, hts, h⟩ := bind_eq_ok.mp h
      cases h
      exact ⟨(field.key, t), ts, ⟨rfl, readField_eq_ok.mp ht⟩, ih.mp hts, rfl⟩
    · rintro ⟨⟨key, t⟩, ts, ⟨hk, ht⟩, hts, rfl⟩
      cases hk
      exact ⟨t, readField_eq_ok.mpr ht, bind_eq_ok.mpr ⟨ts, ih.mpr hts, rfl⟩⟩

/-- What an object is read as is described by the layer of its class. -/
theorem readObject_eq_ok {id : TypeId} {value : Json} {path : Path} {typed : TypedObject} :
    plan.readObject id (plan.view value) path = .ok typed
      ↔ plan.ObjectLayer plan.Reads id value typed := by
  unfold readObject classConverter
  constructor
  · intro h
    obtain ⟨converter, hc, h⟩ := bind_eq_ok.mp h
    split at hc
    · rename_i found hfound
      cases hc
      cases value with
      | object members =>
        obtain ⟨fields, hf, h⟩ := bind_eq_ok.mp h
        cases h
        exact .intro hfound (readFields_eq_ok.mp hf)
      | _ => cases h
    · cases hc
  · intro h
    cases h with
    | intro hc hf =>
      rw [hc]
      exact bind_eq_ok.mpr ⟨_, rfl, bind_eq_ok.mpr ⟨_, readFields_eq_ok.mpr hf, rfl⟩⟩

/-- What a number is decoded as is described by the layer of unions. -/
theorem decodeNumber_eq_ok {codec : UnionCodec} {n : Json.Number} {path : Path}
    {typed : UnionValue} :
    decodeNumber codec n path = .ok typed
      ↔ plan.UnionLayer plan.Reads codec (.number n) typed := by
  unfold decodeNumber
  split
  · rename_i i hi hn
    constructor
    · intro h
      cases h
      exact .integer hi hn
    · intro h
      cases h with
      | integer _ hn' =>
        cases hn.symm.trans hn'
        rfl
      | double hi' => cases (hi' hi).symm.trans hn
  · rename_i hno
    have hi : codec.integer = true → n.toInt64? = none := by
      intro hi
      cases hn : n.toInt64? with
      | none => rfl
      | some i => exact absurd hn (hno i hi)
    constructor
    · intro h
      split at h
      · rename_i hd
        cases h
        exact .double hi hd
      · split at h <;> cases h
    · intro h
      cases h with
      | integer hi' hn => cases (hi hi').symm.trans hn
      | double _ hd => rw [if_pos hd]

/-- An interpreted text is read exactly if it is parsed. -/
theorem readTransformed_eq_ok {kind : TransformKind} {text : String} {path : Path}
    {typed : TypedValue} :
    readTransformed kind text path = .ok typed
      ↔ ∃ value, kind.parse text = .ok value ∧ typed = .transformed value := by
  unfold readTransformed
  cases hp : kind.parse text <;> simp [eq_comm]

/-- What a string is read as is described by the layer of texts. -/
theorem readString_eq_ok {rule : StringRule} {text : String} {path : Path} {typed : TypedValue} :
    readString rule text path = .ok typed ↔ TextLayer rule text typed := by
  cases rule with
  | plain =>
    constructor
    · intro h
      cases h
      exact .plain text
    · intro h
      cases h
      rfl
  | transformed kind =>
    rw [readString, readTransformed_eq_ok]
    constructor
    · rintro ⟨value, hp, rfl⟩
      exact .transformed hp
    · intro h
      cases h with
      | transformed hp => exact ⟨_, hp, rfl⟩

/-- The enum member of a codec is known exactly when it has a converter. -/
theorem enumMember_eq_ok {codec : UnionCodec} {member : Option EnumConverter} :
    plan.enumMember codec = .ok member
      ↔ member = codec.enumeration.bind plan.enums.get?
        ∧ ∀ id, codec.enumeration = some id → ∃ converter, plan.enums.get? id = some converter := by
  unfold enumMember enumConverter
  cases he : codec.enumeration with
  | none => simp [eq_comm]
  | some id =>
    cases hc : plan.enums.get? id with
    | none => simp [Except.map, hc]
    | some converter => simp [Except.map, hc, eq_comm]

/-- What a string is decoded as is described by the layer of unions. -/
theorem decodeString_eq_ok {codec : UnionCodec} {text : String} {path : Path}
    {typed : UnionValue} :
    plan.decodeString codec text path = .ok typed
      ↔ plan.UnionLayer plan.Reads codec (.string text) typed := by
  unfold decodeString
  constructor
  · intro h
    obtain ⟨member, hm, h⟩ := bind_eq_ok.mp h
    obtain ⟨rfl, he⟩ := enumMember_eq_ok.mp hm
    unfold decodeText at h
    split at h
    · rename_i hc
      cases h
      exact .enumCase hc
    · rename_i hc
      split at h
      · rename_i rule hs
        obtain ⟨t, ht, h⟩ := bind_eq_ok.mp h
        cases h
        exact .string he (by simpa [isCaseOf] using hc) hs (readString_eq_ok.mp ht)
      · cases h
      · cases h
  · intro h
    cases h with
    | enumCase hc =>
      have he : ∀ id, codec.enumeration = some id →
          ∃ converter, plan.enums.get? id = some converter := by
        intro id hid
        cases hf : plan.enums.get? id with
        | some converter => exact ⟨converter, rfl⟩
        | none => simp [isCaseOf, hid, hf, isMemberCase] at hc
      refine bind_eq_ok.mpr ⟨_, enumMember_eq_ok.mpr ⟨rfl, he⟩, ?_⟩
      unfold decodeText
      exact if_pos hc
    | string he hc hs ht =>
      refine bind_eq_ok.mpr ⟨_, enumMember_eq_ok.mpr ⟨rfl, he⟩, ?_⟩
      have hc' : ¬isMemberCase (codec.enumeration.bind plan.enums.get?) text = true := by
        simpa [isCaseOf] using hc
      unfold decodeText
      rw [if_neg hc', hs]
      exact bind_eq_ok.mpr ⟨_, readString_eq_ok.mpr ht, rfl⟩

/-- What a value is decoded as is described by the layer of unions. -/
theorem decode_eq_ok {codec : UnionCodec} {value : Json} {path : Path} {typed : UnionValue} :
    plan.decode codec (plan.view value) path = .ok typed
      ↔ plan.UnionLayer plan.Reads codec value typed := by
  cases value with
  | null =>
    simp only [view, decode]
    constructor
    · intro h
      split at h
      · rename_i hn
        cases h
        exact .null hn
      · cases h
    · intro h
      cases h with
      | null hn => rw [if_pos hn]
  | bool b =>
    simp only [view, decode]
    constructor
    · intro h
      split at h
      · rename_i hb
        cases h
        exact .bool b hb
      · cases h
    · intro h
      cases h with
      | bool _ hb => rw [if_pos hb]
  | number n => exact decodeNumber_eq_ok
  | string text => exact decodeString_eq_ok
  | array items =>
    rw [view, itemReaders_eq]
    unfold decode
    dsimp only
    constructor
    · intro h
      split at h
      · rename_i rule ha
        obtain ⟨ts, hts, h⟩ := bind_eq_ok.mp h
        cases h
        exact .array ha (readItems_eq_ok.mp hts)
      · cases h
    · intro h
      cases h with
      | array ha hr =>
        rw [ha]
        exact bind_eq_ok.mpr ⟨_, readItems_eq_ok.mpr hr, rfl⟩
  | object members =>
    have hview : View.object (plan.memberSources members) = plan.view (.object members) := rfl
    rw [view]
    unfold decode
    dsimp only
    constructor
    · intro h
      split at h
      · rename_i id hc
        obtain ⟨o, ho, h⟩ := bind_eq_ok.mp h
        cases h
        exact .object hc (readObject_eq_ok.mp (hview ▸ ho))
      · rename_i rule hc hm
        obtain ⟨es, hes, h⟩ := bind_eq_ok.mp h
        cases h
        exact .map hc hm (readEntries_eq_ok.mp hes)
      · cases h
    · intro h
      cases h with
      | object hc ho =>
        rw [hc]
        exact bind_eq_ok.mpr ⟨_, hview ▸ readObject_eq_ok.mpr ho, rfl⟩
      | map hc hm hr =>
        rw [hc, hm]
        exact bind_eq_ok.mpr ⟨_, readEntries_eq_ok.mpr hr, rfl⟩

/-- An integer is read exactly if the number is one of 64 bits. -/
theorem readInteger_eq_ok {n : Json.Number} {path : Path} {i : Int64} :
    readInteger n path = .ok i ↔ n.toInt64? = some i := by
  unfold readInteger
  cases hn : n.toInt64? with
  | some j => simp
  | none =>
    dsimp only
    split <;> simp

/-- What a primitive value is read as is described by its layer. -/
theorem readCopy_eq_ok {primitive : Primitive} {value : Json} {path : Path} {typed : TypedValue} :
    readCopy primitive value (plan.view value) path = .ok typed
      ↔ plan.ValueLayer plan.Reads (.copy primitive) value typed := by
  cases primitive with
  | any =>
    constructor
    · intro h
      cases h
      exact .any value
    · intro h
      cases h
      rfl
  | integer =>
    cases value with
    | number n =>
      have hread : readCopy .integer (.number n) (plan.view (.number n)) path
          = (readInteger n path).map .integer := rfl
      rw [hread, map_eq_ok]
      constructor
      · rintro ⟨i, hi, rfl⟩
        exact .integer (readInteger_eq_ok.mp hi)
      · intro h
        cases h with
        | integer hn => exact ⟨_, readInteger_eq_ok.mpr hn, rfl⟩
    | _ => constructor <;> intro h <;> cases h
  | null =>
    cases value with
    | null =>
      constructor
      · intro h
        cases h
        exact .null
      · intro h
        cases h
        rfl
    | _ => constructor <;> intro h <;> cases h
  | bool =>
    cases value with
    | bool b =>
      constructor
      · intro h
        cases h
        exact .bool b
      · intro h
        cases h
        rfl
    | _ => constructor <;> intro h <;> cases h
  | double =>
    cases value with
    | number n =>
      constructor
      · intro h
        cases h
        exact .double n
      · intro h
        cases h
        rfl
    | _ => constructor <;> intro h <;> cases h
  | string =>
    cases value with
    | string text =>
      constructor
      · intro h
        cases h
        exact .string text
      · intro h
        cases h
        rfl
    | _ => constructor <;> intro h <;> cases h

/-- One step of a reading. -/
theorem reads_iff {rule : Rule} {value : Json} {typed : TypedValue} :
    plan.Reads rule value typed ↔ plan.ValueLayer plan.Reads rule value typed := by
  rw [reads_iff_at Path.top, dehydrateRule]
  cases rule with
  | copy primitive => exact readCopy_eq_ok
  | transformed kind =>
    cases value with
    | string text =>
      rw [view, readView, readTransformed_eq_ok]
      constructor
      · rintro ⟨x, hp, rfl⟩
        exact .transformed hp
      · intro h
        cases h with
        | transformed hp => exact ⟨_, hp, rfl⟩
    | _ => constructor <;> intro h <;> cases h
  | enumRef id =>
    rw [readView, enumConverter]
    constructor
    · intro h
      obtain ⟨converter, hc, h⟩ := bind_eq_ok.mp h
      split at hc
      · rename_i found hfound
        cases hc
        cases value with
        | string tag =>
          dsimp only [view] at h
          split at h
          · rename_i hcase
            cases h
            exact .enumCase hfound hcase
          · cases h
        | _ => cases h
      · cases hc
    · intro h
      cases h with
      | enumCase he hc =>
        rw [he]
        exact bind_eq_ok.mpr ⟨_, rfl, if_pos hc⟩
  | classRef id =>
    rw [readView, map_eq_ok]
    constructor
    · rintro ⟨o, ho, rfl⟩
      exact .object (readObject_eq_ok.mp ho)
    · intro h
      cases h with
      | object ho => exact ⟨_, readObject_eq_ok.mpr ho, rfl⟩
  | array rule =>
    cases value with
    | array items =>
      rw [view, itemReaders_eq, readView, map_eq_ok]
      constructor
      · rintro ⟨ts, hts, rfl⟩
        exact .array (readItems_eq_ok.mp hts)
      · intro h
        cases h with
        | array hr => exact ⟨_, readItems_eq_ok.mpr hr, rfl⟩
    | _ => constructor <;> intro h <;> cases h
  | map rule =>
    cases value with
    | object members =>
      rw [view, readView, map_eq_ok]
      constructor
      · rintro ⟨es, hes, rfl⟩
        exact .map (readEntries_eq_ok.mp hes)
      · intro h
        cases h with
        | map hr => exact ⟨_, readEntries_eq_ok.mpr hr, rfl⟩
    | _ => constructor <;> intro h <;> cases h
  | nullable rule =>
    cases value with
    | null =>
      constructor
      · intro h
        cases h
        exact .absent rule
      · intro h
        cases h with
        | absent => rfl
        | present hv => exact absurd rfl hv
    | _ =>
      constructor
      · intro h
        exact .present (by simp) ((reads_iff_at Path.top).mpr h)
      · intro h
        cases h with
        | present _ hr => exact hr Path.top
  | unionRef id =>
    rw [readView, unionCodec]
    constructor
    · intro h
      obtain ⟨codec, hc, h⟩ := bind_eq_ok.mp h
      obtain ⟨u, hu, h⟩ := bind_eq_ok.mp h
      split at hc
      · rename_i found hfound
        cases hc
        cases h
        exact .union hfound (decode_eq_ok.mp hu)
      · cases hc
    · intro h
      cases h with
      | union hc hu =>
        rw [hc]
        exact bind_eq_ok.mpr ⟨_, rfl, bind_eq_ok.mpr ⟨_, decode_eq_ok.mpr hu, rfl⟩⟩

/-- In one step the reading of the parts may be replaced by one that it implies
for the parts. The same value is read again only under a nullable rule. -/
theorem ValueLayer.imp_parts {R S : PartReading} {rule : Rule} {value : Json} {typed : TypedValue}
    (h : plan.ValueLayer R rule value typed)
    (hparts : ∀ r, ∀ part ∈ value.parts, ∀ t, R r part t → S r part t)
    (hsame : ∀ inner, rule = .nullable inner → ∀ t, R inner value t → S inner value t) :
    plan.ValueLayer S rule value typed := by
  have hmember : ∀ {members : List (String × Json)}, value = .object members →
      ∀ member ∈ members, ∀ r t, R r member.2 t → S r member.2 t := by
    rintro members rfl member hm r t
    exact hparts r member.2 (List.mem_map_of_mem hm) t
  have hobject : ∀ {id : TypeId} {o : TypedObject},
      plan.ObjectLayer R id value o → plan.ObjectLayer S id value o := by
    rintro id o ⟨hc, hf⟩
    refine .intro hc (hf.imp fun field entry => ?_)
    obtain ⟨key, t⟩ := entry
    rintro ⟨hk, hfield⟩
    refine ⟨hk, ?_⟩
    cases hfield with
    | missing hg ho => exact .missing hg ho
    | dropped hg hd => exact .dropped hg hd
    | present hg hd hr => exact .present hg hd (hmember rfl _ (Entries.mem_of_get? hg) _ _ hr)
  cases h with
  | any => exact .any value
  | null => exact .null
  | bool b => exact .bool b
  | integer hn => exact .integer hn
  | double n => exact .double n
  | string text => exact .string text
  | transformed hp => exact .transformed hp
  | enumCase he hc => exact .enumCase he hc
  | object ho => exact .object (hobject ho)
  | array hr => exact .array (forall₂_imp_of_mem hr fun item hi t _ => hparts _ item hi t)
  | map hr =>
    refine .map (forall₂_imp_of_mem hr fun member hm entry _ he => ⟨he.1, ?_⟩)
    exact hmember rfl member hm _ _ he.2
  | absent rule => exact .absent rule
  | present hv hr => exact .present hv (hsame _ rfl _ hr)
  | union hc hu =>
    refine .union hc ?_
    cases hu with
    | null hn => exact .null hn
    | bool b hb => exact .bool b hb
    | integer hi hn => exact .integer hi hn
    | double hi hd => exact .double hi hd
    | enumCase hc => exact .enumCase hc
    | string he hc hs ht => exact .string he hc hs ht
    | array ha hr => exact .array ha (forall₂_imp_of_mem hr fun item hi t _ => hparts _ item hi t)
    | object hc ho => exact .object hc (hobject ho)
    | map hc hm hr =>
      refine .map hc hm (forall₂_imp_of_mem hr fun member hm entry _ he => ⟨he.1, ?_⟩)
      exact hmember rfl member hm _ _ he.2

/-- What holds of a reading whenever it holds of the readings of the parts holds
of every reading. -/
@[elab_as_elim]
theorem Reads.induct {motive : PartReading}
    (step : ∀ rule value typed,
      plan.ValueLayer (fun r v t => plan.Reads r v t ∧ motive r v t) rule value typed →
        motive rule value typed)
    {rule : Rule} {value : Json} {typed : TypedValue} (h : plan.Reads rule value typed) :
    motive rule value typed := by
  induction value using Json.inductParts generalizing rule typed with
  | step value ih =>
    -- Under nullable rules the value stays, so the rule decreases within each value.
    induction rule generalizing typed with
    | nullable inner ihr =>
      refine step _ _ _ ((reads_iff.mp h).imp_parts (fun r part hp t ht => ⟨ht, ih part hp ht⟩) ?_)
      rintro r hr t ht
      cases hr
      exact ⟨ht, ihr ht⟩
    | _ =>
      refine step _ _ _ ((reads_iff.mp h).imp_parts (fun r part hp t ht => ⟨ht, ih part hp ht⟩) ?_)
      intro r hr
      cases hr

/-- An instance is dehydrated exactly when it is read by the rule of its class. -/
theorem dehydrate_eq_ok {id : TypeId} {value : Json} {typed : TypedObject} :
    plan.dehydrate id value = .ok typed ↔ plan.Reads (.classRef id) value (.object typed) := by
  rw [dehydrate, readObject_eq_ok, reads_iff]
  constructor
  · exact ValueLayer.object
  · intro h
    cases h with
    | object ho => exact ho

end Converters

end Hydration
