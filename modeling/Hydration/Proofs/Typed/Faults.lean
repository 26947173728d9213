import Hydration.Proofs.Typed.Equations
import Hydration.Proofs.Typed.RoundTrip
import Hydration.Proofs.Typed.Visits

/-!
# Where dehydrating fails

`Fault plan rule value path error` says what is wrong with a value itself: its shape,
its text, its range or a missing member. A value is refused exactly when reading
it comes to a place with a fault, and the error is that of this place.
-/

namespace Hydration

/-- The kind of the JSON values of a primitive, if it is one. -/
def Primitive.kind? : Primitive → Option Json.Kind
  | any => none
  | null => some .null
  | bool => some .bool
  | integer => some .number
  | double => some .number
  | string => some .string

/-- Whether a codec has a member for the token of a value. -/
def UnionCodec.takes (codec : UnionCodec) : Json → Bool
  | .null => codec.nullable
  | .bool _ => codec.boolean
  | .number (.integer _) => codec.integer || codec.double
  | .number (.double _) => codec.double
  | .string _ => codec.string.isSome || codec.enumeration.isSome
  | .array _ => codec.array.isSome
  | .object _ => codec.classMember.isSome || codec.map.isSome

namespace Converters

variable (plan : Converters)

/-- The values of a rule are of one JSON kind, and errors call them by a text. -/
inductive Expects : Rule → Json.Kind → String → Prop where
  /-- A primitive other than any value. -/
  | copy {primitive : Primitive} {kind : Json.Kind} (hk : primitive.kind? = some kind) :
      Expects (.copy primitive) kind primitive.name
  /-- A string under an interpretation. -/
  | transformed (kind : TransformKind) :
      Expects (.transformed kind) .string (Rule.transformed kind).describe
  /-- A case of an enum. -/
  | enumRef {id : TypeId} {converter : EnumConverter} (he : plan.enums.get? id = some converter) :
      Expects (.enumRef id) .string (converter.name ++ " case")
  /-- An instance of a class. -/
  | classRef {id : TypeId} {converter : ClassConverter}
      (hc : plan.classes.get? id = some converter) :
      Expects (.classRef id) .object ("object " ++ converter.name)
  /-- An array. -/
  | array (rule : Rule) : Expects (.array rule) .array "array"
  /-- A map. -/
  | map (rule : Rule) : Expects (.map rule) .object "map"

/-- What is wrong with a value at a place, when it is read by a rule. -/
inductive Fault : Rule → Json → Path → DataError → Prop where
  /-- The value is of another kind than the rule expects. -/
  | kind {rule : Rule} {value : Json} {path : Path} {kind : Json.Kind} {expected : String}
      (he : plan.Expects rule kind expected) (hk : value.kind ≠ kind) :
      Fault rule value path (.typeMismatch path expected value.kind.name)
  /-- The number is no integer token. -/
  | fraction (x : Float) (path : Path) :
      Fault (.copy .integer) (.number (.double x)) path (.typeMismatch path "integer" "number")
  /-- The integer token is above the range. -/
  | outOfRange {token : Json.IntegerToken} (path : Path) (h : 0x8000000000000000 ≤ token.value) :
      Fault (.copy .integer) (.number (.integer token)) path
        (.outOfRange path (Json.Number.integer token).text)
  /-- The text is no value of the interpretation. -/
  | invalidString {kind : TransformKind} {text : String} {fault : TransformFault} (path : Path)
      (hp : kind.parse text = .error fault) :
      Fault (.transformed kind) (.string text) path (.invalidString path kind text fault)
  /-- The text is no case of the enum. -/
  | enumCase {id : TypeId} {converter : EnumConverter} {tag : String} (path : Path)
      (he : plan.enums.get? id = some converter) (hc : converter.cases.contains tag = false) :
      Fault (.enumRef id) (.string tag) path (.unknownEnumCase path converter.name tag)
  /-- A required field is missing, and all fields before it are read. -/
  | missingField {id : TypeId} {converter : ClassConverter} {members : List (String × Json)}
      {front back : List FieldConverter} {field : FieldConverter} (path : Path)
      (hc : plan.classes.get? id = some converter) (hs : converter.fields = front ++ field :: back)
      (hb : ∀ other ∈ front, (Before.read plan).field members other)
      (hg : Entries.get? field.key members = none) (ho : field.optional = false) :
      Fault (.classRef id) (.object members) path (.missingField converter.name field.key)
  /-- No member of the union takes the token of the value. -/
  | unionKind {id : TypeId} {codec : UnionCodec} {value : Json} (path : Path)
      (hu : plan.unions.get? id = some codec) (ht : codec.takes value = false) :
      Fault (.unionRef id) value path (.unionMismatch path value.kind.name)
  /-- The integer token is above the range, and there is no number member. -/
  | unionOutOfRange {id : TypeId} {codec : UnionCodec} {token : Json.IntegerToken} (path : Path)
      (hu : plan.unions.get? id = some codec) (hi : codec.integer = true)
      (hd : codec.double = false) (h : 0x8000000000000000 ≤ token.value) :
      Fault (.unionRef id) (.number (.integer token)) path
        (.outOfRange path (Json.Number.integer token).text)
  /-- The text is no case of the enum member, and there is no string member. -/
  | unionEnumCase {id member : TypeId} {codec : UnionCodec} {converter : EnumConverter}
      {tag : String} (path : Path) (hu : plan.unions.get? id = some codec)
      (hm : codec.enumeration = some member) (hs : codec.string = none)
      (he : plan.enums.get? member = some converter) (hc : converter.cases.contains tag = false) :
      Fault (.unionRef id) (.string tag) path (.unknownEnumCase path converter.name tag)

variable {plan}

/-- An integer token is out of the signed range only above it. -/
theorem toInt64?_eq_none_iff {token : Json.IntegerToken} :
    token.toInt64? = none ↔ 0x8000000000000000 ≤ token.value := by
  unfold Json.IntegerToken.toInt64?
  split <;> simp <;> omega

/-- An integer token above the range has no sign. -/
theorem isNonNegativeInteger_of_le {token : Json.IntegerToken}
    (h : 0x8000000000000000 ≤ token.value) :
    (Json.Number.integer token).isNonNegativeInteger = true := decide_eq_true (by omega)

section Errors

variable {path : Path} {error : DataError}

/-- A codec refuses a value whose token none of its members takes. -/
theorem decode_error_of_not_takes {codec : UnionCodec} {value : Json}
    (h : codec.takes value = false) :
    plan.decode codec (plan.view value) path = .error (.unionMismatch path value.kind.name) := by
  cases value with
  | null => exact if_neg (Bool.eq_false_iff.mp h)
  | bool b => exact if_neg (Bool.eq_false_iff.mp h)
  | number n =>
    simp only [view, decode, decodeNumber]
    cases n with
    | double x =>
      have hd : codec.double = false := h
      simp [hd, Json.Number.toInt64?, Json.Number.isNonNegativeInteger, Json.kind, Json.Kind.name]
    | integer token =>
      obtain ⟨hi, hd⟩ := Bool.or_eq_false_iff.mp h
      simp [hi, hd, Json.kind, Json.Kind.name]
  | string text =>
    have hnone := Bool.or_eq_false_iff.mp h
    rw [Option.isSome_eq_false_iff, Option.isNone_iff_eq_none, Option.isSome_eq_false_iff,
      Option.isNone_iff_eq_none] at hnone
    simp only [view, decode, decodeString, enumMember, hnone.2]
    exact bind_eq_error.mpr (Or.inr ⟨none, rfl, by simp [decodeText, isMemberCase, hnone.1]; rfl⟩)
  | array items =>
    have ha : codec.array = none := by simpa [UnionCodec.takes] using h
    simp only [view, decode, ha]
    rfl
  | object members =>
    have hnone := Bool.or_eq_false_iff.mp h
    rw [Option.isSome_eq_false_iff, Option.isNone_iff_eq_none, Option.isSome_eq_false_iff,
      Option.isNone_iff_eq_none] at hnone
    simp only [view, decode, hnone.1, hnone.2]
    rfl

/-- A value of another kind than its rule expects is refused. -/
theorem error_of_kind {rule : Rule} {value : Json} {kind : Json.Kind} {expected : String}
    (he : plan.Expects rule kind expected) (hk : value.kind ≠ kind) :
    plan.dehydrateRule value rule path
      = .error (.typeMismatch path expected value.kind.name) := by
  cases he with
  | @copy primitive _ hprimitive =>
    cases primitive <;> cases hprimitive <;> cases value <;> first | rfl | exact absurd rfl hk
  | transformed kind => cases value <;> first | rfl | exact absurd rfl hk
  | enumRef he =>
    rw [dehydrateRule, readView, enumConverter, he]
    cases value <;> first | rfl | exact absurd rfl hk
  | classRef hc =>
    refine map_eq_error.mpr ?_
    unfold readObject classConverter
    rw [hc]
    cases value <;> first | rfl | exact absurd rfl hk
  | array rule => cases value <;> first | rfl | exact absurd rfl hk
  | map rule => cases value <;> first | rfl | exact absurd rfl hk

/-- A value that is refused is so for its kind if this is not what its rule expects. -/
theorem fault_of_kind {rule : Rule} {value : Json} {kind : Json.Kind} {expected : String}
    (he : plan.Expects rule kind expected) (hk : value.kind ≠ kind)
    (h : plan.dehydrateRule value rule path = .error error) :
    plan.Fault rule value path error := by
  rw [error_of_kind he hk] at h
  cases h
  exact .kind he hk

/-- A value that a codec refuses is so for its token if no member takes it. -/
theorem fault_of_not_takes {id : TypeId} {codec : UnionCodec} {value : Json}
    (hu : plan.unions.get? id = some codec) (ht : codec.takes value = false)
    (h : plan.decode codec (plan.view value) path = .error error) :
    plan.Fault (.unionRef id) value path error := by
  rw [decode_error_of_not_takes ht] at h
  cases h
  exact .unionKind path hu ht

/-- Items fail with the error of the first one that fails. -/
theorem readItems_eq_error {rule : Rule} {index : Nat} {items : List Json} :
    readItems rule path index (items.map plan.dehydrateRule) = .error error
      ↔ FirstAfter ((Before.read plan).value rule)
          (fun offset item => plan.dehydrateRule item rule (path.item (index + offset))
            = .error error) items := by
  induction items generalizing index with
  | nil =>
    refine iff_of_false (fun h => ?_) not_firstAfter_nil
    cases h
  | cons item rest ih =>
    have hread : (∃ typed, plan.dehydrateRule item rule (path.item index) = .ok typed)
        ↔ (Before.read plan).value rule item :=
      exists_congr fun typed => (reads_iff_at _).symm
    rw [List.map_cons, readItems, cons_eq_error, ih, hread, firstAfter_cons]
    simp only [Nat.add_zero, Nat.add_right_comm index, Nat.add_assoc]

/-- Entries fail with the error of the first one that fails. -/
theorem readEntries_eq_error {rule : Rule} {members : List (String × Json)} :
    readEntries rule path (plan.memberSources members) = .error error
      ↔ FirstAfter (fun member => (Before.read plan).value rule member.2)
          (fun _ member => plan.dehydrateRule member.2 rule (path.child member.1)
            = .error error) members := by
  induction members with
  | nil =>
    refine iff_of_false (fun h => ?_) not_firstAfter_nil
    cases h
  | cons member rest ih =>
    obtain ⟨key, value⟩ := member
    have hread : (∃ typed, plan.dehydrateRule value rule (path.child key) = .ok typed)
        ↔ (Before.read plan).value rule value :=
      exists_congr fun typed => (reads_iff_at _).symm
    rw [memberSources, readEntries, cons_eq_error, ih, firstAfter_cons]
    exact or_congr_right (and_congr_left fun _ => hread)

/-- A field fails if it is required and missing, or if its value fails. -/
theorem readField_eq_error {className : String} {members : List (String × Json)}
    {field : FieldConverter} :
    plan.readField className (plan.memberSources members) field path = .error error
      ↔ (Entries.get? field.key members = none ∧ field.optional = false
          ∧ error = .missingField className field.key)
        ∨ ∃ value, Entries.get? field.key members = some value
          ∧ (value = .null → plan.dropsNull field = false)
          ∧ plan.dehydrateRule value field.rule (path.child field.key) = .error error := by
  cases hg : Entries.get? field.key members with
  | none =>
    have hnone : Entries.get? field.key (plan.memberSources members) = none := by
      rw [get?_memberSources, hg, Option.map_none]
    rw [readField, hnone]
    dsimp only
    constructor
    · intro h
      split at h
      · cases h
      · rename_i ho
        cases h
        exact Or.inl ⟨rfl, Bool.eq_false_iff.mpr ho, rfl⟩
    · rintro (⟨-, ho, rfl⟩ | ⟨value, hvalue, -⟩)
      · rw [if_neg (Bool.eq_false_iff.mp ho)]
      · cases hvalue
  | some value =>
    rw [readField_of_get? hg]
    constructor
    · intro h
      split at h
      · cases h
      · rename_i hd
        refine Or.inr ⟨value, rfl, fun hv => ?_, map_eq_error.mp h⟩
        exact Bool.eq_false_iff.mpr fun hdrops => hd ⟨hv, hdrops⟩
    · rintro (⟨hnone, -⟩ | ⟨_, ⟨⟩, hd, h⟩)
      · cases hnone
      · rw [if_neg fun hdrops => by cases (hd hdrops.1).symm.trans hdrops.2]
        exact map_eq_error.mpr h

/-- Fields fail with the error of the first one that fails. -/
theorem readFields_eq_error {className : String} {members : List (String × Json)}
    {fields : List FieldConverter} :
    plan.readFields className (plan.memberSources members) path fields = .error error
      ↔ FirstAfter ((Before.read plan).field members)
          (fun _ field => plan.readField className (plan.memberSources members) field path
            = .error error) fields := by
  induction fields with
  | nil =>
    refine iff_of_false (fun h => ?_) not_firstAfter_nil
    cases h
  | cons field rest ih =>
    have hread : (∃ typed, plan.readField className (plan.memberSources members) field path
        = .ok typed) ↔ (Before.read plan).field members field :=
      exists_congr fun typed => readField_eq_ok
    rw [readFields, cons_eq_error, ih, firstAfter_cons, hread]

/-- A value is refused for itself, or where its reading goes on. -/
def Refused (plan : Converters) (rule : Rule) (value : Json) (path : Path) (error : DataError) :
    Prop :=
  plan.Fault rule value path error ∨ ∃ steps next part,
    plan.Enters (.read plan) rule value steps next part
      ∧ plan.dehydrateRule part next (path.extend steps) = .error error

/-- A number is no integer token, or it is one above the range. -/
theorem fault_of_integer {n : Json.Number}
    (h : plan.dehydrateRule (.number n) (.copy .integer) path = .error error) :
    plan.Fault (.copy .integer) (.number n) path error := by
  have hread := map_eq_error.mp (show (readInteger n path).map _ = .error error from h)
  unfold readInteger at hread
  cases n with
  | double x =>
    cases hread
    exact .fraction x path
  | integer token =>
    split at hread
    · cases hread
    · rename_i htoken
      have hrange := toInt64?_eq_none_iff.mp htoken
      rw [if_pos (isNonNegativeInteger_of_le hrange)] at hread
      cases hread
      exact .outOfRange path hrange

/-- The error at a primitive rule is a fault of it. -/
theorem fault_of_copy {primitive : Primitive} {value : Json}
    (h : plan.dehydrateRule value (.copy primitive) path = .error error) :
    plan.Fault (.copy primitive) value path error := by
  cases primitive with
  | any => cases h
  | integer =>
    cases value with
    | number n => exact fault_of_integer h
    | _ => exact fault_of_kind (.copy rfl) (by simp [Json.kind]) h
  | null =>
    cases value with
    | null => cases h
    | _ => exact fault_of_kind (.copy rfl) (by simp [Json.kind]) h
  | bool =>
    cases value with
    | bool b => cases h
    | _ => exact fault_of_kind (.copy rfl) (by simp [Json.kind]) h
  | double =>
    cases value with
    | number n => cases h
    | _ => exact fault_of_kind (.copy rfl) (by simp [Json.kind]) h
  | string =>
    cases value with
    | string text => cases h
    | _ => exact fault_of_kind (.copy rfl) (by simp [Json.kind]) h

/-- The error at an interpreted text is a fault of it. -/
theorem refused_of_transformed {kind : TransformKind} {text : String}
    (h : readTransformed kind text path = .error error) :
    plan.Fault (.transformed kind) (.string text) path error := by
  unfold readTransformed at h
  split at h
  · cases h
  · rename_i hp
    cases h
    exact .invalidString path hp

/-- The fields of an object fail where one of them does. -/
theorem dehydrateRule_object_error {id : TypeId} {converter : ClassConverter}
    {members : List (String × Json)} (hc : plan.classes.get? id = some converter) :
    plan.dehydrateRule (.object members) (.classRef id) path = .error error
      ↔ plan.readFields converter.name (plan.memberSources members) path converter.fields
        = .error error := by
  rw [dehydrateRule_object hc]
  exact map_eq_error

/-- A union value fails where its codec does. -/
theorem dehydrateRule_union_error {id : TypeId} {codec : UnionCodec} {value : Json}
    (hu : plan.unions.get? id = some codec) :
    plan.dehydrateRule value (.unionRef id) path = .error error
      ↔ plan.decode codec (plan.view value) path = .error error := by
  rw [dehydrateRule_union hu]
  exact map_eq_error

/-- The error at an object of a class comes from one of its fields. -/
theorem refused_of_object {id : TypeId} {converter : ClassConverter}
    {members : List (String × Json)} (hc : plan.classes.get? id = some converter)
    (h : plan.dehydrateRule (.object members) (.classRef id) path = .error error) :
    plan.Refused (.classRef id) (.object members) path error := by
  obtain ⟨front, field, back, hs, hb, hfield⟩ :=
    readFields_eq_error.mp ((dehydrateRule_object_error hc).mp h)
  rcases readField_eq_error.mp hfield with ⟨hg, ho, rfl⟩ | ⟨part, hg, hd, herror⟩
  · exact Or.inl (.missingField path hc hs hb hg ho)
  · exact Or.inr ⟨_, _, part, .field hc hs hb hg hd, herror⟩

/-- The error at an array comes from one of its items. -/
theorem refused_of_items {rule : Rule} {items : List Json}
    (h : readItems rule path 0 (plan.itemReaders items) = .error error) :
    plan.Refused (.array rule) (.array items) path error := by
  rw [itemReaders_eq] at h
  obtain ⟨front, item, back, rfl, hb, herror⟩ := readItems_eq_error.mp h
  rw [Nat.zero_add] at herror
  exact Or.inr ⟨_, _, item, .item hb, herror⟩

/-- The error at a map comes from one of its entries. -/
theorem refused_of_entries {rule : Rule} {members : List (String × Json)}
    (h : readEntries rule path (plan.memberSources members) = .error error) :
    plan.Refused (.map rule) (.object members) path error := by
  obtain ⟨front, member, back, rfl, hb, herror⟩ := readEntries_eq_error.mp h
  exact Or.inr ⟨_, _, member.2, .entry hb, herror⟩

/-- A number whose token a member takes is refused only above the range. -/
theorem fault_of_decodeNumber {id : TypeId} {codec : UnionCodec} {n : Json.Number}
    (hu : plan.unions.get? id = some codec) (ht : codec.takes (.number n) = true)
    (h : decodeNumber codec n path = .error error) :
    plan.Fault (.unionRef id) (.number n) path error := by
  unfold decodeNumber at h
  split at h
  · cases h
  · rename_i hfits
    split at h
    · cases h
    · rename_i hdouble
      have hd : codec.double = false := Bool.eq_false_iff.mpr hdouble
      cases n with
      | double x => exact absurd ht hdouble
      | integer token =>
        have hi : codec.integer = true := (Bool.or_eq_true_iff.mp ht).resolve_right hdouble
        have hnone : token.toInt64? = none := by
          rw [Option.eq_none_iff_forall_ne_some]
          exact fun i => hfits i hi
        have hrange := toInt64?_eq_none_iff.mp hnone
        rw [hi, isNonNegativeInteger_of_le hrange] at h
        cases h
        exact .unionOutOfRange path hu hi hd hrange

/-- In a closed plan the enum member of a codec is known. -/
theorem enumMember_eq (hp : plan.Closed) {id : TypeId} {codec : UnionCodec}
    (hu : plan.unions.get? id = some codec) :
    plan.enumMember codec = .ok (codec.enumeration.bind plan.enums.get?) :=
  enumMember_eq_ok.mpr ⟨rfl, fun member hm =>
    OrderedMap.mem_keys_iff.mp (hp.enumerations id codec hu member hm)⟩

/-- A string member is read as its rule reads a text. -/
theorem readString_eq_error {rule : StringRule} {text : String} :
    readString rule text path = .error error
      ↔ plan.dehydrateRule (.string text) rule.rule path = .error error := by
  cases rule with
  | plain => exact iff_of_false nofun nofun
  | transformed kind => exact Iff.rfl

/-- A text that a member takes goes to the string member, or it is no case. -/
theorem refused_of_decodeString (hp : plan.Closed) {id : TypeId} {codec : UnionCodec}
    {text : String} (hu : plan.unions.get? id = some codec)
    (ht : codec.takes (.string text) = true)
    (h : plan.decodeString codec text path = .error error) :
    plan.Refused (.unionRef id) (.string text) path error := by
  rw [decodeString, enumMember_eq hp hu] at h
  replace h : decodeText codec (codec.enumeration.bind plan.enums.get?) text path
    = .error error := h
  unfold decodeText at h
  split at h
  · cases h
  · rename_i hnot
    have hcase : plan.isCaseOf codec text = false := Bool.eq_false_iff.mpr hnot
    cases hs : codec.string with
    | some rule =>
      rw [hs] at h
      refine Or.inr ⟨_, _, _, .unionString hu hcase hs, ?_⟩
      rw [Path.extend_nil]
      exact readString_eq_error.mp (bind_pure_eq_error.mp h)
    | none =>
      have hm : codec.enumeration.isSome = true :=
        (Bool.or_eq_true_iff.mp ht).resolve_left (by simp [hs])
      obtain ⟨member, hm⟩ := Option.isSome_iff_exists.mp hm
      obtain ⟨converter, he⟩ := OrderedMap.mem_keys_iff.mp (hp.enumerations id codec hu member hm)
      rw [hm, Option.bind_some, he] at hnot
      rw [hs, hm, Option.bind_some, he] at h
      cases h
      exact Or.inl (.unionEnumCase path hu hm hs he (Bool.eq_false_iff.mpr hnot))

section Members

variable {codec : UnionCodec} {rule : Rule}

/-- An array is refused by a codec as by its array member. -/
theorem decode_array_eq_error (ha : codec.array = some rule) {items : List Json} :
    plan.decode codec (plan.view (.array items)) path = .error error
      ↔ plan.dehydrateRule (.array items) (.array rule) path = .error error := by
  rw [decode_array ha, dehydrateRule_array]
  exact map_eq_error.trans map_eq_error.symm

/-- An object is refused by a codec as by its class member. -/
theorem decode_object_eq_error {member : TypeId} (hm : codec.classMember = some member)
    {members : List (String × Json)} :
    plan.decode codec (plan.view (.object members)) path = .error error
      ↔ plan.dehydrateRule (.object members) (.classRef member) path = .error error := by
  rw [decode_object hm, dehydrateRule_class]
  exact map_eq_error.trans map_eq_error.symm

/-- An object is refused by a codec without a class member as by its map member. -/
theorem decode_map_eq_error (hn : codec.classMember = none) (hm : codec.map = some rule)
    {members : List (String × Json)} :
    plan.decode codec (plan.view (.object members)) path = .error error
      ↔ plan.dehydrateRule (.object members) (.map rule) path = .error error := by
  rw [decode_map hn hm, dehydrateRule_map]
  exact map_eq_error.trans map_eq_error.symm

end Members

/-- A value that a codec refuses is so for its token, for itself or by a member. -/
theorem refused_of_decode (hp : plan.Closed) {id : TypeId} {codec : UnionCodec} {value : Json}
    (hu : plan.unions.get? id = some codec)
    (h : plan.decode codec (plan.view value) path = .error error) :
    plan.Refused (.unionRef id) value path error := by
  cases ht : codec.takes value with
  | false => exact Or.inl (fault_of_not_takes hu ht h)
  | true =>
    cases value with
    | null => cases h.symm.trans (if_pos ht)
    | bool b => cases h.symm.trans (if_pos ht)
    | number n => exact Or.inl (fault_of_decodeNumber hu ht h)
    | string text => exact refused_of_decodeString hp hu ht h
    | array items =>
      obtain ⟨rule, ha⟩ := Option.isSome_iff_exists.mp ht
      refine Or.inr ⟨_, _, _, .unionArray hu ha, ?_⟩
      rw [Path.extend_nil]
      exact (decode_array_eq_error ha).mp h
    | object members =>
      cases hm : codec.classMember with
      | some member =>
        refine Or.inr ⟨_, _, _, .unionObject hu hm, ?_⟩
        rw [Path.extend_nil]
        exact (decode_object_eq_error hm).mp h
      | none =>
        have hmap : codec.map.isSome = true :=
          (Bool.or_eq_true_iff.mp ht).resolve_left (by simp [hm])
        obtain ⟨rule, hmap⟩ := Option.isSome_iff_exists.mp hmap
        refine Or.inr ⟨_, _, _, .unionMap hu hm hmap, ?_⟩
        rw [Path.extend_nil]
        exact (decode_map_eq_error hm hmap).mp h

/-- In a closed plan, a value that is not read is refused for itself or where its
reading goes on. -/
theorem refused_of_error (hp : plan.Closed) {rule : Rule} {value : Json} (hr : plan.Resolves rule)
    (h : plan.dehydrateRule value rule path = .error error) :
    plan.Refused rule value path error := by
  cases rule with
  | copy primitive => exact Or.inl (fault_of_copy h)
  | transformed kind =>
    cases value with
    | string text => exact Or.inl (refused_of_transformed h)
    | _ => exact Or.inl (fault_of_kind (.transformed kind) (by simp [Json.kind]) h)
  | enumRef id =>
    obtain ⟨converter, he⟩ := OrderedMap.mem_keys_iff.mp hr
    cases value with
    | string tag =>
      rw [dehydrateRule, readView, enumConverter, he] at h
      rcases bind_eq_error.mp h with h | ⟨_, ⟨⟩, h⟩
      · cases h
      · dsimp only [view] at h
        split at h
        · cases h
        · rename_i hc
          cases h
          exact Or.inl (.enumCase path he (Bool.eq_false_iff.mpr hc))
    | _ => exact Or.inl (fault_of_kind (.enumRef he) (by simp [Json.kind]) h)
  | classRef id =>
    obtain ⟨converter, hc⟩ := OrderedMap.mem_keys_iff.mp hr
    cases value with
    | object members => exact refused_of_object hc h
    | _ => exact Or.inl (fault_of_kind (.classRef hc) (by simp [Json.kind]) h)
  | array rule =>
    cases value with
    | array items => exact refused_of_items (map_eq_error.mp h)
    | _ => exact Or.inl (fault_of_kind (.array rule) (by simp [Json.kind]) h)
  | map rule =>
    cases value with
    | object members => exact refused_of_entries (map_eq_error.mp h)
    | _ => exact Or.inl (fault_of_kind (.map rule) (by simp [Json.kind]) h)
  | nullable rule =>
    cases value with
    | null => cases h
    | _ =>
      refine Or.inr ⟨_, _, _, .present (by simp), ?_⟩
      rw [Path.extend_nil]
      exact h
  | unionRef id =>
    obtain ⟨codec, hu⟩ := OrderedMap.mem_keys_iff.mp hr
    exact refused_of_decode hp hu ((dehydrateRule_union_error hu).mp h)

/-- A value with a fault is refused for it. -/
theorem error_of_fault {rule : Rule} {value : Json}
    (h : plan.Fault rule value path error) : plan.dehydrateRule value rule path = .error error := by
  cases h with
  | kind he hk => exact error_of_kind he hk
  | fraction x => rfl
  | outOfRange _ hrange =>
    refine map_eq_error.mpr ?_
    unfold readInteger
    rw [Json.Number.toInt64?, toInt64?_eq_none_iff.mpr hrange]
    dsimp only
    rw [if_pos (isNonNegativeInteger_of_le hrange)]
  | invalidString _ hparse =>
    rw [dehydrateRule, view, readView, readTransformed, hparse]
  | enumCase _ he hc =>
    rw [dehydrateRule, readView, enumConverter, he]
    exact if_neg (Bool.eq_false_iff.mp hc)
  | missingField _ hc hs hb hg ho =>
    refine (dehydrateRule_object_error hc).mpr (readFields_eq_error.mpr ⟨_, _, _, hs, hb, ?_⟩)
    exact readField_eq_error.mpr (Or.inl ⟨hg, ho, rfl⟩)
  | unionKind _ hu ht => exact (dehydrateRule_union_error hu).mpr (decode_error_of_not_takes ht)
  | unionOutOfRange _ hu hi hd hrange =>
    refine (dehydrateRule_union_error hu).mpr ?_
    simp only [view, decode, decodeNumber, Json.Number.toInt64?, toInt64?_eq_none_iff.mpr hrange,
      hi, hd, isNonNegativeInteger_of_le hrange]
    rfl
  | @unionEnumCase _ _ _ converter tag _ hu hm hs he hc =>
    have hnot : ¬isMemberCase (some converter) tag = true := Bool.eq_false_iff.mp hc
    refine (dehydrateRule_union_error hu).mpr ?_
    simp only [view, decode, decodeString, enumMember, hm, enumConverter, he]
    refine bind_eq_error.mpr (Or.inr ⟨some converter, rfl, ?_⟩)
    unfold decodeText
    rw [if_neg hnot, hs]

/-- A value is refused if what its reading goes on with is. -/
theorem error_of_enters (hp : plan.Closed) {rule next : Rule} {value part : Json}
    {steps : List Json.Step} (h : plan.Enters (.read plan) rule value steps next part)
    (herror : plan.dehydrateRule part next (path.extend steps) = .error error) :
    plan.dehydrateRule value rule path = .error error := by
  cases h with
  | field hc hs hb hg hd =>
    refine (dehydrateRule_object_error hc).mpr (readFields_eq_error.mpr ⟨_, _, _, hs, hb, ?_⟩)
    exact readField_eq_error.mpr (Or.inr ⟨part, hg, hd, herror⟩)
  | @item rule front back item hb =>
    refine map_eq_error.mpr ?_
    rw [itemReaders_eq]
    refine readItems_eq_error.mpr ⟨front, part, back, rfl, hb, ?_⟩
    dsimp only
    rw [Nat.zero_add]
    exact herror
  | @entry rule front back member hb =>
    exact map_eq_error.mpr (readEntries_eq_error.mpr ⟨front, member, back, rfl, hb, herror⟩)
  | present hv =>
    rw [Path.extend_nil] at herror
    cases value <;> first | exact herror | exact absurd rfl hv
  | @unionString _ codec rule text hu hc hs =>
    rw [Path.extend_nil] at herror
    have hnot : ¬isMemberCase (codec.enumeration.bind plan.enums.get?) text = true :=
      Bool.eq_false_iff.mp hc
    refine (dehydrateRule_union_error hu).mpr ?_
    refine bind_eq_error.mpr (Or.inr ⟨_, enumMember_eq hp hu, ?_⟩)
    unfold decodeText
    rw [if_neg hnot, hs]
    exact bind_eq_error.mpr (Or.inl (readString_eq_error.mpr herror))
  | unionArray hu ha =>
    rw [Path.extend_nil] at herror
    exact (dehydrateRule_union_error hu).mpr ((decode_array_eq_error ha).mpr herror)
  | unionObject hu hm =>
    rw [Path.extend_nil] at herror
    exact (dehydrateRule_union_error hu).mpr ((decode_object_eq_error hm).mpr herror)
  | unionMap hu hn hm =>
    rw [Path.extend_nil] at herror
    exact (dehydrateRule_union_error hu).mpr ((decode_map_eq_error hn hm).mpr herror)

/-- In a closed plan a value is refused exactly when its reading comes to a place
with a fault, for the fault of this place. -/
theorem dehydrateRule_eq_error (hp : plan.Closed) {rule : Rule} {value : Json}
    (hr : plan.Resolves rule) :
    plan.dehydrateRule value rule path = .error error
      ↔ ∃ steps last inner, plan.Visits (.read plan) rule value steps last inner
        ∧ plan.Fault last inner (path.extend steps) error := by
  constructor
  · induction rule, value using @enters_induct plan (.read plan) generalizing path with
    | step rule value ih =>
      intro h
      rcases refused_of_error hp hr h with hfault | ⟨front, next, part, he, herror⟩
      · exact ⟨[], rule, value, .here rule value, by rwa [Path.extend_nil]⟩
      · obtain ⟨back, last, inner, hv, hfault⟩ := ih front next part he (he.resolves hp hr) herror
        rw [← Path.extend_append] at hfault
        exact ⟨front ++ back, last, inner, .enter he hv, hfault⟩
  · rintro ⟨steps, last, inner, hv, hfault⟩
    induction hv generalizing path with
    | here =>
      rw [Path.extend_nil] at hfault
      exact error_of_fault hfault
    | enter he _ ih =>
      rw [Path.extend_append] at hfault
      exact error_of_enters hp he (ih (he.resolves hp hr) hfault)

end Errors

/-- A document that is not dehydrated has a place with a fault, which the error
names: its path is the one of this place, and it says what is wrong with the value
there. The reading comes to this place, so it reads all fields, elements and
entries before it. The error is never that of a plan or of a typed value. -/
theorem fault_of_dehydrate {graph : TypeGraph} {entries : List TypeId} {routing : UnionRouting}
    (h : build graph entries routing = .ok plan) {id : TypeId} (hid : id ∈ plan.classes.keys)
    {value : Json} {error : DataError} (he : plan.dehydrate id value = .error error) :
    (∃ steps rule inner, plan.Visits (.read plan) (.classRef id) value steps rule inner
      ∧ plan.Fault rule inner ⟨"$", steps⟩ error
      ∧ (value.WellKeyed → value.at? steps = some inner))
    ∧ (∀ other, error ≠ .missingConverter other)
    ∧ (∀ path expected found, error ≠ .wrongClass path expected found)
    ∧ ∀ path, error ≠ .nullUnion path := by
  have hp := closed_of_faithful (faithful_of_build h)
  have hr : plan.Resolves (.classRef id) := hid
  obtain ⟨steps, rule, inner, hv, hfault⟩ :=
    (dehydrateRule_eq_error hp hr).mp (map_eq_error.mpr he)
  refine ⟨⟨steps, rule, inner, hv, hfault, hv.at?_eq⟩, ?_, ?_, ?_⟩
  · rintro other rfl
    cases hfault
  · rintro path expected found rfl
    cases hfault
  · rintro path rfl
    cases hfault

/-- A note that is no string is reported at its place, after what the box holds has
been read. -/
theorem fault_of_dehydrate_box :
    ∃ steps rule inner, boxPlan.Visits (.read boxPlan) (.classRef ⟨6⟩)
        (.object [("note", .bool true), ("v", .string "07")]) steps rule inner
      ∧ boxPlan.Fault rule inner ⟨"$", steps⟩
        (.typeMismatch ⟨"$", [.key "note"]⟩ "string" "bool") := by
  have hbuild : build boxGraph [⟨6⟩] .codec = .ok boxPlan := rfl
  have herror : boxPlan.dehydrate ⟨6⟩ (.object [("note", .bool true), ("v", .string "07")])
      = .error (.typeMismatch ⟨"$", [.key "note"]⟩ "string" "bool") := rfl
  obtain ⟨⟨steps, rule, inner, hv, hfault, -⟩, -⟩ :=
    fault_of_dehydrate hbuild (List.mem_singleton_self _) herror
  exact ⟨steps, rule, inner, hv, hfault⟩

end Converters

end Hydration
