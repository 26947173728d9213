import Hydration.Proofs.Typed.Conformance
import Hydration.Proofs.Typed.Faults

/-!
# Which member a value goes to

`Binds graph plan members value path result` says what a union with some members makes
of a value: the token of the value and the members decide. A codec decodes as it says.
-/

namespace Hydration

/-- The kinds of members that take the token of a value. -/
def Json.takers : Json → List TypeKind
  | .null => [.null]
  | .bool _ => [.bool]
  | .number (.integer _) => [.integer, .double]
  | .number (.double _) => [.double]
  | .string _ => [.enumKind, .string]
  | .array _ => [.array]
  | .object _ => [.classKind, .map]

/-- A text is a case of an enum among the members of a union. -/
def TypeGraph.HasCase (graph : TypeGraph) (members : List TypeId) (text : String) : Prop :=
  ∃ member ∈ members, ∃ shape,
    graph.get? member = some (.enumType shape) ∧ shape.cases.contains text = true

namespace Plan.CodecOf

variable {graph : TypeGraph} {known : TypeId → Prop} {id : TypeId} {members : List TypeId}
  {codec : UnionCodec} (h : CodecOf graph known id members codec)
include h

/-- A codec has a member of a kind exactly when its union has one. -/
theorem mem_memberKinds_iff (kind : TypeKind) :
    kind ∈ codec.memberKinds ↔ kind ∈ graph.memberKinds members := by
  constructor
  · intro hk
    by_contra hnot
    have ho := h.others
    cases kind with
    | null => simp [UnionCodec.memberKinds, ho.nullable hnot, UnionCodec.blank] at hk
    | bool => simp [UnionCodec.memberKinds, ho.boolean hnot, UnionCodec.blank] at hk
    | integer => simp [UnionCodec.memberKinds, ho.integer hnot, UnionCodec.blank] at hk
    | double => simp [UnionCodec.memberKinds, ho.double hnot, UnionCodec.blank] at hk
    | string => simp [UnionCodec.memberKinds, ho.string hnot, UnionCodec.blank] at hk
    | array => simp [UnionCodec.memberKinds, ho.array hnot, UnionCodec.blank] at hk
    | map => simp [UnionCodec.memberKinds, ho.map hnot, UnionCodec.blank] at hk
    | classKind => simp [UnionCodec.memberKinds, ho.classMember hnot, UnionCodec.blank] at hk
    | enumKind => simp [UnionCodec.memberKinds, ho.enumeration hnot, UnionCodec.blank] at hk
    | _ => simp [UnionCodec.memberKinds] at hk
  · intro hk
    obtain ⟨member, hm, hkind⟩ := List.mem_filterMap.mp hk
    cases h.member member hm with
    | _ ht hs =>
      rw [TypeGraph.kind?_of_get? ht] at hkind
      cases hkind
      simp [UnionCodec.memberKinds, Ty.kind, *]

/-- Null is among the kinds of the members exactly if the codec takes it. -/
theorem null_mem_iff : .null ∈ graph.memberKinds members ↔ codec.nullable = true := by
  rw [← h.mem_memberKinds_iff]
  simp [UnionCodec.memberKinds]

theorem bool_mem_iff : .bool ∈ graph.memberKinds members ↔ codec.boolean = true := by
  rw [← h.mem_memberKinds_iff]
  simp [UnionCodec.memberKinds]

theorem integer_mem_iff : .integer ∈ graph.memberKinds members ↔ codec.integer = true := by
  rw [← h.mem_memberKinds_iff]
  simp [UnionCodec.memberKinds]

theorem double_mem_iff : .double ∈ graph.memberKinds members ↔ codec.double = true := by
  rw [← h.mem_memberKinds_iff]
  simp [UnionCodec.memberKinds]

/-- A string is among the kinds of the members exactly if the codec takes one. -/
theorem string_mem_iff : .string ∈ graph.memberKinds members ↔ codec.string.isSome = true := by
  rw [← h.mem_memberKinds_iff]
  simp [UnionCodec.memberKinds]

/-- A class is among the kinds of the members exactly if the codec has one. -/
theorem class_mem_iff :
    .classKind ∈ graph.memberKinds members ↔ codec.classMember.isSome = true := by
  rw [← h.mem_memberKinds_iff]
  simp [UnionCodec.memberKinds]

/-- The array member follows the rule of the elements of the arrays of the union. -/
theorem array_eq {member items : TypeId} {rule : Rule} (hm : member ∈ members)
    (ht : graph.get? member = some (.array items)) (hr : RuleOf graph known items rule) :
    codec.array = some rule := by
  cases h.member member hm with
  | array ht' hr' hs =>
    cases ht.symm.trans ht'
    rw [hs, hr.unique hr']
  | _ ht' => cases ht.symm.trans ht'

/-- The map member follows the rule of the values of the maps of the union. -/
theorem map_eq {member values : TypeId} {rule : Rule} (hm : member ∈ members)
    (ht : graph.get? member = some (.map values)) (hr : RuleOf graph known values rule) :
    codec.map = some rule := by
  cases h.member member hm with
  | map ht' hr' hs =>
    cases ht.symm.trans ht'
    rw [hs, hr.unique hr']
  | _ ht' => cases ht.symm.trans ht'

/-- No member takes the token of a value exactly when the codec has none for it. -/
theorem takes_eq_false_iff (value : Json) :
    codec.takes value = false ↔ ∀ kind ∈ value.takers, kind ∉ graph.memberKinds members := by
  simp only [← h.mem_memberKinds_iff]
  cases value with
  | number n => cases n <;> simp [UnionCodec.takes, Json.takers, UnionCodec.memberKinds]
  | string text => simp [UnionCodec.takes, Json.takers, UnionCodec.memberKinds, and_comm]
  | _ => simp [UnionCodec.takes, Json.takers, UnionCodec.memberKinds]

end Plan.CodecOf

namespace Converters

open Plan (RuleOf CodecOf HasMember)

variable (graph : TypeGraph) (plan : Converters) (members : List TypeId)

/-- What becomes of a value at a place in a union with members. -/
inductive Binds : Json → Path → Except DataError UnionValue → Prop where
  /-- Null goes to null. -/
  | null (path : Path) (hn : .null ∈ graph.memberKinds members) :
      Binds .null path (.ok UnionSlots.null)
  /-- A truth value goes to truth values. -/
  | bool (b : Bool) (path : Path) (hb : .bool ∈ graph.memberKinds members) :
      Binds (.bool b) path (.ok { UnionSlots.null with bool := some b })
  /-- An integer token in the signed range goes to integers first. -/
  | integer {n : Json.Number} {i : Int64} (path : Path)
      (hi : .integer ∈ graph.memberKinds members) (hn : n.toInt64? = some i) :
      Binds (.number n) path (.ok { UnionSlots.null with integer := some i })
  /-- Any other number goes to numbers, with its token. -/
  | double {n : Json.Number} (path : Path)
      (hi : .integer ∈ graph.memberKinds members → n.toInt64? = none)
      (hd : .double ∈ graph.memberKinds members) :
      Binds (.number n) path (.ok { UnionSlots.null with double := some n })
  /-- An integer token above the signed range is out of the range of integers. -/
  | outOfRange {token : Json.IntegerToken} (path : Path)
      (hi : .integer ∈ graph.memberKinds members) (hd : .double ∉ graph.memberKinds members)
      (hr : 0x8000000000000000 ≤ token.value) :
      Binds (.number (.integer token)) path
        (.error (.outOfRange path (Json.Number.integer token).text))
  /-- A case of the enum goes to the enum first. -/
  | enumCase {text : String} (path : Path) (hc : graph.HasCase members text) :
      Binds (.string text) path (.ok { UnionSlots.null with enumCase := some text })
  /-- Any other text goes to strings. -/
  | string {member : TypeId} {text : String} (path : Path) (hc : ¬graph.HasCase members text)
      (hm : member ∈ members) (ht : graph.get? member = some .string) :
      Binds (.string text) path (.ok { UnionSlots.null with string := some (.string text) })
  /-- Or it is parsed under the interpretation of strings. -/
  | transformed {member : TypeId} {kind : TransformKind} {text : String} {parsed : Transformed}
      (path : Path) (hc : ¬graph.HasCase members text) (hm : member ∈ members)
      (ht : graph.get? member = some (.transformed (.known kind)))
      (hp : kind.parse text = .ok parsed) :
      Binds (.string text) path (.ok { UnionSlots.null with string := some (.transformed parsed) })
  /-- And it may be no value of the interpretation. -/
  | invalidString {member : TypeId} {kind : TransformKind} {text : String}
      {fault : TransformFault} (path : Path) (hc : ¬graph.HasCase members text)
      (hm : member ∈ members) (ht : graph.get? member = some (.transformed (.known kind)))
      (hp : kind.parse text = .error fault) :
      Binds (.string text) path (.error (.invalidString path kind text fault))
  /-- Without strings, a text that is no case of the enum is an unknown one. -/
  | unknownCase {member : TypeId} {shape : EnumType} {text : String} (path : Path)
      (hm : member ∈ members) (ht : graph.get? member = some (.enumType shape))
      (hc : shape.cases.contains text = false) (hs : .string ∉ graph.memberKinds members) :
      Binds (.string text) path (.error (.unknownEnumCase path shape.name text))
  /-- An array is read by the rule of the elements of arrays. -/
  | array {member items : TypeId} {rule : Rule} (values : List Json) (path : Path)
      (hm : member ∈ members) (ht : graph.get? member = some (.array items))
      (hr : RuleOf graph plan.Records items rule) :
      Binds (.array values) path ((readItems rule path 0 (values.map plan.dehydrateRule)).map
        fun typed => { UnionSlots.null with array := some typed })
  /-- An object is read as an instance of the class, whatever comes of it. -/
  | object {member : TypeId} {shape : ClassType} (entries : List (String × Json)) (path : Path)
      (hm : member ∈ members) (ht : graph.get? member = some (.classType shape)) :
      Binds (.object entries) path ((plan.readObject member (plan.view (.object entries)) path).map
        fun typed => { UnionSlots.null with object := some typed })
  /-- Without a class it is read by the rule of the values of maps. -/
  | map {member values : TypeId} {rule : Rule} (entries : List (String × Json)) (path : Path)
      (hn : .classKind ∉ graph.memberKinds members) (hm : member ∈ members)
      (ht : graph.get? member = some (.map values)) (hr : RuleOf graph plan.Records values rule) :
      Binds (.object entries) path ((readEntries rule path (plan.memberSources entries)).map
        fun typed => { UnionSlots.null with map := some typed })
  /-- A value whose token no member takes does not match. -/
  | mismatch {value : Json} (path : Path)
      (hn : ∀ kind ∈ value.takers, kind ∉ graph.memberKinds members) :
      Binds value path (.error (.unionMismatch path value.kind.name))

variable {graph plan members}

section Codec

variable {id : TypeId} {codec : UnionCodec} {path : Path}

/-- A number goes to a numeric member or is out of its range, if one takes its token. -/
theorem exists_binds_number {n : Json.Number} {kind : TypeKind}
    (htakes : kind ∈ (Json.number n).takers) (hkind : kind ∈ graph.memberKinds members)
    (path : Path) : ∃ result, Binds graph plan members (.number n) path result := by
  cases n with
  | double x =>
    cases List.mem_singleton.mp htakes
    exact ⟨_, .double path (fun _ => rfl) hkind⟩
  | integer token =>
    by_cases hi : .integer ∈ graph.memberKinds members
    · cases hn : token.toInt64? with
      | some i => exact ⟨_, .integer path hi hn⟩
      | none =>
        by_cases hd : .double ∈ graph.memberKinds members
        · exact ⟨_, .double path (fun _ => hn) hd⟩
        · exact ⟨_, .outOfRange path hi hd (toInt64?_eq_none_iff.mp hn)⟩
    · have hd : kind = .double := by
        rcases List.mem_cons.mp htakes with rfl | hd
        · exact absurd hkind hi
        · exact List.mem_singleton.mp hd
      exact ⟨_, .double path (fun h => absurd h hi) (hd ▸ hkind)⟩

variable (hcodec : CodecOf graph plan.Records id members codec)
include hcodec

/-- A text goes to the enum or the string member or is an unknown case, if one takes it. -/
theorem exists_binds_string {text : String} {kind : TypeKind}
    (htakes : kind ∈ (Json.string text).takers) (hkind : kind ∈ graph.memberKinds members)
    (path : Path) : ∃ result, Binds graph plan members (.string text) path result := by
  by_cases hcase : graph.HasCase members text
  · exact ⟨_, .enumCase path hcase⟩
  by_cases hs : .string ∈ graph.memberKinds members
  · obtain ⟨member, hm, hstring, hmember⟩ := hcodec.exists_member (absurd hs)
    cases hmember with
    | string ht => exact ⟨_, .string path hcase hm ht⟩
    | @transformed parsing ht =>
      cases hparse : parsing.parse text with
      | ok parsed => exact ⟨_, .transformed path hcase hm ht hparse⟩
      | error fault => exact ⟨_, .invalidString path hcase hm ht hparse⟩
    | _ ht => cases hstring.symm.trans (TypeGraph.kind?_of_get? ht)
  · have henum : kind = .enumKind := by
      rcases List.mem_cons.mp htakes with rfl | hother
      · rfl
      · exact absurd hkind (List.mem_singleton.mp hother ▸ hs)
    obtain ⟨member, hm, hmkind, hmember⟩ := hcodec.exists_member (absurd (henum ▸ hkind))
    cases hmember with
    | @enumeration shape ht =>
      have hnot : shape.cases.contains text = false :=
        Bool.eq_false_iff.mpr fun hc => hcase ⟨member, hm, shape, ht, hc⟩
      exact ⟨_, .unknownCase path hm ht hnot hs⟩
    | _ ht => cases hmkind.symm.trans (TypeGraph.kind?_of_get? ht)

/-- An object goes to the class or the map member, if one takes it. -/
theorem exists_binds_object {entries : List (String × Json)} {kind : TypeKind}
    (htakes : kind ∈ (Json.object entries).takers) (hkind : kind ∈ graph.memberKinds members)
    (path : Path) : ∃ result, Binds graph plan members (.object entries) path result := by
  by_cases hclass : .classKind ∈ graph.memberKinds members
  · obtain ⟨member, hm, hmkind, hmember⟩ := hcodec.exists_member (absurd hclass)
    cases hmember with
    | classMember ht => exact ⟨_, .object entries path hm ht⟩
    | _ ht => cases hmkind.symm.trans (TypeGraph.kind?_of_get? ht)
  · have hmap : kind = .map := by
      rcases List.mem_cons.mp htakes with rfl | hother
      · exact absurd hkind hclass
      · exact List.mem_singleton.mp hother
    obtain ⟨member, hm, hmkind, hmember⟩ := hcodec.exists_member (absurd (hmap ▸ hkind))
    cases hmember with
    | map ht hr => exact ⟨_, .map entries path hclass hm ht hr⟩
    | _ ht => cases hmkind.symm.trans (TypeGraph.kind?_of_get? ht)

/-- Something becomes of every value. -/
theorem exists_binds (value : Json) (path : Path) :
    ∃ result, Binds graph plan members value path result := by
  by_cases hnone : ∀ kind ∈ value.takers, kind ∉ graph.memberKinds members
  · exact ⟨_, .mismatch path hnone⟩
  simp only [not_forall, not_not] at hnone
  obtain ⟨kind, htakes, hkind⟩ := hnone
  cases value with
  | null =>
    cases List.mem_singleton.mp htakes
    exact ⟨_, .null path hkind⟩
  | bool b =>
    cases List.mem_singleton.mp htakes
    exact ⟨_, .bool b path hkind⟩
  | number n => exact exists_binds_number htakes hkind path
  | string text => exact exists_binds_string hcodec htakes hkind path
  | array values =>
    cases List.mem_singleton.mp htakes
    obtain ⟨member, hm, hmkind, hmember⟩ := hcodec.exists_member (absurd hkind)
    cases hmember with
    | array ht hr => exact ⟨_, .array values path hm ht hr⟩
    | _ ht => cases hmkind.symm.trans (TypeGraph.kind?_of_get? ht)
  | object entries => exact exists_binds_object hcodec htakes hkind path

/-- A codec decodes a value to what becomes of it. -/
theorem decode_of_binds (hp : plan.Faithful graph) (hu : plan.unions.get? id = some codec)
    {value : Json} {result : Except DataError UnionValue}
    (h : Binds graph plan members value path result) :
    plan.decodeValue codec value path = result := by
  have hnotcase : ∀ {text}, ¬graph.HasCase members text → plan.isCaseOf codec text = false :=
    fun hc => Bool.eq_false_iff.mpr (mt (isCaseOf_iff_member hp hcodec).mp hc)
  cases h with
  | null _ hn => exact decode_eq_ok.mpr (.null (hcodec.null_mem_iff.mp hn))
  | bool b _ hb => exact decode_eq_ok.mpr (.bool b (hcodec.bool_mem_iff.mp hb))
  | integer _ hi hn => exact decode_eq_ok.mpr (.integer (hcodec.integer_mem_iff.mp hi) hn)
  | double _ hi hd =>
    exact decode_eq_ok.mpr (.double (fun hc => hi (hcodec.integer_mem_iff.mpr hc))
      (hcodec.double_mem_iff.mp hd))
  | outOfRange _ hi hd hr =>
    have hnot : codec.double = false := Bool.eq_false_iff.mpr (mt hcodec.double_mem_iff.mpr hd)
    exact (dehydrateRule_union_error hu).mp
      (error_of_fault (.unionOutOfRange path hu (hcodec.integer_mem_iff.mp hi) hnot hr))
  | enumCase _ hc => exact decode_eq_ok.mpr (.enumCase ((isCaseOf_iff_member hp hcodec).mpr hc))
  | @string member text _ hc hm ht =>
    have hno := hnotcase hc
    exact decode_eq_ok.mpr
      (.string (hp.exists_enumeration hu) hno (hcodec.plain_iff.mpr ⟨member, hm, ht⟩) (.plain text))
  | @transformed member _ _ _ _ hc hm ht hparse =>
    have hno := hnotcase hc
    exact decode_eq_ok.mpr (.string (hp.exists_enumeration hu) hno
      (hcodec.transformed_iff.mpr ⟨member, hm, ht⟩) (.transformed hparse))
  | @invalidString member _ _ _ _ hc hm ht hparse =>
    have hstring := hcodec.transformed_iff.mpr ⟨member, hm, ht⟩
    have henters : plan.Enters (.read plan) (.unionRef id) _ [] _ _ :=
      .unionString hu (hnotcase hc) hstring
    refine (dehydrateRule_union_error hu).mp (error_of_enters (closed_of_faithful hp) henters ?_)
    rw [Path.extend_nil]
    exact error_of_fault (.invalidString path hparse)
  | @unknownCase member shape _ _ hm ht hc hs =>
    have hmember := hcodec.enumeration_iff.mpr ⟨hm, shape, ht⟩
    have hfound := hp.enum_of ht (hcodec.known_of_member (Or.inr hmember))
    have hnone : codec.string = none := by
      simpa using mt hcodec.string_mem_iff.mpr hs
    exact (dehydrateRule_union_error hu).mp
      (error_of_fault (.unionEnumCase path hu hmember hnone hfound hc))
  | array values _ hm ht hr => exact decode_array (hcodec.array_eq hm ht hr) values
  | object entries _ hm ht =>
    exact decode_object (hcodec.classMember_iff.mpr ⟨hm, _, ht⟩) entries
  | map entries _ hn hm ht hr =>
    have hnone : codec.classMember = none := by
      simpa using mt hcodec.class_mem_iff.mpr hn
    exact decode_map hnone (hcodec.map_eq hm ht hr) entries
  | mismatch _ hn => exact decode_error_of_not_takes ((hcodec.takes_eq_false_iff _).mpr hn)

end Codec

/-- The codec of a union decodes every value to what its members make of it: the token
of the value decides, and where several members take it, integers that fit go before
numbers, cases of an enum before other texts and the class before maps. -/
theorem decode_iff_binds {union : TypeId} (h : buildUnion graph union = .ok plan) :
    ∃ members nullable codec, graph.get? union = some (.union members)
      ∧ graph.unionShape members = .multi nullable
      ∧ plan.unions.get? union = some codec
      ∧ ∀ value path result, plan.decodeValue codec value path = result
        ↔ Binds graph plan members.toList value path result := by
  obtain ⟨hp, id, hrule⟩ := faithful_of_buildUnion h
  obtain ⟨⟨members, ht⟩, -⟩ := buildUnion_eq_ok.mp h
  obtain ⟨members', nullable, ht', hs⟩ := isTrueUnion_of_ruleOf ht hrule
  cases ht.symm.trans ht'
  obtain ⟨codec, hu, hcodec⟩ := hp.union_of ht (hrule.eq_unionRef ht hs).2
  refine ⟨members, nullable, codec, ht, hs, hu, fun value path result => ⟨?_, ?_⟩⟩
  · rintro rfl
    obtain ⟨result, hbinds⟩ := exists_binds hcodec value path
    rwa [decode_of_binds hcodec hp hu hbinds]
  · exact decode_of_binds hcodec hp hu

/-- A mark is a map of integers, a color, an integer or a point. -/
def markGraph : TypeGraph where
  types := [
    .integer,
    .map ⟨0⟩,
    .enumType ⟨"Color", ⟨["red"], by decide⟩⟩,
    .classType ⟨"Point", ⟨[("x", ⟨⟨0⟩, false⟩)], by decide⟩⟩,
    .union ⟨[⟨1⟩, ⟨2⟩, ⟨0⟩, ⟨3⟩], by decide⟩]
  topLevels := OrderedMap.empty
  sound := by decide

/-- The codec of marks. -/
def markCodec : UnionCodec :=
  { UnionCodec.blank ⟨4⟩ with
    map := some (.copy .integer), enumeration := some ⟨2⟩, integer := true,
    classMember := some ⟨3⟩ }

/-- The plan for marks. -/
def markPlan : Converters where
  entries := []
  classes := ⟨[(⟨3⟩, ⟨⟨3⟩, "Point", [⟨"x", false, .copy .integer⟩]⟩)], by decide⟩
  enums := ⟨[(⟨2⟩, ⟨⟨2⟩, "Color", ⟨["red"], by decide⟩⟩)], by decide⟩
  unions := ⟨[(⟨4⟩, markCodec)], by decide⟩

/-- The least integer token above the signed range. -/
def overToken : Json.IntegerToken where
  value := 0x8000000000000000
  lower := by omega
  upper := by omega

/-- A text is a color or an unknown one. An integer is one or out of range, as there are no
other numbers. An object is a point, although the map would take it too. -/
theorem decode_iff_binds_mark :
    markPlan.decodeValue markCodec (.string "red") Path.top
        = .ok { UnionSlots.null with enumCase := some "red" }
      ∧ markPlan.decodeValue markCodec (.string "blue") Path.top
        = .error (.unknownEnumCase Path.top "Color" "blue")
      ∧ markPlan.decodeValue markCodec (.number (.integer overToken)) Path.top
        = .error (.outOfRange Path.top "9223372036854775808")
      ∧ markPlan.decodeValue markCodec (.object [("y", .number (.ofNat 1))]) Path.top
        = .error (.missingField "Point" "x")
      ∧ markPlan.decodeValue markCodec (.bool true) Path.top
        = .error (.unionMismatch Path.top "bool") := by
  have hbuild : buildUnion markGraph ⟨4⟩ = .ok markPlan := rfl
  obtain ⟨members, nullable, codec, ht, -, hu, hbinds⟩ := decode_iff_binds hbuild
  cases ht
  cases hu
  have hcolor : markGraph.get? ⟨2⟩ = some (.enumType ⟨"Color", ⟨["red"], by decide⟩⟩) := rfl
  have hpoint : markGraph.get? ⟨3⟩
      = some (.classType ⟨"Point", ⟨[("x", ⟨⟨0⟩, false⟩)], by decide⟩⟩) := rfl
  refine ⟨(hbinds _ _ _).mpr (.enumCase _ ⟨⟨2⟩, by decide, _, hcolor, rfl⟩),
    (hbinds _ _ _).mpr (.unknownCase _ (by decide) hcolor rfl (by decide)),
    (hbinds _ _ _).mpr (.outOfRange _ (by decide) (by decide) (Int.le_refl _)),
    (hbinds _ _ _).mpr (.object _ _ (by decide) hpoint),
    (hbinds _ _ _).mpr (.mismatch _ ?_)⟩
  intro kind hkind
  cases List.mem_singleton.mp hkind
  decide

end Converters

end Hydration
