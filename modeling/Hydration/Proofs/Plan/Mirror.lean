import Hydration.Proofs.Plan.Unique
import Hydration.Proofs.Plan.Walk

/-!
# Plans mirror their graph

A plan holds exactly the converters of the types that its starts reach, each
read from its declaration alone. Building fails only where an entry is no
class, a cycle is refused or a reached type is not supported.
-/

namespace Hydration

namespace Converters

open Plan (RuleOf ClassOf EnumOf UnionOf State)

/-- Every reference in a rule is to a converter of its kind. -/
def Resolves (plan : Converters) : Rule → Prop
  | .copy _ => True
  | .transformed _ => True
  | .enumRef id => id ∈ plan.enums.keys
  | .classRef id => id ∈ plan.classes.keys
  | .array items => plan.Resolves items
  | .map values => plan.Resolves values
  | .nullable inner => plan.Resolves inner
  | .unionRef id => id ∈ plan.unions.keys

/-- Every reference in a converter is to a converter of its kind. -/
structure Closed (plan : Converters) : Prop where
  /-- The rules of fields refer to converters. -/
  fields : ∀ id converter, plan.classes.get? id = some converter →
    ∀ field ∈ converter.fields, plan.Resolves field.rule
  /-- The class members of codecs have converters. -/
  classMembers : ∀ id codec, plan.unions.get? id = some codec →
    ∀ member, codec.classMember = some member → member ∈ plan.classes.keys
  /-- The enum members of codecs have converters. -/
  enumerations : ∀ id codec, plan.unions.get? id = some codec →
    ∀ member, codec.enumeration = some member → member ∈ plan.enums.keys
  /-- The rules of map members refer to converters. -/
  maps : ∀ id codec, plan.unions.get? id = some codec →
    ∀ rule, codec.map = some rule → plan.Resolves rule
  /-- The rules of array members refer to converters. -/
  arrays : ∀ id codec, plan.unions.get? id = some codec →
    ∀ rule, codec.array = some rule → plan.Resolves rule

/-- A plan holds what its graph says of the types that its starts reach: for
each class, enum and union of several members among them, and for nothing else,
the converter that is read from its declaration alone. -/
structure Mirrors (graph : TypeGraph) (starts : List TypeId) (plan : Converters) : Prop where
  /-- The reached classes have converters. -/
  classKeys : ∀ id, id ∈ plan.classes.keys
    ↔ graph.Reaches starts id ∧ ∃ shape, graph.get? id = some (.classType shape)
  /-- The reached enums have converters. -/
  enumKeys : ∀ id, id ∈ plan.enums.keys
    ↔ graph.Reaches starts id ∧ ∃ shape, graph.get? id = some (.enumType shape)
  /-- The reached unions of several members have codecs. -/
  unionKeys : ∀ id, id ∈ plan.unions.keys ↔ graph.Reaches starts id ∧ graph.IsTrueUnion id
  /-- Each has one. -/
  once : plan.classes.keys.Nodup ∧ plan.enums.keys.Nodup ∧ plan.unions.keys.Nodup
  /-- The converter of a class is read from its declaration. -/
  classes : ∀ id converter, plan.classes.get? id = some converter
    ↔ graph.Reaches starts id ∧ ClassOf graph (fun _ => True) id converter
  /-- The converter of an enum is read from its declaration. -/
  enums : ∀ id converter, plan.enums.get? id = some converter
    ↔ graph.Reaches starts id ∧ EnumOf graph id converter
  /-- The codec of a union is read from its declaration. -/
  unions : ∀ id codec, plan.unions.get? id = some codec
    ↔ graph.Reaches starts id ∧ UnionOf graph (fun _ => True) id codec
  /-- What converters refer to has converters. -/
  closed : plan.Closed

/-- Two plans have the same converter for each type for which both have one. -/
structure AgreesWith (plan plan' : Converters) : Prop where
  /-- Shared classes have one converter. -/
  classes : ∀ id converter converter', plan.classes.get? id = some converter →
    plan'.classes.get? id = some converter' → converter = converter'
  /-- Shared enums have one converter. -/
  enums : ∀ id converter converter', plan.enums.get? id = some converter →
    plan'.enums.get? id = some converter' → converter = converter'
  /-- Shared unions have one codec. -/
  unions : ∀ id codec codec', plan.unions.get? id = some codec →
    plan'.unions.get? id = some codec' → codec = codec'

/-- Plans that mirror one graph agree, whatever their starts. -/
theorem Mirrors.agreesWith {graph : TypeGraph} {starts starts' : List TypeId}
    {plan plan' : Converters} (h : plan.Mirrors graph starts) (h' : plan'.Mirrors graph starts') :
    plan.AgreesWith plan' where
  classes id _ _ hc hc' := ((h.classes id _).mp hc).2.unique ((h'.classes id _).mp hc').2
  enums id _ _ he he' := ((h.enums id _).mp he).2.unique ((h'.enums id _).mp he').2
  unions id _ _ hu hu' := ((h.unions id _).mp hu).2.unique ((h'.unions id _).mp hu').2

/-- A type with a rule ends: its rule is built from those of the types inside. -/
theorem ends_of_ruleOf {graph : TypeGraph} {known : TypeId → Prop} {id : TypeId} {rule : Rule}
    (h : RuleOf graph known id rule) : graph.Ends id := by
  refine TypeGraph.ends_of_acc ?_
  have hnull : ∀ other, graph.get? other = some .null →
      Acc (fun next id => graph.RefersInside id next) other := by
    intro other ht
    refine .intro _ fun next hr => ?_
    cases hr.1 with
    | _ ht' => cases ht.symm.trans ht'
  induction h with
  | array ht _ ih => exact .intro _ fun next hr => hr.1.eq_items ht ▸ ih
  | map ht _ ih => exact .intro _ fun next hr => hr.1.eq_values ht ▸ ih
  | classRef ht _ =>
    refine .intro _ fun next hr => ?_
    have hclass := hr.2.1
    rw [TypeGraph.class?_eq_some_iff.mpr ht] at hclass
    cases hclass
  | nullOnly ht hs =>
    exact .intro _ fun next hr =>
      hnull next (TypeGraph.null_of_nullOnly hs (hr.1.mem_members ht))
  | single ht hs _ ih =>
    refine .intro _ fun next hr => ?_
    rcases TypeGraph.eq_of_unionShape (Or.inl hs) (hr.1.mem_members ht) with hn | rfl
    · exact hnull next hn
    · exact ih
  | nullable ht hs _ ih =>
    refine .intro _ fun next hr => ?_
    rcases TypeGraph.eq_of_unionShape (Or.inr hs) (hr.1.mem_members ht) with hn | rfl
    · exact hnull next hn
    · exact ih
  | unionRef ht hs _ => exact .intro _ fun next hr => absurd ⟨_, _, ht, hs⟩ hr.2.2
  | _ ht =>
    refine .intro _ fun next hr => ?_
    cases hr.1 with
    | _ ht' => cases ht.symm.trans ht'

/-- What a type with a rule refers to has a rule, unless the rule refers to a converter
that is not recorded. -/
theorem exists_rule_of_refers {graph : TypeGraph} {known : TypeId → Prop} {plan : Converters}
    (hp : Plan.FaithfulBy graph known plan) {id next : TypeId} {rule : Rule}
    (h : RuleOf graph known id rule) (hk : known id → plan.Records id)
    (hr : graph.Refers id next) : ∃ rule', RuleOf graph known next rule' := by
  cases hr with
  | items ht | values ht =>
    obtain ⟨inner, -, hinner⟩ := h.inv ht
    exact ⟨inner, hinner⟩
  | field ht he =>
    obtain ⟨fields, -, hfields⟩ := hp.class_of ht (hk (h.eq_classRef ht).2)
    obtain ⟨field, -, hfield⟩ := exists_of_forall₂_left hfields he
    exact ⟨field.rule, hfield.rule⟩
  | @member _ members ht hm =>
    cases hs : graph.unionShape members with
    | nullOnly => exact ⟨_, .null (TypeGraph.null_of_nullOnly hs hm)⟩
    | single member =>
      rcases TypeGraph.eq_of_unionShape (Or.inl hs) hm with hnull | rfl
      · exact ⟨_, .null hnull⟩
      · exact ⟨rule, h.single_member ht hs⟩
    | nullable member =>
      rcases TypeGraph.eq_of_unionShape (Or.inr hs) hm with hnull | rfl
      · exact ⟨_, .null hnull⟩
      · obtain ⟨inner, -, hinner⟩ := h.nullable_member ht hs
        exact ⟨inner, hinner⟩
    | multi nullable =>
      obtain ⟨codec, -, hcodec⟩ := hp.union_of ht (hk (h.eq_unionRef ht hs).2)
      exact (hcodec.member next hm).exists_rule

section Faithful

variable {graph : TypeGraph} {plan : Converters} (hp : plan.Faithful graph)
include hp

/-- The references of a rule of the graph are to converters. -/
theorem resolves_of_ruleOf {id : TypeId} {rule : Rule} (h : RuleOf graph plan.Records id rule) :
    plan.Resolves rule := by
  induction h with
  | classRef ht hk =>
    obtain ⟨fields, hc, -⟩ := hp.class_of ht hk
    exact OrderedMap.mem_keys_iff.mpr ⟨_, hc⟩
  | enumRef ht hk => exact OrderedMap.mem_keys_iff.mpr ⟨_, hp.enum_of ht hk⟩
  | unionRef ht _ hk =>
    obtain ⟨codec, hu, -⟩ := hp.union_of ht hk
    exact OrderedMap.mem_keys_iff.mpr ⟨codec, hu⟩
  | array _ _ ih => exact ih
  | map _ _ ih => exact ih
  | single _ _ _ ih => exact ih
  | nullable _ _ _ ih => exact ih
  | _ => trivial

/-- A faithful plan refers to its own converters only. -/
theorem closed_of_faithful : plan.Closed where
  fields id converter hc field hf := by
    obtain ⟨type, hrule⟩ := hp.rule_of_field hc hf
    exact resolves_of_ruleOf hp hrule
  classMembers id codec hu member hm := by
    obtain ⟨-, -, hcodec⟩ := hp.unions id codec hu
    obtain ⟨-, shape, ht⟩ := hcodec.classMember_iff.mp hm
    obtain ⟨fields, hc, -⟩ := hp.class_of ht (hcodec.known_of_member (Or.inl hm))
    exact OrderedMap.mem_keys_iff.mpr ⟨_, hc⟩
  enumerations id codec hu member hm :=
    OrderedMap.mem_keys_iff.mpr (hp.exists_enumeration hu member hm)
  maps id codec hu rule hr := by
    obtain ⟨-, -, hcodec⟩ := hp.unions id codec hu
    obtain ⟨member, -, values, -, hrule⟩ := hcodec.map_member hr
    exact resolves_of_ruleOf hp hrule
  arrays id codec hu rule hr := by
    obtain ⟨-, -, hcodec⟩ := hp.unions id codec hu
    obtain ⟨member, -, items, -, hrule⟩ := hcodec.array_member hr
    exact resolves_of_ruleOf hp hrule

/-- A type with a rule is supported. -/
theorem supported_of_ruleOf {id : TypeId} {rule : Rule} (h : RuleOf graph plan.Records id rule) :
    graph.Supported id where
  kind name ht := by
    obtain ⟨supported, hkind, -⟩ := h.inv ht
    cases hkind
  members members nullable ht hs member hm hany := by
    obtain ⟨codec, -, hcodec⟩ := hp.union_of ht (h.eq_unionRef ht hs).2
    cases hcodec.member member hm with
    | _ ht' => cases hany.symm.trans ht'

section Starts

variable {starts : List TypeId}
  (hstarts : ∀ id ∈ starts, ∃ rule, RuleOf graph plan.Records id rule)
include hstarts

/-- Every reached type has a rule. -/
theorem exists_rule_of_reaches {id : TypeId} (h : graph.Reaches starts id) :
    ∃ rule, RuleOf graph plan.Records id rule := by
  refine h.induct hstarts fun id next hid hr => ?_
  obtain ⟨rule, hrule⟩ := hid
  exact exists_rule_of_refers hp hrule (fun hk => hk) hr

/-- Every reached class has a converter. -/
theorem exists_class_of_reaches {id : TypeId} {shape : ClassType} (h : graph.Reaches starts id)
    (ht : graph.get? id = some (.classType shape)) :
    ∃ converter, plan.classes.get? id = some converter := by
  obtain ⟨rule, hrule⟩ := exists_rule_of_reaches hp hstarts h
  obtain ⟨fields, hc, -⟩ := hp.class_of ht (hrule.eq_classRef ht).2
  exact ⟨_, hc⟩

/-- Every reached enum has the converter of its declaration. -/
theorem enum_of_reaches {id : TypeId} {shape : EnumType} (h : graph.Reaches starts id)
    (ht : graph.get? id = some (.enumType shape)) :
    plan.enums.get? id = some ⟨id, shape.name, shape.cases⟩ := by
  obtain ⟨rule, hrule⟩ := exists_rule_of_reaches hp hstarts h
  exact hp.enum_of ht (hrule.inv ht).2

/-- Every reached union of several members has a codec. -/
theorem exists_union_of_reaches {id : TypeId} {members : OrderedSet TypeId} {nullable : Bool}
    (h : graph.Reaches starts id) (ht : graph.get? id = some (.union members))
    (hs : graph.unionShape members = .multi nullable) :
    ∃ codec, plan.unions.get? id = some codec := by
  obtain ⟨rule, hrule⟩ := exists_rule_of_reaches hp hstarts h
  obtain ⟨codec, hu, -⟩ := hp.union_of ht (hrule.eq_unionRef ht hs).2
  exact ⟨codec, hu⟩

section Reached

variable (hreached : ∀ id, plan.Records id → graph.Reaches starts id)
include hreached

/-- The planned classes are the reachable ones, each with its converter. -/
theorem classes_iff {id : TypeId} {converter : ClassConverter} :
    plan.classes.get? id = some converter
      ↔ graph.Reaches starts id ∧ ClassOf graph (fun _ => True) id converter := by
  constructor
  · intro hc
    exact ⟨hreached id (Or.inl (OrderedMap.mem_keys_iff.mpr ⟨_, hc⟩)),
      (hp.classes id converter hc).mono fun _ _ => trivial⟩
  · rintro ⟨hid, hconverter⟩
    obtain ⟨found, hc⟩ : ∃ found, plan.classes.get? id = some found := by
      obtain ⟨ht, -⟩ := hconverter
      exact exists_class_of_reaches hp hstarts hid ht
    rw [hc, (hp.classes id found hc).unique hconverter]

/-- The planned enums are the reachable ones, each with its converter. -/
theorem enums_iff {id : TypeId} {converter : EnumConverter} :
    plan.enums.get? id = some converter
      ↔ graph.Reaches starts id ∧ EnumOf graph id converter := by
  constructor
  · intro he
    exact ⟨hreached id (Or.inr (Or.inl (OrderedMap.mem_keys_iff.mpr ⟨_, he⟩))),
      hp.enums id converter he⟩
  · rintro ⟨hid, ⟨ht⟩⟩
    exact enum_of_reaches hp hstarts hid ht

/-- The planned unions are the reachable ones, each with its codec. -/
theorem unions_iff {id : TypeId} {codec : UnionCodec} :
    plan.unions.get? id = some codec
      ↔ graph.Reaches starts id ∧ UnionOf graph (fun _ => True) id codec := by
  constructor
  · intro hu
    exact ⟨hreached id (Or.inr (Or.inr (OrderedMap.mem_keys_iff.mpr ⟨_, hu⟩))),
      (hp.unions id codec hu).mono fun _ _ => trivial⟩
  · rintro ⟨hid, hcodec⟩
    obtain ⟨found, hu⟩ : ∃ found, plan.unions.get? id = some found := by
      obtain ⟨ht, hs, -⟩ := hcodec
      exact exists_union_of_reaches hp hstarts hid ht hs
    rw [hu, (hp.unions id found hu).unique hcodec]

/-- A faithful plan that has rules for its starts and records nothing but what
they reach mirrors the graph. -/
theorem mirrors_of_faithful : plan.Mirrors graph starts where
  classKeys id := by
    rw [OrderedMap.mem_keys_iff]
    constructor
    · rintro ⟨converter, hc⟩
      obtain ⟨hid, ht, -⟩ := (classes_iff hp hstarts hreached).mp hc
      exact ⟨hid, _, ht⟩
    · rintro ⟨hid, shape, ht⟩
      exact exists_class_of_reaches hp hstarts hid ht
  enumKeys id := by
    rw [OrderedMap.mem_keys_iff]
    constructor
    · rintro ⟨converter, he⟩
      obtain ⟨hid, ⟨ht⟩⟩ := (enums_iff hp hstarts hreached).mp he
      exact ⟨hid, _, ht⟩
    · rintro ⟨hid, shape, ht⟩
      exact ⟨_, enum_of_reaches hp hstarts hid ht⟩
  unionKeys id := by
    rw [OrderedMap.mem_keys_iff]
    constructor
    · rintro ⟨codec, hu⟩
      obtain ⟨hid, ht, hs, -⟩ := (unions_iff hp hstarts hreached).mp hu
      exact ⟨hid, _, _, ht, hs⟩
    · rintro ⟨hid, members, nullable, ht, hs⟩
      exact exists_union_of_reaches hp hstarts hid ht hs
  once := ⟨plan.classes.nodup, plan.enums.nodup, plan.unions.nodup⟩
  classes _ _ := classes_iff hp hstarts hreached
  enums _ _ := enums_iff hp hstarts hreached
  unions _ _ := unions_iff hp hstarts hreached
  closed := closed_of_faithful hp

end Reached

end Starts

end Faithful

section Builders

open Plan (Plannable)

variable {graph : TypeGraph} {plan : Converters}

/-- Building succeeds when the entries are classes, no cycle is refused and the
walk ends. -/
theorem build_eq_ok {entries : List TypeId} {routing : UnionRouting} :
    build graph entries routing = .ok plan
      ↔ (∀ entry ∈ entries, ∃ shape, graph.get? entry = some (.classType shape))
        ∧ graph.checkCycles entries = .ok ()
        ∧ ∃ state, Plan.planEntries graph routing entries State.start = .ok state
          ∧ { state.converters with entries } = plan := by
  have hclass : ∀ id, (graph.class? id).isNone = false
      ↔ ∃ shape, graph.get? id = some (.classType shape) := by
    intro id
    unfold TypeGraph.class?
    split
    · rename_i shape ht
      exact ⟨fun _ => ⟨shape, ht⟩, fun _ => rfl⟩
    · rename_i hother
      constructor
      · intro h
        cases h
      · rintro ⟨shape, ht⟩
        exact absurd ht (hother shape)
  unfold build
  cases hf : entries.find? fun entry => (graph.class? entry).isNone with
  | some entry =>
    constructor
    · intro h
      cases h
    · rintro ⟨hentries, -⟩
      have hnone := List.find?_some hf
      rw [(hclass entry).mpr (hentries entry (List.mem_of_find?_eq_some hf))] at hnone
      cases hnone
  | none =>
    have hentries : ∀ entry ∈ entries, ∃ shape, graph.get? entry = some (.classType shape) := by
      intro entry hm
      exact (hclass entry).mp (Bool.eq_false_iff.mpr (List.find?_eq_none.mp hf entry hm))
    dsimp only
    constructor
    · intro h
      obtain ⟨⟨⟩, hcycles, h⟩ := bind_eq_ok.mp h
      obtain ⟨state, hstate, h⟩ := bind_eq_ok.mp h
      cases h
      exact ⟨hentries, hcycles, state, hstate, rfl⟩
    · rintro ⟨-, hcycles, state, hstate, rfl⟩
      exact bind_eq_ok.mpr ⟨(), hcycles, bind_eq_ok.mpr ⟨state, hstate, rfl⟩⟩

/-- Building the codec of a union succeeds when the walk from it ends with a
reference to a codec. -/
theorem buildUnion_eq_ok {union : TypeId} :
    buildUnion graph union = .ok plan
      ↔ (∃ members, graph.get? union = some (.union members))
        ∧ ∃ id state, Plan.planType graph .codec none union State.start = .ok (.unionRef id, state)
          ∧ state.converters = plan := by
  unfold buildUnion
  rw [bind_eq_ok]
  constructor
  · rintro ⟨⟨rule, state⟩, hwalk, h⟩
    dsimp only at h
    split at h
    · rename_i members id ht
      cases h
      exact ⟨⟨members, ht⟩, id, state, hwalk, rfl⟩
    · cases h
  · rintro ⟨⟨members, ht⟩, id, state, hwalk, rfl⟩
    refine ⟨(.unionRef id, state), hwalk, ?_⟩
    dsimp only
    rw [ht]
    rfl

/-- What types of the graph reach is plannable if it is supported and ends. -/
theorem plannable_of_reaches {starts : List TypeId}
    (hstarts : ∀ id ∈ starts, ∃ type, graph.get? id = some type)
    (hsupported : ∀ id, graph.Reaches starts id → graph.Supported id)
    (hends : ∀ id, graph.Reaches starts id → graph.Ends id) :
    Plannable graph (graph.Reaches starts) where
  type _ h := h.induct hstarts fun _ _ _ hr => hr.exists_type
  refers _ _ h hr := h.refers hr
  supported := hsupported
  ends := hends

/-- Entries that are planned have rules in the plan. -/
theorem exists_rule_of_build {entries : List TypeId} {routing : UnionRouting}
    (h : build graph entries routing = .ok plan) :
    ∀ entry ∈ entries, ∃ rule, RuleOf graph plan.Records entry rule := by
  obtain ⟨-, -, state, hstate, rfl⟩ := build_eq_ok.mp h
  obtain ⟨-, hext, hrules⟩ := Plan.planEntries_sound hstate (Plan.sound_start graph)
  intro entry hm
  obtain ⟨rule, hrule⟩ := hrules entry hm
  exact ⟨rule, hrule.mono fun _ hk => hext.records_of_known hk⟩

/-- A built plan mirrors the graph from its entries. -/
theorem mirrors_of_build {entries : List TypeId} {routing : UnionRouting}
    (h : build graph entries routing = .ok plan) : plan.Mirrors graph entries := by
  refine mirrors_of_faithful (faithful_of_build h) (exists_rule_of_build h) ?_
  obtain ⟨-, -, state, hstate, rfl⟩ := build_eq_ok.mp h
  exact Plan.planEntries_confined (fun _ _ hid hr => hid.refers hr) hstate
    (fun _ hm => TypeGraph.reaches_of_mem hm) Plan.within_start

/-- The plan of a union has a rule for it and holds the converters of the graph. -/
theorem faithful_of_buildUnion {union : TypeId} (h : buildUnion graph union = .ok plan) :
    plan.Faithful graph ∧ ∃ id, RuleOf graph plan.Records union (.unionRef id) := by
  obtain ⟨-, id, state, hwalk, rfl⟩ := buildUnion_eq_ok.mp h
  obtain ⟨hs, hext, hrule⟩ :=
    Plan.planWithin_sound graph .codec _ hwalk (Plan.sound_start graph)
  exact ⟨hs.faithful hext, id, hrule.mono fun _ hk => hext.records_of_known hk⟩

/-- The plan of a union mirrors the graph from that union. -/
theorem mirrors_of_buildUnion {union : TypeId} (h : buildUnion graph union = .ok plan) :
    plan.Mirrors graph [union] := by
  obtain ⟨hp, id, hrule⟩ := faithful_of_buildUnion h
  refine mirrors_of_faithful hp (fun start hm => ?_) ?_
  · rw [List.mem_singleton.mp hm]
    exact ⟨_, hrule⟩
  · obtain ⟨-, _, state, hwalk, rfl⟩ := buildUnion_eq_ok.mp h
    exact Plan.planWithin_confined (fun _ _ hid hr => hid.refers hr) .codec _ hwalk
      (TypeGraph.reaches_of_mem (List.mem_singleton_self union)) Plan.within_start

/-- A union whose rule refers to a codec has several members. -/
theorem isTrueUnion_of_ruleOf {union id : TypeId} {members : OrderedSet TypeId}
    (ht : graph.get? union = some (.union members))
    (h : RuleOf graph plan.Records union (.unionRef id)) : graph.IsTrueUnion union := by
  cases hs : graph.unionShape members with
  | nullOnly => cases h.eq_null ht hs
  | single member =>
    have hother := (TypeGraph.member_of_unionShape ht (Or.inl hs)).2.2
    cases h.single_member ht hs with
    | single ht' => exact absurd ht' (hother _)
    | unionRef ht' => exact absurd ht' (hother _)
  | nullable member =>
    obtain ⟨inner, hrule, -⟩ := h.nullable_member ht hs
    cases hrule
  | multi nullable => exact ⟨members, nullable, ht, hs⟩

/-- Whether there is a plan for entries is decided by what they reach. -/
theorem exists_build_iff_ends {entries : List TypeId} :
    (∃ plan, build graph entries .codec = .ok plan)
      ↔ (∀ entry ∈ entries, ∃ shape, graph.get? entry = some (.classType shape))
        ∧ graph.checkCycles entries = .ok ()
        ∧ ∀ id, graph.Reaches entries id → graph.Supported id ∧ graph.Ends id := by
  constructor
  · rintro ⟨plan, h⟩
    obtain ⟨hentries, hcycles, -⟩ := build_eq_ok.mp h
    refine ⟨hentries, hcycles, fun id hid => ?_⟩
    have hfaithful := faithful_of_build h
    obtain ⟨rule, hrule⟩ := exists_rule_of_reaches hfaithful (exists_rule_of_build h) hid
    exact ⟨supported_of_ruleOf hfaithful hrule, ends_of_ruleOf hrule⟩
  · rintro ⟨hentries, hcycles, hreached⟩
    have htypes : ∀ id ∈ entries, ∃ type, graph.get? id = some type := by
      intro id hm
      obtain ⟨shape, ht⟩ := hentries id hm
      exact ⟨_, ht⟩
    have hplannable : Plannable graph (graph.Reaches entries) :=
      plannable_of_reaches htypes (fun id hid => (hreached id hid).1)
        fun id hid => (hreached id hid).2
    obtain ⟨state, hstate⟩ := Plan.planEntries_total hplannable
      (fun _ hm => TypeGraph.reaches_of_mem hm) (Plan.sound_start graph) rfl
    exact ⟨_, build_eq_ok.mpr ⟨hentries, hcycles, state, hstate, rfl⟩⟩

/-- On a grounded graph every type ends. -/
theorem exists_build_iff (hg : graph.Grounded) {entries : List TypeId} :
    (∃ plan, build graph entries .codec = .ok plan)
      ↔ (∀ entry ∈ entries, ∃ shape, graph.get? entry = some (.classType shape))
        ∧ graph.checkCycles entries = .ok ()
        ∧ ∀ id, graph.Reaches entries id → graph.Supported id := by
  rw [exists_build_iff_ends]
  simp only [hg.ends, and_true]

/-- Whether there is a plan for a union is decided by what it reaches. -/
theorem exists_buildUnion_iff (hg : graph.Grounded) {union : TypeId} :
    (∃ plan, buildUnion graph union = .ok plan)
      ↔ graph.IsTrueUnion union ∧ ∀ id, graph.Reaches [union] id → graph.Supported id := by
  constructor
  · rintro ⟨plan, h⟩
    obtain ⟨hp, id, hrule⟩ := faithful_of_buildUnion h
    obtain ⟨⟨members, ht⟩, -⟩ := buildUnion_eq_ok.mp h
    refine ⟨isTrueUnion_of_ruleOf ht hrule, fun other hother => ?_⟩
    have hstarts : ∀ start ∈ [union], ∃ rule, RuleOf graph plan.Records start rule := by
      intro start hm
      rw [List.mem_singleton.mp hm]
      exact ⟨_, hrule⟩
    obtain ⟨rule, hreached⟩ := exists_rule_of_reaches hp hstarts hother
    exact supported_of_ruleOf hp hreached
  · rintro ⟨⟨members, nullable, ht, hs⟩, hsupported⟩
    have htypes : ∀ id ∈ [union], ∃ type, graph.get? id = some type := by
      intro id hm
      rw [List.mem_singleton.mp hm]
      exact ⟨_, ht⟩
    obtain ⟨⟨rule, state⟩, hwalk⟩ :=
      Plan.planType_total (plannable_of_reaches htypes hsupported fun id _ => hg.ends id)
        (TypeGraph.reaches_of_mem (List.mem_singleton_self union)) (Plan.sound_start graph) rfl
    obtain ⟨-, -, hrule⟩ := Plan.planWithin_sound graph .codec _ hwalk (Plan.sound_start graph)
    obtain ⟨rfl, -⟩ := hrule.eq_unionRef ht hs
    exact ⟨_, buildUnion_eq_ok.mpr ⟨⟨members, ht⟩, union, state, hwalk, rfl⟩⟩

/-- A plan is that of entry classes, or that of a union. -/
inductive PlannedFrom (graph : TypeGraph) : List TypeId → Converters → Prop where
  /-- Of entry classes. -/
  | entries {entries : List TypeId} {plan : Converters}
      (h : build graph entries .codec = .ok plan) : PlannedFrom graph entries plan
  /-- Of a union. -/
  | union {union : TypeId} {plan : Converters} (h : buildUnion graph union = .ok plan) :
      PlannedFrom graph [union] plan

/-- A plan mirrors the part of the graph that it was made from. -/
theorem PlannedFrom.mirrors {starts : List TypeId} (h : PlannedFrom graph starts plan) :
    plan.Mirrors graph starts := by
  cases h with
  | entries h => exact mirrors_of_build h
  | union h => exact mirrors_of_buildUnion h

end Builders

/-- On a grounded graph the planner decides which starts have plans by what
they reach, its plans mirror the graph, and no two of them disagree. -/
theorem plans_mirror {graph : TypeGraph} (hg : graph.Grounded) :
    (∀ entries, (∃ plan, build graph entries .codec = .ok plan)
      ↔ (∀ entry ∈ entries, ∃ shape, graph.get? entry = some (.classType shape))
        ∧ graph.checkCycles entries = .ok ()
        ∧ ∀ id, graph.Reaches entries id → graph.Supported id)
    ∧ (∀ union, (∃ plan, buildUnion graph union = .ok plan)
      ↔ graph.IsTrueUnion union ∧ ∀ id, graph.Reaches [union] id → graph.Supported id)
    ∧ (∀ starts plan, PlannedFrom graph starts plan → plan.Mirrors graph starts)
    ∧ ∀ starts starts' plan plan', PlannedFrom graph starts plan →
      PlannedFrom graph starts' plan' → plan.AgreesWith plan' :=
  ⟨fun _ => exists_build_iff hg, fun _ => exists_buildUnion_iff hg, fun _ _ h => h.mirrors,
    fun _ _ _ _ h h' => h.mirrors.agreesWith h'.mirrors⟩

/-- A tree has a content, which is a text or a tree, and further trees. -/
def treeGraph : TypeGraph where
  types := [
    .classType ⟨"Tree", ⟨[("content", ⟨⟨2⟩, false⟩), ("further", ⟨⟨3⟩, false⟩)], by decide⟩⟩,
    .string,
    .union ⟨[⟨1⟩, ⟨0⟩], by decide⟩,
    .array ⟨0⟩]
  topLevels := OrderedMap.empty
  sound := by decide

/-- The plan for trees. -/
def treePlan : Converters where
  entries := [⟨0⟩, ⟨0⟩]
  classes := ⟨[(⟨0⟩, ⟨⟨0⟩, "Tree", [⟨"content", false, .unionRef ⟨2⟩⟩,
    ⟨"further", false, .array (.classRef ⟨0⟩)⟩]⟩)], by decide⟩
  enums := OrderedMap.empty
  unions := ⟨[(⟨2⟩, { UnionCodec.blank ⟨2⟩ with
    string := some .plain, classMember := some ⟨0⟩ })], by decide⟩

theorem treeGraph_grounded : treeGraph.Grounded := by
  refine TypeGraph.grounded_of_lt fun id next hinside => ?_
  obtain ⟨hr, hclass, hunion⟩ := hinside
  have hid : id ∈ [(⟨0⟩ : TypeId), ⟨1⟩, ⟨2⟩, ⟨3⟩] := hr.mem_ids
  simp only [List.mem_cons, List.not_mem_nil, or_false] at hid
  rcases hid with rfl | rfl | rfl | rfl
  · cases hclass
  · cases hr with
    | _ h => cases h
  · exact absurd ⟨_, false, rfl, rfl⟩ hunion
  · cases hr with
    | items h =>
      cases h
      decide
    | _ h => cases h

/-- Trees are planned once, although they are given twice and contain trees in
two ways. The plan of what they contain agrees with theirs, and an array has
none. -/
theorem plans_mirror_tree :
    treeGraph.Grounded
      ∧ build treeGraph [⟨0⟩, ⟨0⟩] .codec = .ok treePlan
      ∧ treePlan.Mirrors treeGraph [⟨0⟩, ⟨0⟩]
      ∧ (∃ plan, buildUnion treeGraph ⟨2⟩ = .ok plan ∧ plan.AgreesWith treePlan)
      ∧ ¬∃ plan, buildUnion treeGraph ⟨3⟩ = .ok plan := by
  have hbuild : build treeGraph [⟨0⟩, ⟨0⟩] .codec = .ok treePlan := rfl
  obtain ⟨hentries, hunions, hmirrors, hagree⟩ := plans_mirror treeGraph_grounded
  have hmirror : treePlan.Mirrors treeGraph [⟨0⟩, ⟨0⟩] := hmirrors _ _ (.entries hbuild)
  have hsupported := ((hentries [⟨0⟩, ⟨0⟩]).mp ⟨treePlan, hbuild⟩).2.2
  have hreached : ∀ id, treeGraph.Reaches [⟨2⟩] id → treeGraph.Reaches [⟨0⟩, ⟨0⟩] id := by
    intro id h
    refine h.induct (fun start hm => ?_) fun _ _ hid hr => hid.refers hr
    rw [List.mem_singleton.mp hm]
    exact ((hmirror.unionKeys ⟨2⟩).mp (by decide)).1
  obtain ⟨plan, hplan⟩ := (hunions ⟨2⟩).mpr
    ⟨⟨_, false, rfl, rfl⟩, fun id hid => hsupported id (hreached id hid)⟩
  refine ⟨treeGraph_grounded, hbuild, hmirror, ⟨plan, hplan, ?_⟩, ?_⟩
  · exact hagree _ _ _ _ (.union hplan) (.entries hbuild)
  · intro harray
    obtain ⟨⟨members, nullable, ht, -⟩, -⟩ := (hunions ⟨3⟩).mp harray
    cases ht

/-- A host may have an address, a string whose interpretation is not known. -/
def hostGraph : TypeGraph where
  types := [
    .transformed (.other "ipv6"),
    .classType ⟨"Host", ⟨[("address", ⟨⟨0⟩, true⟩)], by decide⟩⟩]
  topLevels := OrderedMap.empty
  sound := by decide

/-- An entry has a value, which is an integer or anything. -/
def entryGraph : TypeGraph where
  types := [
    .any,
    .integer,
    .union ⟨[⟨1⟩, ⟨0⟩], by decide⟩,
    .classType ⟨"Entry", ⟨[("value", ⟨⟨2⟩, false⟩)], by decide⟩⟩]
  topLevels := OrderedMap.empty
  sound := by decide

theorem hostGraph_grounded : hostGraph.Grounded := by
  refine TypeGraph.grounded_of_lt fun id next hinside => ?_
  obtain ⟨hr, hclass, -⟩ := hinside
  have hid : id ∈ [(⟨0⟩ : TypeId), ⟨1⟩] := hr.mem_ids
  simp only [List.mem_cons, List.not_mem_nil, or_false] at hid
  rcases hid with rfl | rfl
  · cases hr with
    | _ h => cases h
  · cases hclass

theorem entryGraph_grounded : entryGraph.Grounded := by
  refine TypeGraph.grounded_of_lt fun id next hinside => ?_
  obtain ⟨hr, hclass, hunion⟩ := hinside
  have hid : id ∈ [(⟨0⟩ : TypeId), ⟨1⟩, ⟨2⟩, ⟨3⟩] := hr.mem_ids
  simp only [List.mem_cons, List.not_mem_nil, or_false] at hid
  rcases hid with rfl | rfl | rfl | rfl
  · cases hr with
    | _ h => cases h
  · cases hr with
    | _ h => cases h
  · exact absurd ⟨_, false, rfl, rfl⟩ hunion
  · cases hclass

/-- Classes without a refused cycle do not suffice for a plan: the graph of
hosts has a string that no converter reads, and that of entries a union whose
members no token tells apart. -/
theorem not_planned_of_classes :
    (hostGraph.Grounded
      ∧ (∀ entry ∈ [(⟨1⟩ : TypeId)], ∃ shape, hostGraph.get? entry = some (.classType shape))
      ∧ hostGraph.checkCycles [⟨1⟩] = .ok ()
      ∧ build hostGraph [⟨1⟩] .codec = .error (.unsupportedStringKind "ipv6"))
    ∧ entryGraph.Grounded
      ∧ (∀ entry ∈ [(⟨3⟩ : TypeId)], ∃ shape, entryGraph.get? entry = some (.classType shape))
      ∧ entryGraph.checkCycles [⟨3⟩] = .ok ()
      ∧ build entryGraph [⟨3⟩] .codec = .error (.unsupportedUnionMember .any) := by
  refine ⟨⟨hostGraph_grounded, fun entry hm => ?_, rfl, rfl⟩,
    entryGraph_grounded, fun entry hm => ?_, rfl, rfl⟩
  · rw [List.mem_singleton.mp hm]
    exact ⟨_, rfl⟩
  · rw [List.mem_singleton.mp hm]
    exact ⟨_, rfl⟩

end Converters

end Hydration
