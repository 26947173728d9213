import Hydration.Proofs.Json.Keys
import Hydration.Proofs.Plan.Cycles
import Hydration.Proofs.Typed.Conformance

/-!
# Classes that have an instance

Which classes of a plan have a document at all. Every instance of a class
contains instances of the classes that its required fields are of. The search
for cycles follows these fields where the type is a class or a union of one class
alone. A union of exactly a class and maps has the same effect: every object goes
to the class, the maps are never chosen, and the search does not follow it. A class
has a document exactly when it reaches no cycle through such a union.
-/

namespace Hydration

open Plan (RuleOf FieldOf CodecOf HasMember)

namespace TypeGraph

variable (graph : TypeGraph)

/-- A type is a union of a class and maps, with no other members. -/
inductive IsClassOrMap : TypeId → TypeId → Prop where
  /-- The class among the members. -/
  | intro {id member : TypeId} {members : OrderedSet TypeId} {nullable : Bool} {shape : ClassType}
      (h : graph.get? id = some (.union members))
      (hs : graph.unionShape members = .multi nullable)
      (hall : ∀ other ∈ members.toList,
        graph.kind? other = some .classKind ∨ graph.kind? other = some .map)
      (hm : member ∈ members.toList) (hc : graph.get? member = some (.classType shape)) :
      IsClassOrMap id member

/-- A required field of a class is of a union of a class and maps. -/
abbrev HiddenEdge : TypeId → TypeId → Prop := graph.Demands graph.IsClassOrMap

/-- Every enum has at least one case. -/
def EnumsHaveCases : Prop :=
  ∀ id shape, graph.get? id = some (.enumType shape) → shape.cases.toList ≠ []

/-- Every instance of a class contains one of another class. -/
def Contains (id next : TypeId) : Prop := graph.HardEdge id next ∨ graph.HiddenEdge id next

variable {graph}

/-- An instance of a class is an object. -/
theorem Conforms.eq_object {id : TypeId} {shape : ClassType} {value : Json}
    (h : graph.Conforms id value) (hc : graph.get? id = some (.classType shape)) :
    ∃ members, value = .object members := by
  cases h with
  | object => exact ⟨_, rfl⟩
  | _ h => cases hc.symm.trans h

/-- A value of a type that is a class is one of the class. -/
theorem Conforms.of_isClass {type target : TypeId} {value : Json}
    (h : graph.Conforms type value) (ht : graph.IsClass type target) :
    graph.Conforms target value := by
  cases ht with
  | refl => exact h
  | single hu hs =>
    cases h with
    | single hu' hs' hv =>
      cases hu.symm.trans hu'
      cases hs.symm.trans hs'
      exact hv
    | _ => simp_all

/-- Members of a union of one kind are the same. -/
theorem eq_of_kind?_eq {id a b : TypeId} {members : OrderedSet TypeId}
    (h : graph.get? id = some (.union members)) (ha : a ∈ members.toList)
    (hb : b ∈ members.toList) (hk : graph.kind? a = graph.kind? b) : a = b := by
  by_contra hne
  have hsymm : Std.Symm fun a b => graph.kind? a ≠ graph.kind? b := ⟨fun _ _ h => h.symm⟩
  exact (members_of_union h).2.forall ha hb hne hk

/-- A value of a union of a class and maps is one of the class. -/
theorem Conforms.of_isClassOrMap {type target : TypeId} {value : Json}
    (h : graph.Conforms type value) (ht : graph.IsClassOrMap type target) :
    graph.Conforms target value := by
  obtain ⟨hu, hs, hall, hm, hc⟩ := ht
  have hkinds : ∀ {other : TypeId} {kind : TypeKind} {ids : OrderedSet TypeId},
      graph.get? type = some (.union ids) → other ∈ ids.toList → graph.kind? other = some kind →
      kind = .classKind ∨ kind = .map := by
    intro other kind ids hids hother hkind
    cases hu.symm.trans hids
    exact (hall other hother).imp (fun h => Option.some.inj (hkind.symm.trans h))
      fun h => Option.some.inj (hkind.symm.trans h)
  cases h with
  | unionObject hu' _ hm' hk hv =>
    cases hu.symm.trans hu'
    exact eq_of_kind?_eq hu hm' hm (hk.trans (kind?_of_get? hc).symm) ▸ hv
  | unionMap hu' _ _ hother =>
    cases hu.symm.trans hu'
    exact absurd (kind?_of_get? hc) (hother _ hm)
  | unionNull hu' _ hm' ht | unionBool hu' _ hm' ht | unionInteger hu' _ hm' ht
  | unionDouble hu' _ hm' ht | unionEnum hu' _ hm' ht =>
    rcases hkinds hu' hm' (kind?_of_get? ht) with hkind | hkind <;> cases hkind
  | unionString hu' _ hm' _ hk | unionArray hu' _ hm' hk =>
    rcases hkinds hu' hm' hk with hkind | hkind <;> cases hkind
  | _ => simp_all

/-- An instance of a class has a smaller value that is an instance of each class
that it contains. -/
theorem Contains.exists_part {id next : TypeId} (h : graph.Contains id next) {value : Json}
    (hv : graph.Conforms id value) : ∃ part ∈ value.parts, graph.Conforms next part := by
  have hfield : ∀ {type : TypeId → TypeId → Prop}, graph.Demands type id next →
      (∀ {found : TypeId} {part : Json}, type found next → graph.Conforms found part →
        graph.Conforms next part) → ∃ part ∈ value.parts, graph.Conforms next part := by
    rintro type ⟨hc, he, ho, ht⟩ htarget
    rename_i shape entry
    obtain ⟨members, rfl⟩ := hv.eq_object hc
    cases hv with
    | object hc' hmissing hfields =>
      cases hc.symm.trans hc'
      cases hg : Entries.get? entry.1 members with
      | none => cases ho.symm.trans (hmissing entry he hg)
      | some part =>
        have hconforms := hfields entry he part hg fun hnull => by cases ho.symm.trans hnull.2
        exact ⟨part, List.mem_map_of_mem (Entries.mem_of_get? hg), htarget ht hconforms⟩
    | _ hc' => cases hc.symm.trans hc'
  rcases h with h | h
  · exact hfield h fun ht hp => hp.of_isClass ht
  · exact hfield h fun ht hp => hp.of_isClassOrMap ht

/-- Along such fields the values get smaller. -/
theorem exists_smaller {id next : TypeId} (h : Relation.TransGen graph.Contains id next)
    {value : Json} (hv : graph.Conforms id value) :
    ∃ part, sizeOf part < sizeOf value ∧ graph.Conforms next part := by
  induction h with
  | single h =>
    obtain ⟨part, hp, hconforms⟩ := h.exists_part hv
    exact ⟨part, Json.sizeOf_lt_of_mem_parts hp, hconforms⟩
  | tail _ h ih =>
    obtain ⟨inner, hlt, hinner⟩ := ih
    obtain ⟨part, hp, hconforms⟩ := h.exists_part hinner
    exact ⟨part, (Json.sizeOf_lt_of_mem_parts hp).trans hlt, hconforms⟩

/-- A class that contains itself has no instance. -/
theorem not_conforms_of_cycle {id : TypeId} (h : Relation.TransGen graph.Contains id id)
    (value : Json) : ¬graph.Conforms id value := by
  intro hv
  obtain ⟨part, hlt, hpart⟩ := exists_smaller h hv
  exact not_conforms_of_cycle h part hpart
termination_by sizeOf value

/-- A class that reaches one that contains itself has no instance. -/
theorem not_conforms_of_reaches {id other : TypeId}
    (hreach : Relation.ReflTransGen graph.Contains id other)
    (hcycle : Relation.TransGen graph.Contains other other) (value : Json) :
    ¬graph.Conforms id value := by
  intro hv
  rcases Relation.reflTransGen_iff_eq_or_transGen.mp hreach with rfl | hpath
  · exact not_conforms_of_cycle hcycle value hv
  · obtain ⟨part, -, hpart⟩ := exists_smaller hpath hv
    exact not_conforms_of_cycle hcycle part hpart

/-- What contains another class is a class, so a type of the graph. -/
theorem Contains.mem_ids {id next : TypeId} (h : graph.Contains id next) : id ∈ graph.ids := by
  rcases h with ⟨hc, -⟩ | ⟨hc, -⟩
  · exact mem_ids_of_get? hc
  · exact mem_ids_of_get? hc

/-- What is contained is a class. -/
theorem Contains.exists_class {id next : TypeId} (h : graph.Contains id next) :
    ∃ shape, graph.get? next = some (.classType shape) := by
  rcases h with h | ⟨-, -, -, ht⟩
  · exact h.exists_class
  · obtain ⟨-, -, -, -, hc⟩ := ht
    exact ⟨_, hc⟩

/-- On a path of classes none of which contains itself, no class comes twice, so what
is left of the number of types bounds how it goes on. -/
theorem acc_of_path {steps : Nat} {path : List TypeId} {id : TypeId} (hn : path.Nodup)
    (hp : ∀ other ∈ path, other ∈ graph.ids ∧ Relation.TransGen graph.Contains other id)
    (hlength : path.length + steps = graph.size + 1)
    (hcycle : ∀ other, Relation.ReflTransGen graph.Contains id other →
      ¬Relation.TransGen graph.Contains other other) :
    Acc (fun next id => graph.Contains id next) id := by
  induction steps generalizing path id with
  | zero =>
    have hle := length_le_size hn fun other hm => (hp other hm).1
    omega
  | succ steps ih =>
    refine .intro _ fun next hnext => ?_
    have hfresh : id ∉ path := fun hm => hcycle id .refl (hp id hm).2
    have hpath : ∀ other ∈ id :: path,
        other ∈ graph.ids ∧ Relation.TransGen graph.Contains other next := by
      intro other hm
      rcases List.mem_cons.mp hm with rfl | hm
      · exact ⟨hnext.mem_ids, .single hnext⟩
      · exact ⟨(hp other hm).1, (hp other hm).2.tail hnext⟩
    refine ih (List.nodup_cons.mpr ⟨hfresh, hn⟩) hpath ?_
      fun other hreach => hcycle other (.head hnext hreach)
    rw [List.length_cons]
    omega

/-- If a class reaches none that contains itself, then what it contains cannot be
followed without end. -/
theorem acc_of_no_cycle {id : TypeId}
    (hcycle : ∀ other, Relation.ReflTransGen graph.Contains id other →
      ¬Relation.TransGen graph.Contains other other) :
    Acc (fun next id => graph.Contains id next) id :=
  acc_of_path List.nodup_nil (by simp) (Nat.zero_add _) hcycle

/-- A path of two kinds of edges is one of the first kind alone, or it passes
through an edge of the second. -/
theorem hard_or_hidden {id next : TypeId} (h : Relation.TransGen graph.Contains id next) :
    Relation.TransGen graph.HardEdge id next ∨ ∃ a b,
      Relation.ReflTransGen graph.Contains id a ∧ graph.HiddenEdge a b
        ∧ Relation.ReflTransGen graph.Contains b next := by
  induction h with
  | single h =>
    rcases h with h | h
    · exact Or.inl (.single h)
    · exact Or.inr ⟨_, _, .refl, h, .refl⟩
  | @tail middle last hpath h ih =>
    rcases ih with hhard | ⟨a, b, ha, hab, hb⟩
    · rcases h with hedge | hedge
      · exact Or.inl (hhard.tail hedge)
      · exact Or.inr ⟨_, _, hpath.to_reflTransGen, hedge, .refl⟩
    · exact Or.inr ⟨a, b, ha, hab, hb.tail h⟩

/-- A text of an interpretation. -/
theorem exists_parsed (kind : TransformKind) :
    ∃ text parsed, kind.parse text = .ok parsed := by
  cases kind with
  | dateTime => exact ⟨"2000-01-01T00:00:00Z", _, rfl⟩
  | date => exact ⟨"2000-01-01", _, rfl⟩
  | time => exact ⟨"00:00:00", _, rfl⟩
  | uuid => exact ⟨"00000000-0000-0000-0000-000000000000", _, rfl⟩
  | uri => exact ⟨"a:b", _, rfl⟩
  | integerString => exact ⟨"0", _, rfl⟩
  | boolString => exact ⟨"true", _, rfl⟩

/-- There is a well-keyed value of a type. -/
def HasValue (graph : TypeGraph) (id : TypeId) : Prop :=
  ∃ value : Json, value.WellKeyed ∧ graph.Conforms id value

/-- A value without parts is well keyed. -/
theorem hasValue_of_conforms {id : TypeId} {value : Json} (hv : graph.Conforms id value)
    (hparts : value.parts = []) : graph.HasValue id :=
  ⟨value, Json.wellKeyed_of_parts_eq_nil hparts, hv⟩

/-- A union of several members has two that are of distinct kinds. -/
theorem exists_two_of_multi {id : TypeId} {members : OrderedSet TypeId} {nullable : Bool}
    (h : graph.get? id = some (.union members))
    (hs : graph.unionShape members = .multi nullable) :
    ∃ a ∈ members.toList, ∃ b ∈ members.toList, graph.kind? a ≠ graph.kind? b := by
  have hapart := (members_of_union h).2.filter fun member => !graph.isNullType member
  unfold unionShape at hs
  dsimp only at hs
  split at hs
  · cases hs
  · split at hs <;> cases hs
  · rename_i hnil hone
    cases hlist : members.toList.filter fun member => !graph.isNullType member with
    | nil => exact absurd hlist hnil
    | cons a rest =>
      cases rest with
      | nil => exact absurd hlist (hone a)
      | cons b rest =>
        have hmem : ∀ member ∈ a :: b :: rest, member ∈ members.toList := fun member hm =>
          List.mem_of_mem_filter (hlist ▸ hm)
        rw [hlist] at hapart
        exact ⟨a, hmem a (by simp), b, hmem b (by simp),
          (List.pairwise_cons.mp hapart).1 b (by simp)⟩

/-- A union whose members are classes and maps has exactly one class. -/
theorem exists_isClassOrMap {id : TypeId} {members : OrderedSet TypeId} {nullable : Bool}
    (h : graph.get? id = some (.union members))
    (hs : graph.unionShape members = .multi nullable)
    (hall : ∀ other ∈ members.toList,
      graph.kind? other = some .classKind ∨ graph.kind? other = some .map) :
    ∃ member ∈ members.toList, graph.IsClassOrMap id member := by
  obtain ⟨a, ha, b, hb, hne⟩ := exists_two_of_multi h hs
  obtain ⟨member, hm, hk⟩ : ∃ member ∈ members.toList, graph.kind? member = some .classKind := by
    rcases hall a ha with hk | hk
    · exact ⟨a, ha, hk⟩
    · rcases hall b hb with hk' | hk'
      · exact ⟨b, hb, hk'⟩
      · exact absurd (hk.trans hk'.symm) hne
  obtain ⟨shape, hc⟩ := get?_of_kind?_class hk
  exact ⟨member, hm, .intro h hs hall hm hc⟩

/-- A text of the string member of a union is one of the union, be it a case of
the enum member. -/
theorem conforms_text {id member : TypeId} {members : OrderedSet TypeId} {nullable : Bool}
    (h : graph.get? id = some (.union members))
    (hs : graph.unionShape members = .multi nullable) (hm : member ∈ members.toList)
    (hk : graph.kind? member = some .string) {text : String}
    (hv : graph.Conforms member (.string text)) : graph.Conforms id (.string text) := by
  by_cases hcase : ∃ other ∈ members.toList, ∃ shape,
      graph.get? other = some (.enumType shape) ∧ shape.cases.contains text = true
  · obtain ⟨other, ho, shape, ht, hc⟩ := hcase
    exact .unionEnum h hs ho ht hc
  · refine .unionString h hs hm (fun other ho shape ht => ?_) hk hv
    rw [Bool.eq_false_iff]
    exact fun hc => hcase ⟨other, ho, shape, ht, hc⟩

/-- A member that is neither a class nor a map gives its union a value: its token
goes to this member or to one before it. -/
theorem hasValue_of_member {known : TypeId → Prop} {codec : UnionCodec}
    (henums : graph.EnumsHaveCases) {id member : TypeId} {members : OrderedSet TypeId} {nullable : Bool}
    (h : graph.get? id = some (.union members))
    (hs : graph.unionShape members = .multi nullable) (hm : member ∈ members.toList)
    (hmember : HasMember graph known codec member)
    (hclass : graph.kind? member ≠ some .classKind) (hmap : graph.kind? member ≠ some .map) :
    graph.HasValue id := by
  cases hmember with
  | null ht => exact hasValue_of_conforms (.unionNull h hs hm ht) rfl
  | bool ht => exact hasValue_of_conforms (.unionBool h hs hm ht true) rfl
  | integer ht =>
    exact hasValue_of_conforms (.unionInteger h hs hm ht (Json.Number.toInt64?_ofInt64 0)) rfl
  | double ht =>
    exact hasValue_of_conforms (.unionDouble (n := .double 0) h hs hm ht fun _ _ _ => rfl) rfl
  | string ht =>
    exact hasValue_of_conforms (conforms_text h hs hm (kind?_of_get? ht) (.string ht "")) rfl
  | @transformed kind ht =>
    obtain ⟨text, parsed, hp⟩ := exists_parsed kind
    exact hasValue_of_conforms (conforms_text h hs hm (kind?_of_get? ht) (.transformed ht hp)) rfl
  | array ht =>
    exact hasValue_of_conforms (.unionArray h hs hm (kind?_of_get? ht) (.array ht (by simp))) rfl
  | map ht => exact absurd (kind?_of_get? ht) hmap
  | classMember ht => exact absurd (kind?_of_get? ht) hclass
  | @enumeration shape ht =>
    obtain ⟨tag, htag⟩ := List.exists_mem_of_ne_nil _ (henums member shape ht)
    exact hasValue_of_conforms (.unionEnum h hs hm ht (decide_eq_true htag)) rfl

/-- A class whose required fields have values has a value: an object of these. -/
theorem hasValue_of_fields {id : TypeId} {shape : ClassType}
    (h : graph.get? id = some (.classType shape))
    (hfields : ∀ entry ∈ shape.fields.entries, entry.2.optional = false →
      graph.HasValue entry.2.type) : graph.HasValue id := by
  have hvalues : ∀ entry ∈ shape.fields.entries.filter (fun entry => !entry.2.optional),
      ∃ member : String × Json, member.1 = entry.1 ∧ member.2.WellKeyed
        ∧ graph.Conforms entry.2.type member.2 := by
    intro entry hm
    obtain ⟨hm, ho⟩ := List.mem_filter.mp hm
    obtain ⟨value, hw, hv⟩ := hfields entry hm (by simpa using ho)
    exact ⟨(entry.1, value), rfl, hw, hv⟩
  obtain ⟨members, hmembers⟩ := exists_forall₂ hvalues
  have hnodup : (members.map Prod.fst).Nodup := by
    rw [← map_eq_of_forall₂ (f := Prod.fst) hmembers fun _ _ hm => hm.1.symm]
    exact (OrderedMap.nodup _).sublist (List.filter_sublist.map _)
  refine ⟨.object members, .intro hnodup fun part hp => ?_, .object h (fun entry hm hg => ?_)
    fun entry hm value hg hnull => ?_⟩
  · obtain ⟨member, hmem, rfl⟩ := List.mem_map.mp hp
    obtain ⟨-, -, -, hw, -⟩ := exists_of_forall₂_right hmembers hmem
    exact hw
  · by_contra ho
    have hkept : entry ∈ shape.fields.entries.filter fun entry => !entry.2.optional :=
      List.mem_filter.mpr ⟨hm, by simpa using ho⟩
    obtain ⟨member, hmem, hkey, -⟩ := exists_of_forall₂_left hmembers hkept
    refine Entries.get?_eq_none_iff.mp hg ?_
    exact hkey ▸ List.mem_map_of_mem hmem
  · obtain ⟨other, hother, hkey, -, hv⟩ :=
      exists_of_forall₂_right hmembers (Entries.mem_of_get? hg)
    have hsame : other = entry :=
      List.inj_on_of_nodup_map (OrderedMap.nodup _) (List.mem_of_mem_filter hother) hm hkey.symm
    exact hsame ▸ hv

end TypeGraph

namespace Converters

open TypeGraph (hasValue_of_conforms)

variable {graph : TypeGraph} {plan : Converters}

section Faithful

variable (hp : plan.Faithful graph)
include hp

/-- A planned type has a value if the class that it is, or that takes all objects
of it, has one. -/
theorem hasValue_of_rule (henums : graph.EnumsHaveCases) {type : TypeId} {rule : Rule}
    (hr : RuleOf graph plan.Records type rule)
    (hclass : ∀ target, graph.IsClass type target ∨ graph.IsClassOrMap type target →
      graph.HasValue target) : graph.HasValue type := by
  induction hr with
  | any h => exact hasValue_of_conforms (.any h .null) rfl
  | null h => exact hasValue_of_conforms (.null h) rfl
  | bool h => exact hasValue_of_conforms (.bool h true) rfl
  | integer h =>
    exact hasValue_of_conforms (.integer h (Json.Number.toInt64?_ofInt64 0)) rfl
  | double h => exact hasValue_of_conforms (.double h (.double 0)) rfl
  | string h => exact hasValue_of_conforms (.string h "") rfl
  | @transformed type kind h =>
    obtain ⟨text, parsed, hparse⟩ := TypeGraph.exists_parsed kind
    exact hasValue_of_conforms (.transformed h hparse) rfl
  | array h => exact hasValue_of_conforms (.array h (by simp)) rfl
  | @map id values rule h =>
    have hv : graph.Conforms id (.object []) := .map h (by simp)
    exact hasValue_of_conforms hv rfl
  | classRef h => exact hclass _ (Or.inl (.refl h))
  | @enumRef type shape h =>
    obtain ⟨tag, htag⟩ := List.exists_mem_of_ne_nil _ (henums _ shape h)
    exact hasValue_of_conforms (.enumCase h (decide_eq_true htag)) rfl
  | nullOnly h hs => exact hasValue_of_conforms (.nullOnly h hs) rfl
  | single h hs _ ih =>
    obtain ⟨-, -, hunion⟩ := TypeGraph.member_of_unionShape h (Or.inl hs)
    obtain ⟨value, hw, hv⟩ := ih fun target ht => by
      rcases ht with ht | ht
      · cases ht with
        | refl hc => exact hclass _ (Or.inl (.single h hs hc))
        | single hu => exact absurd hu (hunion _)
      · cases ht with
        | intro hu => exact absurd hu (hunion _)
    exact ⟨value, hw, .single h hs hv⟩
  | nullable h hs => exact hasValue_of_conforms (.absent h hs) rfl
  | @unionRef type members nullable h hs hk =>
    obtain ⟨codec, -, hcodec⟩ := hp.union_of h hk
    by_cases hall : ∀ other ∈ members.toList,
        graph.kind? other = some .classKind ∨ graph.kind? other = some .map
    · obtain ⟨member, hm, hother⟩ := TypeGraph.exists_isClassOrMap h hs hall
      obtain ⟨value, hw, hv⟩ := hclass member (Or.inr hother)
      obtain ⟨-, -, -, -, hc⟩ := hother
      obtain ⟨entries, rfl⟩ := hv.eq_object hc
      exact ⟨_, hw, .unionObject h hs hm (TypeGraph.kind?_of_get? hc) hv⟩
    · push Not at hall
      obtain ⟨member, hm, hnclass, hnmap⟩ := hall
      exact TypeGraph.hasValue_of_member henums h hs hm (hcodec.member member hm) hnclass hnmap

/-- The class that a planned type is, or that takes all objects of it, is planned. -/
theorem records_of_target {type target : TypeId} {rule : Rule}
    (hr : RuleOf graph plan.Records type rule)
    (ht : graph.IsClass type target ∨ graph.IsClassOrMap type target) : plan.Records target := by
  rcases ht with ht | ht
  · cases ht with
    | refl h => exact (hr.eq_classRef h).2
    | single h hs hc => exact ((hr.single_member h hs).eq_classRef hc).2
  · obtain ⟨h, hs, -, hm, hc⟩ := ht
    obtain ⟨codec, -, hcodec⟩ := hp.union_of h (hr.eq_unionRef h hs).2
    exact hcodec.known_of_member (Or.inl (hcodec.classMember_iff.mpr ⟨hm, _, hc⟩))

/-- A planned class has an instance if the classes that it contains cannot be
followed without end. -/
theorem hasValue_of_acc (henums : graph.EnumsHaveCases) {id : TypeId}
    (hacc : Acc (fun next id => graph.Contains id next) id) {shape : ClassType}
    (hc : graph.get? id = some (.classType shape)) (hk : plan.Records id) : graph.HasValue id := by
  induction hacc generalizing shape with
  | intro id _ ih =>
    obtain ⟨fields, -, hfields⟩ := hp.class_of hc hk
    refine TypeGraph.hasValue_of_fields hc fun entry hm ho => ?_
    obtain ⟨field, -, hfield⟩ := exists_of_forall₂_left hfields hm
    refine hasValue_of_rule hp henums hfield.rule fun target ht => ?_
    have hedge : graph.Contains id target :=
      ht.imp (fun h => .intro hc hm ho h) fun h => .intro hc hm ho h
    obtain ⟨shape, hshape⟩ := TypeGraph.Contains.exists_class hedge
    exact ih target hedge hshape (records_of_target hp hfield.rule ht)

end Faithful

/-- The cycles of hard edges that the check refuses are the only ones that leave a
class without a document, except those through a required field of a union of
exactly a class and a map: a planned class has a document exactly when it reaches
no such cycle. -/
theorem exists_document_iff {entries : List TypeId} {routing : UnionRouting}
    (h : build graph entries routing = .ok plan) (henums : graph.EnumsHaveCases)
    {id : TypeId} (hid : id ∈ plan.classes.keys) :
    (∃ value : Json, value.WellKeyed ∧ ∃ typed, plan.dehydrate id value = .ok typed)
      ↔ ¬∃ a b, Relation.ReflTransGen graph.Contains id a ∧ graph.HiddenEdge a b
        ∧ Relation.ReflTransGen graph.Contains b a := by
  have hp := faithful_of_build h
  obtain ⟨converter, hfound⟩ := OrderedMap.mem_keys_iff.mp hid
  obtain ⟨hc, -⟩ := hp.classes id converter hfound
  have hr : RuleOf graph plan.Records id (.classRef id) := .classRef hc (Or.inl hid)
  constructor
  · rintro ⟨value, -, typed, hd⟩ ⟨a, b, ha, hab, hb⟩
    refine TypeGraph.not_conforms_of_reaches ha (.head' (Or.inr hab) hb) value ?_
    exact conforms_of_reads hp (dehydrate_eq_ok.mp hd) id hr
  · intro hnone
    have hfounded := TypeGraph.founded_of_checkCycles (TypeGraph.checkCycles_of_build h)
    have hacc : Acc (fun next id => graph.Contains id next) id := by
      refine TypeGraph.acc_of_no_cycle fun other hreach hcycle => ?_
      rcases TypeGraph.hard_or_hidden hcycle with hhard | ⟨a, b, ha, hab, hb⟩
      · exact (hfounded other).not_cycle hhard
      · exact hnone ⟨a, b, hreach.trans ha, hab, hb.trans ha⟩
    obtain ⟨value, hw, hv⟩ := hasValue_of_acc hp henums hacc hc (Or.inl hid)
    obtain ⟨typed, htyped⟩ := reads_of_conforms hp hv hr
    cases reads_iff.mp htyped with
    | object ho => exact ⟨value, hw, _, dehydrate_eq_ok.mpr htyped⟩

/-- A link is followed by another link or by an array of integers. -/
def chainGraph : TypeGraph where
  types := [
    .classType ⟨"Link", ⟨[("next", ⟨⟨3⟩, false⟩)], by decide⟩⟩,
    .integer,
    .array ⟨1⟩,
    .union ⟨[⟨0⟩, ⟨2⟩], by decide⟩]
  topLevels := OrderedMap.empty
  sound := by decide

/-- The plan for links. -/
def chainPlan : Converters where
  entries := [⟨0⟩]
  classes := ⟨[(⟨0⟩, ⟨⟨0⟩, "Link", [⟨"next", false, .unionRef ⟨3⟩⟩]⟩)], by decide⟩
  enums := OrderedMap.empty
  unions := ⟨[(⟨3⟩, { UnionCodec.blank ⟨3⟩ with
    classMember := some ⟨0⟩, array := some (.copy .integer) })], by decide⟩

/-- The array ends the links. -/
theorem exists_document_chain :
    ∃ value : Json, value.WellKeyed ∧ ∃ typed, chainPlan.dehydrate ⟨0⟩ value = .ok typed := by
  have hbuild : build chainGraph [⟨0⟩] .codec = .ok chainPlan := rfl
  have henums : chainGraph.EnumsHaveCases := by
    intro id shape h
    have hmem := List.mem_of_getElem? h
    simp [chainGraph] at hmem
  refine (exists_document_iff hbuild henums (List.mem_singleton_self _)).mpr ?_
  rintro ⟨a, b, -, ⟨hc, he, -, ht⟩, -⟩
  have hmem := List.mem_of_getElem? hc
  simp [chainGraph] at hmem
  subst hmem
  cases List.mem_singleton.mp he
  obtain ⟨hu, -, hall, -, -⟩ := ht
  cases hu
  rcases hall ⟨2⟩ (by decide) with hk | hk <;> cases hk

/-- A link is followed by another link or by a map of integers. -/
def loopGraph : TypeGraph where
  types := [
    .classType ⟨"Link", ⟨[("next", ⟨⟨3⟩, false⟩)], by decide⟩⟩,
    .integer,
    .map ⟨1⟩,
    .union ⟨[⟨0⟩, ⟨2⟩], by decide⟩]
  topLevels := OrderedMap.empty
  sound := by decide

/-- The check lets links through that are followed by a link or a map, but every
object is taken for a link, so there is no document. -/
theorem not_exists_document :
    ∃ (graph : TypeGraph) (entries : List TypeId) (plan : Converters) (id : TypeId),
      build graph entries .codec = .ok plan
        ∧ graph.EnumsHaveCases ∧ id ∈ plan.classes.keys
        ∧ ∀ value typed, plan.dehydrate id value ≠ .ok typed := by
  have hbuild : build loopGraph [⟨0⟩] .codec = .ok { chainPlan with
      unions := ⟨[(⟨3⟩, { UnionCodec.blank ⟨3⟩ with
        classMember := some ⟨0⟩, map := some (.copy .integer) })], by decide⟩ } := rfl
  refine ⟨loopGraph, [⟨0⟩], _, ⟨0⟩, hbuild, fun id shape h => ?_, List.mem_singleton_self _,
    fun value typed hd => ?_⟩
  · have hmem := List.mem_of_getElem? h
    simp [loopGraph] at hmem
  · have htarget : loopGraph.IsClassOrMap ⟨3⟩ ⟨0⟩ := by
      refine .intro rfl rfl (fun other ho => ?_) List.mem_cons_self rfl
      rcases List.mem_pair.mp ho with rfl | rfl
      · exact Or.inl rfl
      · exact Or.inr rfl
    have hedge : loopGraph.Contains ⟨0⟩ ⟨0⟩ := Or.inr (.intro rfl List.mem_cons_self rfl htarget)
    refine TypeGraph.not_conforms_of_cycle (.single hedge) value ?_
    exact conforms_of_reads (faithful_of_build hbuild) (dehydrate_eq_ok.mp hd) ⟨0⟩
      (.classRef rfl (Or.inl (List.mem_singleton_self _)))

end Converters

end Hydration
