import Hydration.Proofs.Plan.Mirror
import Hydration.Proofs.Plan.Resembles
import Hydration.Proofs.Typed.Relaxed

/-!
# Optional fields of a nullable type

A graph may have the types of some optional fields replaced by their unions with null. The
rules of these fields become nullable and all others stay as they are, so the plans of both
graphs differ in relaxed fields only. Documents are then dehydrated alike, and so are
instances hydrated in which none of these fields holds null.
-/

namespace Hydration

/-- What two maps hold under a key that both have or none of them has is related if it is
under every key that both have. -/
theorem OrderedMap.rel_get?_of_keys {κ ν : Type} [DecidableEq κ] {m m' : OrderedMap κ ν}
    {R : ν → ν → Prop} {key : κ} (hkeys : key ∈ m.keys ↔ key ∈ m'.keys)
    (hR : ∀ a b, m.get? key = some a → m'.get? key = some b → R a b) :
    Option.Rel R (m.get? key) (m'.get? key) := by
  rw [mem_keys_iff, mem_keys_iff] at hkeys
  cases ha : m.get? key with
  | some a =>
    obtain ⟨b, hb⟩ := hkeys.mp ⟨a, ha⟩
    rw [hb]
    exact .some (hR a b ha hb)
  | none =>
    cases hb : m'.get? key with
    | none => exact .none
    | some b =>
      obtain ⟨a, ha'⟩ := hkeys.mpr ⟨b, hb⟩
      cases ha.symm.trans ha'

/-- Two maps hold the same under a key that both have or none of them has if they do under
every key that both have. -/
theorem OrderedMap.get?_eq_of_keys {κ ν : Type} [DecidableEq κ] {m m' : OrderedMap κ ν}
    {key : κ} (hkeys : key ∈ m.keys ↔ key ∈ m'.keys)
    (heq : ∀ a b, m.get? key = some a → m'.get? key = some b → a = b) :
    m.get? key = m'.get? key := by
  have hrel := rel_get?_of_keys hkeys heq
  generalize m.get? key = found at hrel ⊢
  generalize m'.get? key = found' at hrel ⊢
  cases hrel with
  | none => rfl
  | some h => rw [h]

namespace TypeGraph

/-- A union of null and another member makes that member nullable. -/
theorem unionShape_eq_nullable {graph : TypeGraph} {null member : TypeId}
    {members : OrderedSet TypeId} (hm : members.toList.Perm [null, member])
    (hn : graph.get? null = some .null) (hs : graph.get? member ≠ some .null) :
    graph.unionShape members = .nullable member := by
  have hany : members.toList.any graph.isNullType = true := by
    rw [hm.any_eq]
    simp [isNullType, hn]
  have hothers : members.toList.filter (fun other => !graph.isNullType other) = [member] := by
    have hfilter := hm.filter fun other => !graph.isNullType other
    rw [List.filter_cons_of_neg (by simp [isNullType, hn]),
      List.filter_cons_of_pos (by simpa [isNullType] using hs), List.filter_nil] at hfilter
    exact hfilter.eq_singleton
  unfold unionShape
  rw [hothers, hany]
  rfl

/-- The declarations of one field in two graphs: they are equal, or the field is relaxed. It
is optional, its type in the first graph is neither any, nor null, nor a union, and its type
in the second graph is the union of null and that type. -/
inductive FieldRelaxed (graph graph' : TypeGraph) : Field → Field → Prop where
  /-- The declarations are equal. -/
  | same (field : Field) : FieldRelaxed graph graph' field field
  /-- The field is relaxed. -/
  | nullable {member union null : TypeId} {type : Ty} {members : OrderedSet TypeId}
      (ht : graph.get? member = some type) (hk : type.kind ∉ [TypeKind.any, .null, .union])
      (hu : graph'.get? union = some (.union members))
      (hm : members.toList.Perm [null, member]) (hn : graph'.get? null = some .null) :
      FieldRelaxed graph graph' ⟨member, true⟩ ⟨union, true⟩

/-- The types of one id in two graphs: they are equal, or classes that differ in relaxed
fields only. -/
inductive TypeRelaxed (graph graph' : TypeGraph) : Ty → Ty → Prop where
  /-- The types are equal. -/
  | same (type : Ty) : TypeRelaxed graph graph' type type
  /-- The fields of the classes are equal or relaxed. -/
  | fields {name : String} {fields fields' : OrderedMap String Field}
      (h : List.Forall₂
        (fun entry entry' => entry.1 = entry'.1 ∧ FieldRelaxed graph graph' entry.2 entry'.2)
        fields.entries fields'.entries) :
      TypeRelaxed graph graph' (.classType ⟨name, fields⟩) (.classType ⟨name, fields'⟩)

/-- Relaxed classes have the same name and fields that are equal or relaxed. -/
theorem TypeRelaxed.of_class {graph graph' : TypeGraph} {shape shape' : ClassType}
    (h : TypeRelaxed graph graph' (.classType shape) (.classType shape')) :
    shape.name = shape'.name ∧ List.Forall₂
      (fun entry entry' => entry.1 = entry'.1 ∧ FieldRelaxed graph graph' entry.2 entry'.2)
      shape.fields.entries shape'.fields.entries := by
  cases h with
  | same => exact ⟨rfl, List.forall₂_same.mpr fun entry _ => ⟨rfl, .same entry.2⟩⟩
  | fields h => exact ⟨rfl, h⟩

/-- A graph with some optional fields relaxed, and with the unions that this takes. -/
def Relaxed (graph graph' : TypeGraph) : Prop :=
  ∀ id type, graph.get? id = some type →
    ∃ type', graph'.get? id = some type' ∧ TypeRelaxed graph graph' type type'

/-- A field, given by class and key, is declared differently in two graphs. -/
def RelaxedAt (graph graph' : TypeGraph) (id : TypeId) (key : String) : Prop :=
  ∃ shape shape' field field', graph.get? id = some (.classType shape)
    ∧ graph'.get? id = some (.classType shape') ∧ shape.fields.get? key = some field
    ∧ shape'.fields.get? key = some field' ∧ field ≠ field'

/-- Where the references of a graph with relaxed fields lead: to what is reached without
them, to null, and to unions that make such types nullable. -/
inductive Leads (graph graph' : TypeGraph) (starts : List TypeId) : TypeId → Prop where
  /-- To a type that is reached without relaxed fields. -/
  | reached {id : TypeId} {type : Ty} (hr : graph.Reaches starts id)
      (ht : graph.get? id = some type) : Leads graph graph' starts id
  /-- To null. -/
  | null {id : TypeId} (ht : graph'.get? id = some .null) : Leads graph graph' starts id
  /-- To a union. -/
  | union {id member : TypeId} {members : OrderedSet TypeId}
      (hu : graph'.get? id = some (.union members))
      (hs : graph'.unionShape members = .nullable member)
      (hm : Leads graph graph' starts member) : Leads graph graph' starts id

namespace Relaxed

variable {graph graph' : TypeGraph} (h : graph.Relaxed graph') {starts : List TypeId}
include h

/-- Relaxing fields keeps the rules. -/
theorem resembles : graph.Resembles graph' := by
  intro id type ht
  obtain ⟨type', ht', hr⟩ := h id type ht
  refine ⟨type', ht', ?_⟩
  cases hr with
  | same => exact .refl type
  | fields => exact .classType _ _

/-- The union of a relaxed field makes the type of the field nullable. -/
theorem unionShape_of_perm {null member : TypeId} {type : Ty} {members : OrderedSet TypeId}
    (ht : graph.get? member = some type) (hk : type.kind ≠ .null)
    (hm : members.toList.Perm [null, member]) (hn : graph'.get? null = some .null) :
    graph'.unionShape members = .nullable member :=
  unionShape_eq_nullable hm hn fun hnull => hk (h.resembles.kind_eq ht hnull)

/-- What is reached is reached with relaxed fields. -/
theorem reaches {id : TypeId} (hr : graph.Reaches starts id) : graph'.Reaches starts id := by
  refine hr.induct (fun start hs => reaches_of_mem hs) fun id next hid hr => ?_
  obtain ⟨type, ht, hm⟩ := refers_iff.mp hr
  obtain ⟨type', ht', hrel⟩ := h id type ht
  cases hrel with
  | same => exact hid.refers (refers_iff.mpr ⟨type, ht', hm⟩)
  | fields hfields =>
    obtain ⟨field, hf, rfl⟩ := List.mem_map.mp hm
    obtain ⟨entry, he, rfl⟩ := List.mem_map.mp hf
    obtain ⟨⟨key, field'⟩, he', -, hfield⟩ := exists_of_forall₂_left hfields he
    have hnext := hid.refers (.field ht' he')
    generalize entry.2 = field at hfield ⊢
    cases hfield with
    | same => exact hnext
    | nullable _ _ hu hm => exact hnext.refers (.member hu (hm.mem_iff.mpr (by simp)))

/-- References lead on from what they lead to. -/
theorem leads_of_refers {id next : TypeId} (hid : Leads graph graph' starts id)
    (hr : graph'.Refers id next) : Leads graph graph' starts next := by
  cases hid with
  | null ht =>
    cases hr with
    | _ ht' => cases ht.symm.trans ht'
  | union hu hs hm =>
    rcases eq_of_unionShape (Or.inr hs) (hr.mem_members hu) with hnull | rfl
    · exact .null hnull
    · exact hm
  | @reached _ type hreached ht =>
    obtain ⟨type', ht', hrel⟩ := h id type ht
    obtain ⟨_, htype', hm⟩ := refers_iff.mp hr
    cases ht'.symm.trans htype'
    cases hrel with
    | same =>
      have hback : graph.Refers id next := refers_iff.mpr ⟨type, ht, hm⟩
      obtain ⟨_, hnext⟩ := hback.exists_type
      exact .reached (hreached.refers hback) hnext
    | fields hfields =>
      obtain ⟨field', hf, rfl⟩ := List.mem_map.mp hm
      obtain ⟨entry', he', rfl⟩ := List.mem_map.mp hf
      obtain ⟨⟨key, field⟩, he, -, hfield⟩ := exists_of_forall₂_right hfields he'
      have hback := Refers.field ht he
      obtain ⟨_, hnext⟩ := hback.exists_type
      have hleads : Leads graph graph' starts field.type :=
        .reached (hreached.refers hback) hnext
      generalize entry'.2 = field' at hfield ⊢
      cases hfield with
      | same => exact hleads
      | nullable hmember hk hu hm hn =>
        refine .union hu (h.unionShape_of_perm hmember (fun hnull => hk ?_) hm hn) hleads
        simp [hnull]

/-- What is reached with relaxed fields is reached without, except for null and unions that
make a type nullable. -/
theorem reached_of_reaches (hstarts : ∀ start ∈ starts, ∃ type, graph.get? start = some type)
    {id : TypeId} {type' : Ty} (hr : graph'.Reaches starts id)
    (ht' : graph'.get? id = some type') (hnull : type' ≠ .null)
    (hunion : ∀ members member, type' = .union members →
      graph'.unionShape members ≠ .nullable member) :
    graph.Reaches starts id ∧ ∃ type, graph.get? id = some type
      ∧ TypeRelaxed graph graph' type type' := by
  have hleads : Leads graph graph' starts id := by
    refine hr.induct (fun start hs => ?_) fun _ _ => h.leads_of_refers
    obtain ⟨type, ht⟩ := hstarts start hs
    exact .reached (reaches_of_mem hs) ht
  cases hleads with
  | reached hr ht =>
    obtain ⟨_, htype', hrel⟩ := h id _ ht
    cases ht'.symm.trans htype'
    exact ⟨hr, _, ht, hrel⟩
  | null ht =>
    cases ht'.symm.trans ht
    exact absurd rfl hnull
  | union hu hs =>
    cases ht'.symm.trans hu
    exact absurd hs (hunion _ _ rfl)

end Relaxed

end TypeGraph

namespace Converters

open Plan (RuleOf FieldOf ClassOf)

variable {graph graph' : TypeGraph} {known known' : TypeId → Prop} {plan plan' : Converters}

/-- The rule of a type that is neither any, nor null, nor a union does not convert null. -/
theorem not_acceptsNull_of_kind {id : TypeId} {type : Ty} {rule : Rule}
    (hr : RuleOf graph known id rule) (ht : graph.get? id = some type)
    (hk : type.kind ∉ [TypeKind.any, .null, .union]) : plan.acceptsNull rule = false := by
  cases hr with
  | any ht' | null ht' | nullOnly ht' | single ht' | nullable ht' | unionRef ht' =>
    cases ht.symm.trans ht'
    exact absurd (by simp [Ty.kind]) hk
  | _ => rfl

section Relaxed

variable (h : graph.Relaxed graph')
include h

/-- A field has the same conversion with and without relaxed fields, or it is relaxed. -/
theorem fieldRelaxed_of_declared {relaxed : String → Prop} {key : String} {field field' : Field}
    (hrel : graph.FieldRelaxed graph' field field') (hat : field ≠ field' → relaxed key)
    {converter converter' : FieldConverter} (hf : FieldOf graph known (key, field) converter)
    (hf' : FieldOf graph' known' (key, field') converter') :
    plan.FieldRelaxed relaxed converter converter' := by
  obtain ⟨_, _, rule⟩ := converter
  obtain ⟨_, _, rule'⟩ := converter'
  obtain ⟨hkey, hoptional, hrule⟩ := hf
  obtain ⟨hkey', hoptional', hrule'⟩ := hf'
  dsimp only at hkey hoptional hrule hkey' hoptional' hrule'
  subst hkey hoptional hkey' hoptional'
  have hsame := hrule.of_resembles h.resembles
  cases hrel with
  | same =>
    cases hsame.unique hrule'
    exact .same _
  | @nullable member union null type members ht hk hu hm hn =>
    have hkind : ∀ kind ∈ [TypeKind.any, .null, .union], type.kind ≠ kind :=
      fun kind hmem heq => hk (heq ▸ hmem)
    have hs := h.unionShape_of_perm ht (hkind .null (by decide)) hm hn
    obtain ⟨inner, rfl, hinner⟩ := hrule'.nullable_member hu hs
    cases hsame.unique hinner
    refine .nullable (hat fun heq => ?_) (not_acceptsNull_of_kind hrule ht hk)
    cases heq
    exact hkind .union (by decide) (h.resembles.kind_eq ht hu)

/-- The conversions of declared fields are the same or relaxed, one by one. -/
theorem fieldsRelaxed_of_declared {relaxed : String → Prop}
    {entries entries' : List (String × Field)}
    (hrel : List.Forall₂ (fun entry entry' =>
      (entry.1 = entry'.1 ∧ graph.FieldRelaxed graph' entry.2 entry'.2)
        ∧ (entry.2 ≠ entry'.2 → relaxed entry.1)) entries entries')
    {fields fields' : List FieldConverter} (hf : List.Forall₂ (FieldOf graph known) entries fields)
    (hf' : List.Forall₂ (FieldOf graph' known') entries' fields') :
    List.Forall₂ (plan.FieldRelaxed relaxed) fields fields' := by
  induction hrel generalizing fields fields' with
  | nil =>
    cases hf
    cases hf'
    exact .nil
  | @cons entry entry' _ _ hentry _ ih =>
    obtain ⟨key, field⟩ := entry
    obtain ⟨key', field'⟩ := entry'
    obtain ⟨⟨rfl, hfield⟩, hat⟩ := hentry
    cases hf with
    | cons hhead hf =>
      cases hf' with
      | cons hhead' hf' =>
        exact .cons (fieldRelaxed_of_declared h hfield hat hhead hhead') (ih hf hf')

/-- A class has the same converter with and without relaxed fields, but for these. -/
theorem classRelaxed_of_declared {id : TypeId} {converter converter' : ClassConverter}
    (hc : ClassOf graph known id converter) (hc' : ClassOf graph' known' id converter') :
    plan.ClassRelaxed (graph.RelaxedAt graph' id) converter converter' := by
  obtain ⟨ht, hfields⟩ := hc
  obtain ⟨ht', hfields'⟩ := hc'
  obtain ⟨_, htype', hrel⟩ := h id _ ht
  cases ht'.symm.trans htype'
  obtain ⟨hname, hentries⟩ := hrel.of_class
  refine ⟨hname, fieldsRelaxed_of_declared h (forall₂_imp_of_mem hentries ?_) hfields hfields'⟩
  intro entry he entry' he' hentry
  have hget := OrderedMap.mem_entries_iff.mp he
  have hget' := OrderedMap.mem_entries_iff.mp he'
  exact ⟨hentry, fun hne => ⟨_, _, entry.2, entry'.2, ht, ht', hget, hentry.1 ▸ hget', hne⟩⟩

/-- Both plans have converters for the same types. -/
theorem Mirrors.keys_of_relaxed {starts : List TypeId}
    (hstarts : ∀ start ∈ starts, ∃ type, graph.get? start = some type)
    (hm : plan.Mirrors graph starts) (hm' : plan'.Mirrors graph' starts) :
    (∀ id, id ∈ plan.classes.keys ↔ id ∈ plan'.classes.keys)
      ∧ (∀ id, id ∈ plan.enums.keys ↔ id ∈ plan'.enums.keys)
      ∧ ∀ id, id ∈ plan.unions.keys ↔ id ∈ plan'.unions.keys := by
  refine ⟨fun id => ?_, fun id => ?_, fun id => ?_⟩
  · rw [hm.classKeys, hm'.classKeys]
    constructor
    · rintro ⟨hr, shape, ht⟩
      exact ⟨h.reaches hr, h.resembles.get?_of_class ht⟩
    · rintro ⟨hr, shape, ht⟩
      obtain ⟨hback, _, hback', hrel⟩ := h.reached_of_reaches hstarts hr ht nofun nofun
      cases hrel with
      | same => exact ⟨hback, _, hback'⟩
      | fields => exact ⟨hback, _, hback'⟩
  · rw [hm.enumKeys, hm'.enumKeys]
    constructor
    · rintro ⟨hr, shape, ht⟩
      exact ⟨h.reaches hr, shape, h.resembles.get?_of_plain ht nofun nofun⟩
    · rintro ⟨hr, shape, ht⟩
      obtain ⟨hback, _, hback', hrel⟩ := h.reached_of_reaches hstarts hr ht nofun nofun
      cases hrel
      exact ⟨hback, shape, hback'⟩
  · rw [hm.unionKeys, hm'.unionKeys]
    constructor
    · rintro ⟨hr, hu⟩
      exact ⟨h.reaches hr, h.resembles.isTrueUnion hu⟩
    · rintro ⟨hr, members, nullable, ht, hs⟩
      have hmulti : ∀ members' member, Ty.union members = .union members' →
          graph'.unionShape members' ≠ .nullable member := by
        rintro _ member ⟨⟩ hs'
        cases hs.symm.trans hs'
      obtain ⟨hback, _, hback', hrel⟩ := h.reached_of_reaches hstarts hr ht nofun hmulti
      cases hrel
      exact ⟨hback, members, nullable, hback',
        (h.resembles.unionShape_eq hback' (.refl _)).trans hs⟩

/-- The plans of two graphs differ in the relaxed fields of the graphs only. -/
theorem relaxed_of_build {entries : List TypeId} {routing routing' : UnionRouting}
    (hplan : build graph entries routing = .ok plan)
    (hplan' : build graph' entries routing' = .ok plan') :
    plan.Relaxed (graph.RelaxedAt graph') plan' := by
  have hm := mirrors_of_build hplan
  have hm' := mirrors_of_build hplan'
  have hstarts : ∀ entry ∈ entries, ∃ type, graph.get? entry = some type := by
    intro entry he
    obtain ⟨shape, ht⟩ := (build_eq_ok.mp hplan).1 entry he
    exact ⟨_, ht⟩
  obtain ⟨hclasses, henums, hunions⟩ := hm.keys_of_relaxed h hstarts hm'
  constructor
  · intro id
    refine OrderedMap.rel_get?_of_keys (hclasses id) fun converter converter' hc hc' => ?_
    exact classRelaxed_of_declared h ((hm.classes id _).mp hc).2 ((hm'.classes id _).mp hc').2
  · intro id
    refine OrderedMap.get?_eq_of_keys (henums id) fun _ _ he he' => ?_
    exact (((hm.enums id _).mp he).2.of_resembles h.resembles).unique ((hm'.enums id _).mp he').2
  · intro id
    refine OrderedMap.get?_eq_of_keys (hunions id) fun _ _ hu hu' => ?_
    exact (((hm.unions id _).mp hu).2.of_resembles h.resembles).unique ((hm'.unions id _).mp hu').2

end Relaxed

/-- Optional fields may have their types replaced by unions with null: the plans have the
same classes, documents are dehydrated alike, with the same results and the same errors, and
so are instances hydrated in which none of these fields holds null, at any depth. -/
theorem build_relaxed {graph graph' : TypeGraph} (h : graph.Relaxed graph')
    {entries : List TypeId} {routing routing' : UnionRouting} {plan plan' : Converters}
    (hplan : build graph entries routing = .ok plan)
    (hplan' : build graph' entries routing' = .ok plan') :
    (∀ id, id ∈ plan.classes.keys ↔ id ∈ plan'.classes.keys)
      ∧ (∀ id value, plan.dehydrate id value = plan'.dehydrate id value)
      ∧ ∀ object : TypedObject, (TypedValue.object object).NullFree (graph.RelaxedAt graph') →
        plan.hydrate object = plan'.hydrate object := by
  have hrelaxed := relaxed_of_build h hplan hplan'
  exact ⟨hrelaxed.mem_classes_iff, hrelaxed.dehydrate_eq,
    fun object hfree => hrelaxed.hydrate_eq hfree⟩

/-- A chapter may have a title and a sequel, and holds a list of chapters or chapters by title. -/
def chapterTypes (title sequel : TypeId) : List Ty := [
  .classType ⟨"Chapter", ⟨[("title", ⟨title, true⟩), ("sequel", ⟨sequel, true⟩),
    ("content", ⟨⟨3⟩, false⟩)], by simp⟩⟩,
  .array ⟨0⟩,
  .string,
  .union ⟨[⟨1⟩, ⟨4⟩], by decide⟩,
  .map ⟨0⟩]

/-- The title of a chapter is a string, and its sequel a chapter. -/
def chapterGraph : TypeGraph := ⟨chapterTypes ⟨2⟩ ⟨0⟩, OrderedMap.empty, by decide⟩

/-- The title of a chapter is a string or null, and its sequel a chapter or null. -/
def nullableChapterGraph : TypeGraph where
  types := chapterTypes ⟨6⟩ ⟨7⟩
    ++ [.null, .union ⟨[⟨2⟩, ⟨5⟩], by decide⟩, .union ⟨[⟨5⟩, ⟨0⟩], by decide⟩]
  topLevels := OrderedMap.empty
  sound := rfl

/-- The plan for chapters, given the rules of their titles and sequels. -/
def chapterPlan (title sequel : Rule) : Converters where
  entries := [⟨0⟩]
  classes := ⟨[(⟨0⟩, ⟨⟨0⟩, "Chapter",
    [⟨"title", true, title⟩, ⟨"sequel", true, sequel⟩, ⟨"content", false, .unionRef ⟨3⟩⟩]⟩)],
    by simp⟩
  enums := OrderedMap.empty
  unions := ⟨[(⟨3⟩, { UnionCodec.blank ⟨3⟩ with
    array := some (.classRef ⟨0⟩), map := some (.classRef ⟨0⟩) })], by simp⟩

/-- The second graph relaxes fields of the first. -/
theorem chapterGraph_relaxed : chapterGraph.Relaxed nullableChapterGraph := by
  rintro ⟨index⟩ type ht
  match index, ht with
  | 0, rfl =>
    refine ⟨_, rfl, .fields (.cons ⟨rfl, ?_⟩ (.cons ⟨rfl, ?_⟩ (.cons ⟨rfl, .same _⟩ .nil)))⟩
    · exact .nullable rfl (by decide) rfl (.swap _ _ []) rfl
    · exact .nullable rfl (by decide) rfl (.refl _) rfl
  | 1, rfl | 2, rfl | 3, rfl | 4, rfl => exact ⟨_, rfl, .same _⟩

/-- The plan in which neither titles nor sequels are null. -/
def strictChapterPlan : Converters := chapterPlan (.copy .string) (.classRef ⟨0⟩)

/-- The plan in which titles and sequels may be null. -/
def nullableChapterPlan : Converters :=
  chapterPlan (.nullable (.copy .string)) (.nullable (.classRef ⟨0⟩))

/-- A chapter without a sequel and content. -/
def emptyChapter (title : Option TypedValue) : TypedObject :=
  ⟨⟨0⟩, [("title", title), ("sequel", none),
    ("content", some (.union { UnionSlots.null with array := some [] }))]⟩

/-- A chapter with a title has no null. -/
theorem nullFree_emptyChapter (fields : TypeId → String → Prop) (title : String) :
    (TypedValue.object (emptyChapter (some (.string title)))).NullFree fields := by
  refine TypedValue.nullFree_iff.mpr ⟨?_, fun part hm => ?_⟩
  · intro object heq key _ hnull
    cases heq
    simp only [emptyChapter, Instance.get?, Entries.get?] at hnull
    split_ifs at hnull <;> cases hnull
  · have hcontent : ∀ part ∈ (TypedValue.union { UnionSlots.null with array := some [] }).parts,
        part.NullFree fields := by
      intro part hm
      rw [List.mem_singleton.mp hm]
      exact TypedValue.nullFree_of_parts_eq_nil (by simp) rfl
    rcases List.mem_pair.mp hm with rfl | rfl
    · exact TypedValue.nullFree_of_parts_eq_nil (by simp) rfl
    · exact TypedValue.nullFree_iff.mpr ⟨by simp, hcontent⟩

/-- Both plans for chapters are built, and chapters are converted alike. A chapter with null
for a title is hydrated by one of them only. -/
theorem build_relaxed_chapter :
    chapterGraph.Relaxed nullableChapterGraph
      ∧ build chapterGraph [⟨0⟩] .codec = .ok strictChapterPlan
      ∧ build nullableChapterGraph [⟨0⟩] .codec = .ok nullableChapterPlan
      ∧ ((∀ id, id ∈ strictChapterPlan.classes.keys ↔ id ∈ nullableChapterPlan.classes.keys)
        ∧ (∀ id value,
          strictChapterPlan.dehydrate id value = nullableChapterPlan.dehydrate id value)
        ∧ ∀ object : TypedObject,
          (TypedValue.object object).NullFree (chapterGraph.RelaxedAt nullableChapterGraph) →
          strictChapterPlan.hydrate object = nullableChapterPlan.hydrate object)
      ∧ (∀ title, (TypedValue.object (emptyChapter (some (.string title)))).NullFree
        (chapterGraph.RelaxedAt nullableChapterGraph))
      ∧ strictChapterPlan.hydrate (emptyChapter (some .null))
        ≠ nullableChapterPlan.hydrate (emptyChapter (some .null)) := by
  have hplan : build chapterGraph [⟨0⟩] .codec = .ok strictChapterPlan := rfl
  have hplan' : build nullableChapterGraph [⟨0⟩] .codec = .ok nullableChapterPlan := rfl
  refine ⟨chapterGraph_relaxed, hplan, hplan', build_relaxed chapterGraph_relaxed hplan hplan',
    nullFree_emptyChapter _, ?_⟩
  intro heq
  cases heq

end Converters

end Hydration
