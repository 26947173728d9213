import Hydration.Proofs.Plan.Resembles
import Hydration.Proofs.Plan.Routing
import Hydration.Proofs.Typed.Content

/-!
# The order of union members

Two graphs may list the members of their unions in different orders. The walk then comes
to their types in different orders: it completes converters in another order, and a class
or union that is under construction when one walk refers to it may be complete in the
other. `Mirrors` says what a plan holds without mentioning the walk, and what it says of
two such graphs is the same.
-/

namespace Hydration

open Relation (ReflTransGen TransGen)

/-- Two types are equal, or they are unions of the same members in some order. -/
inductive Ty.Reordered : Ty → Ty → Prop where
  /-- The types are equal. -/
  | refl (type : Ty) : Ty.Reordered type type
  /-- The types are unions of the same members. -/
  | union {members members' : OrderedSet TypeId} (h : members.toList.Perm members'.toList) :
      Ty.Reordered (.union members) (.union members')

theorem Ty.Reordered.symm {type type' : Ty} (h : type.Reordered type') : type'.Reordered type := by
  cases h with
  | refl => exact .refl type
  | union h => exact .union h.symm

namespace TypeGraph

/-- Two graphs have the same types at the same positions but for the order of the members
of unions. -/
def Reordered (graph graph' : TypeGraph) : Prop :=
  List.Forall₂ Ty.Reordered graph.types graph'.types

namespace Reordered

variable {graph graph' : TypeGraph}

theorem symm (h : graph.Reordered graph') : graph'.Reordered graph :=
  (List.Forall₂.flip h).imp fun _ _ ht => ht.symm

variable (h : graph.Reordered graph')
include h

theorem size_eq : graph.size = graph'.size := List.Forall₂.length_eq h

/-- The types at a position are the same, or they are unions of the same members. -/
theorem get?_cases (id : TypeId) :
    graph.get? id = graph'.get? id
      ∨ ∃ members members', graph.get? id = some (.union members)
        ∧ graph'.get? id = some (.union members') ∧ members.toList.Perm members'.toList := by
  cases ht' : graph'.get? id with
  | none =>
    left
    have hle : graph.size ≤ id.index := h.size_eq ▸ List.getElem?_eq_none_iff.mp ht'
    exact List.getElem?_eq_none_iff.mpr hle
  | some type' =>
    obtain ⟨type, ht, hr⟩ := getElem?_of_forall₂ h ht'
    cases hr with
    | refl => exact Or.inl ht
    | union hp => exact Or.inr ⟨_, _, ht, rfl, hp⟩

/-- A type that is no union stays as it is. -/
theorem get?_of_not_union {id : TypeId} {type : Ty} (ht : graph.get? id = some type)
    (hu : ∀ members, type ≠ .union members) : graph'.get? id = some type := by
  rcases h.get?_cases id with hsame | ⟨members, _, hunion, -⟩
  · exact hsame ▸ ht
  · cases ht.symm.trans hunion
    exact absurd rfl (hu members)

/-- The members of a union stay in some order. -/
theorem get?_of_union {id : TypeId} {members : OrderedSet TypeId}
    (ht : graph.get? id = some (.union members)) :
    ∃ members', graph'.get? id = some (.union members')
      ∧ members.toList.Perm members'.toList := by
  rcases h.get?_cases id with hsame | ⟨_, members', hunion, ht', hp⟩
  · exact ⟨members, hsame ▸ ht, .refl _⟩
  · cases ht.symm.trans hunion
    exact ⟨members', ht', hp⟩

/-- Reordered graphs have the same rules. -/
theorem resembles : graph.Resembles graph' := by
  intro id type ht
  rcases h.get?_cases id with hsame | ⟨members, members', hunion, ht', hp⟩
  · exact ⟨type, hsame ▸ ht, .refl type⟩
  · cases ht.symm.trans hunion
    exact ⟨_, ht', .union hp⟩

/-! ## What a graph computes -/

/-- Reordered graphs have the same classes. -/
theorem class?_eq (id : TypeId) : graph.class? id = graph'.class? id := by
  rcases h.get?_cases id with hsame | ⟨members, members', ht, ht', -⟩
  · rw [class?, class?, hsame]
  · rw [class?, class?, ht, ht']

theorem displayName?_eq (id : TypeId) : graph.displayName? id = graph'.displayName? id := by
  rcases h.get?_cases id with hsame | ⟨members, members', ht, ht', -⟩
  · rw [displayName?, displayName?, hsame]
  · rw [displayName?, displayName?, ht, ht']

/-- A type stands for the same one in any order of members. -/
theorem standsForWithin_eq (bound : Nat) (id : TypeId) :
    graph.standsForWithin bound id = graph'.standsForWithin bound id := by
  induction bound generalizing id with
  | zero => rfl
  | succ bound ih =>
    unfold standsForWithin
    rcases h.get?_cases id with hsame | ⟨members, members', ht, ht', hp⟩
    · cases ht : graph.get? id with
      | none => rw [← hsame, ht]
      | some type =>
        rw [← hsame, ht]
        cases type with
        | union members =>
          dsimp only
          rw [h.resembles.unionShape_eq ht (.refl members.toList)]
          cases graph'.unionShape members with
          | single member => exact ih member
          | _ => rfl
        | _ => rfl
    · rw [ht, ht']
      dsimp only
      rw [h.resembles.unionShape_eq ht hp]
      cases graph'.unionShape members' with
      | single member => exact ih member
      | _ => rfl

/-- A type needs the same ones in any order of members. -/
theorem hardTargets_eq (id : TypeId) : graph.hardTargets id = graph'.hardTargets id := by
  have htarget : ∀ type, graph.hardTarget? type = graph'.hardTarget? type := by
    intro type
    simp only [hardTarget?, standsFor?, h.size_eq, h.standsForWithin_eq, h.class?_eq]
  simp only [hardTargets, h.class?_eq, htarget]

theorem cyclePath_eq (path : List TypeId) (id : TypeId) :
    graph.cyclePath path id = graph'.cyclePath path id := by
  have hname : graph.cycleName = graph'.cycleName :=
    funext fun id => by rw [cycleName, cycleName, h.displayName?_eq]
  rw [cyclePath, cyclePath, hname]

/-- The search for cycles takes the same way. -/
theorem visitWithin_eq (bound : Nat) (path : List TypeId) :
    graph.visitWithin bound path = graph'.visitWithin bound path := by
  induction bound generalizing path with
  | zero => rfl
  | succ bound ih =>
    funext id done
    simp only [visitWithin, h.hardTargets_eq, h.cyclePath_eq, ih]

/-- The search for cycles finds the same. -/
theorem checkCycles_eq (entries : List TypeId) :
    graph.checkCycles entries = graph'.checkCycles entries := by
  have hvisit : graph.visit = graph'.visit := by
    funext done id
    rw [visit, visit, h.size_eq, h.visitWithin_eq]
  have hclasses : graph.classes = graph'.classes := by
    rw [classes, classes, ids, ids, h.size_eq, funext h.class?_eq]
  rw [checkCycles, checkCycles, hvisit, hclasses]

/-! ## What a graph refers to -/

/-- References are the same in any order of members. -/
theorem refers {id next : TypeId} (hr : graph.Refers id next) : graph'.Refers id next := by
  cases hr with
  | items ht => exact .items (h.get?_of_not_union ht nofun)
  | values ht => exact .values (h.get?_of_not_union ht nofun)
  | field ht he => exact .field (h.get?_of_not_union ht nofun) he
  | member ht hm =>
    obtain ⟨members', ht', hp⟩ := h.get?_of_union ht
    exact .member ht' (hp.mem_iff.mp hm)

theorem reaches {starts : List TypeId} {id : TypeId} (hr : graph.Reaches starts id) :
    graph'.Reaches starts id := by
  obtain ⟨start, hs, hpath⟩ := hr
  exact ⟨start, hs, ReflTransGen.mono (fun _ _ => h.refers) _ _ hpath⟩

theorem refersInside {id next : TypeId} (hr : graph.RefersInside id next) :
    graph'.RefersInside id next :=
  ⟨h.refers hr.1, h.class?_eq id ▸ hr.2.1, fun hu => hr.2.2 (h.symm.resembles.isTrueUnion hu)⟩

/-- A walk that ends does so in any order of members. -/
theorem ends {id : TypeId} (he : graph.Ends id) : graph'.Ends id := by
  have hback : ∀ a b, graph'.RefersInside a b → graph.RefersInside a b :=
    fun _ _ => h.symm.refersInside
  intro other hpath hcycle
  exact he other (ReflTransGen.mono hback _ _ hpath) (TransGen.mono hback _ _ hcycle)

/-- What can be planned can be planned in any order of members. -/
theorem supported {id : TypeId} (hs : graph.Supported id) : graph'.Supported id where
  kind name ht' := hs.kind name (h.symm.get?_of_not_union ht' nofun)
  members members' nullable ht' hshape' member hm' hany' := by
    obtain ⟨members, ht, hp⟩ := h.symm.get?_of_union ht'
    have hshape : graph.unionShape members = .multi nullable :=
      h.symm.resembles.unionShape_eq ht' hp ▸ hshape'
    exact hs.members members nullable ht hshape member (hp.mem_iff.mp hm')
      (h.symm.get?_of_not_union hany' nofun)

end Reordered

end TypeGraph

namespace Plan

variable {graph graph' : TypeGraph} {known : TypeId → Prop}

variable (h : graph.Reordered graph')
include h

theorem FieldOf.reordered {entry : String × Field} {field : FieldConverter}
    (hf : FieldOf graph known entry field) : FieldOf graph' known entry field :=
  ⟨hf.key, hf.optional, hf.rule.of_resembles h.resembles⟩

/-- The converter of a class is the same in any order of members. -/
theorem ClassOf.reordered {id : TypeId} {converter : ClassConverter}
    (hc : ClassOf graph known id converter) : ClassOf graph' known id converter := by
  obtain ⟨ht, hfields⟩ := hc
  exact .intro (h.get?_of_not_union ht nofun) (hfields.imp fun _ _ hf => hf.reordered h)

end Plan

namespace Converters

variable {graph graph' : TypeGraph} {entries : List TypeId} {plan plan' : Converters}

/-- What a plan holds does not depend on the order of union members. -/
theorem Mirrors.get?_of_reordered (h : graph.Reordered graph') {starts : List TypeId}
    (hm : plan.Mirrors graph starts) (hm' : plan'.Mirrors graph' starts) :
    (∀ id converter, plan.classes.get? id = some converter →
      plan'.classes.get? id = some converter)
    ∧ (∀ id converter, plan.enums.get? id = some converter →
      plan'.enums.get? id = some converter)
    ∧ ∀ id codec, plan.unions.get? id = some codec → plan'.unions.get? id = some codec := by
  refine ⟨fun id converter hc => ?_, fun id converter he => ?_, fun id codec hu => ?_⟩
  · obtain ⟨hr, hclass⟩ := (hm.classes id converter).mp hc
    exact (hm'.classes id converter).mpr ⟨h.reaches hr, hclass.reordered h⟩
  · obtain ⟨hr, henum⟩ := (hm.enums id converter).mp he
    exact (hm'.enums id converter).mpr ⟨h.reaches hr, henum.of_resembles h.resembles⟩
  · obtain ⟨hr, hunion⟩ := (hm.unions id codec).mp hu
    exact (hm'.unions id codec).mpr ⟨h.reaches hr, hunion.of_resembles h.resembles⟩

/-- Plans of one list of entries differ at most in the order of their converters. -/
theorem sameContent_of_reordered (h : graph.Reordered graph') {routing routing' : UnionRouting}
    (hplan : build graph entries routing = .ok plan)
    (hplan' : build graph' entries routing' = .ok plan') : plan.SameContent plan' := by
  have hm := mirrors_of_build hplan
  have hm' := mirrors_of_build hplan'
  obtain ⟨hclasses, henums, hunions⟩ := hm.get?_of_reordered h hm'
  obtain ⟨hclasses', henums', hunions'⟩ := hm'.get?_of_reordered h.symm hm
  constructor
  · obtain ⟨-, -, state, -, rfl⟩ := build_eq_ok.mp hplan
    obtain ⟨-, -, state', -, rfl⟩ := build_eq_ok.mp hplan'
    rfl
  · exact OrderedMap.perm_entries_iff.mpr fun id =>
      Option.ext fun converter => ⟨hclasses id converter, hclasses' id converter⟩
  · exact OrderedMap.perm_entries_iff.mpr fun id =>
      Option.ext fun converter => ⟨henums id converter, henums' id converter⟩
  · exact OrderedMap.perm_entries_iff.mpr fun id =>
      Option.ext fun codec => ⟨hunions id codec, hunions' id codec⟩

/-- Entries that have a plan with codecs have one whatever the order of union members. -/
theorem exists_codec_of_reordered (h : graph.Reordered graph')
    (hplan : build graph entries .codec = .ok plan) :
    ∃ plan', build graph' entries .codec = .ok plan' := by
  obtain ⟨hentries, hcycles, hreached⟩ := exists_build_iff_ends.mp ⟨plan, hplan⟩
  refine exists_build_iff_ends.mpr ⟨fun entry hm => ?_, h.checkCycles_eq entries ▸ hcycles,
    fun id hid => ?_⟩
  · obtain ⟨shape, ht⟩ := hentries entry hm
    exact ⟨shape, h.get?_of_not_union ht nofun⟩
  · obtain ⟨hsupported, hends⟩ := hreached id (h.symm.reaches hid)
    exact ⟨h.supported hsupported, h.ends hends⟩

/-- Entries that have a plan have one whatever the order of union members. -/
theorem exists_build_of_reordered (h : graph.Reordered graph') {routing : UnionRouting}
    (hplan : build graph entries routing = .ok plan) :
    ∃ plan', build graph' entries routing = .ok plan' := by
  cases routing with
  | codec => exact exists_codec_of_reordered h hplan
  | reject =>
    obtain ⟨hcodec, hunions⟩ := build_codec_of_reject hplan
    obtain ⟨plan', hcodec'⟩ := exists_codec_of_reordered h hcodec
    rcases build_reject_of_codec hcodec' with hreject | ⟨union, context, -, hblamed⟩
    · exact ⟨plan', hreject⟩
    · have hkey := ((mirrors_of_build hcodec).unionKeys union).mpr
        ⟨h.symm.reaches hblamed.reaches, h.symm.resembles.isTrueUnion hblamed.isTrueUnion⟩
      rw [hunions] at hkey
      cases hkey

/-- The order of union members is irrelevant: entries have a plan for one graph exactly
when they have one for the other, the two plans hold the same converters, and documents
and instances are converted alike by them, with the same results and the same errors. -/
theorem build_reordered {graph graph' : TypeGraph} (h : graph.Reordered graph')
    (entries : List TypeId) (routing : UnionRouting) :
    ((∃ plan, build graph entries routing = .ok plan)
      ↔ ∃ plan', build graph' entries routing = .ok plan')
    ∧ ∀ plan plan', build graph entries routing = .ok plan →
      build graph' entries routing = .ok plan' →
      plan.SameContent plan'
      ∧ (∀ id value, plan.dehydrate id value = plan'.dehydrate id value)
      ∧ ∀ object, plan.hydrate object = plan'.hydrate object := by
  refine ⟨⟨?_, ?_⟩, fun plan plan' hplan hplan' => ?_⟩
  · rintro ⟨plan, hplan⟩
    exact exists_build_of_reordered h hplan
  · rintro ⟨plan', hplan'⟩
    exact exists_build_of_reordered h.symm hplan'
  · have hsame := sameContent_of_reordered h hplan hplan'
    exact ⟨hsame, hsame.dehydrate_eq, hsame.hydrate_eq⟩

/-- A parcel may have a value, which is a leaf or a list of items. Leaves may have a parcel, and
items have values like those of parcels. -/
def parcelTypes (members : OrderedSet TypeId) : List Ty := [
  .classType ⟨"Parcel", ⟨[("value", ⟨⟨1⟩, true⟩)], by decide⟩⟩,
  .union members,
  .classType ⟨"Leaf", ⟨[("parcel", ⟨⟨0⟩, true⟩)], by decide⟩⟩,
  .array ⟨4⟩,
  .classType ⟨"Item", ⟨[("value", ⟨⟨1⟩, false⟩)], by decide⟩⟩]

/-- The value of a parcel is a leaf or a list of items. -/
def leafFirstGraph : TypeGraph := ⟨parcelTypes ⟨[⟨2⟩, ⟨3⟩], by decide⟩, OrderedMap.empty, by decide⟩

/-- The value of a parcel is a list of items or a leaf. -/
def itemFirstGraph : TypeGraph := ⟨parcelTypes ⟨[⟨3⟩, ⟨2⟩], by decide⟩, OrderedMap.empty, by decide⟩

/-- The plan for parcels with the converters of classes in a given order. -/
def parcelPlan (classes : OrderedMap TypeId ClassConverter) : Converters where
  entries := [⟨0⟩]
  classes := classes
  enums := OrderedMap.empty
  unions := ⟨[(⟨1⟩, { UnionCodec.blank ⟨1⟩ with
    classMember := some ⟨2⟩, array := some (.classRef ⟨4⟩) })], by decide⟩

/-- The converter of parcels. -/
def parcelConverter : ClassConverter := ⟨⟨0⟩, "Parcel", [⟨"value", true, .unionRef ⟨1⟩⟩]⟩

/-- The converter of leaves. -/
def leafConverter : ClassConverter := ⟨⟨2⟩, "Leaf", [⟨"parcel", true, .classRef ⟨0⟩⟩]⟩

/-- The converter of items. -/
def itemConverter : ClassConverter := ⟨⟨4⟩, "Item", [⟨"value", false, .unionRef ⟨1⟩⟩]⟩

/-- The plan of the graph in which leaves come first. -/
def leafFirstPlan : Converters :=
  parcelPlan ⟨[(⟨2⟩, leafConverter), (⟨4⟩, itemConverter), (⟨0⟩, parcelConverter)], by decide⟩

/-- The plan of the graph in which items come first. -/
def itemFirstPlan : Converters :=
  parcelPlan ⟨[(⟨4⟩, itemConverter), (⟨2⟩, leafConverter), (⟨0⟩, parcelConverter)], by decide⟩

/-- The classes of parcels are completed in two orders, and parcels are converted alike. -/
theorem build_reordered_parcel :
    leafFirstGraph.Reordered itemFirstGraph
      ∧ build leafFirstGraph [⟨0⟩] .codec = .ok leafFirstPlan
      ∧ build itemFirstGraph [⟨0⟩] .codec = .ok itemFirstPlan
      ∧ leafFirstPlan ≠ itemFirstPlan
      ∧ (leafFirstPlan.SameContent itemFirstPlan
        ∧ (∀ id value, leafFirstPlan.dehydrate id value = itemFirstPlan.dehydrate id value)
        ∧ ∀ object, leafFirstPlan.hydrate object = itemFirstPlan.hydrate object)
      ∧ ¬∃ plan, build itemFirstGraph [⟨0⟩] .reject = .ok plan := by
  have hreordered : leafFirstGraph.Reordered itemFirstGraph :=
    .cons (.refl _) (.cons (.union (.swap _ _ [])) (.cons (.refl _) (.cons (.refl _)
      (.cons (.refl _) .nil))))
  have hleaf : build leafFirstGraph [⟨0⟩] .codec = .ok leafFirstPlan := rfl
  have hitem : build itemFirstGraph [⟨0⟩] .codec = .ok itemFirstPlan := rfl
  refine ⟨hreordered, hleaf, hitem, by decide,
    (build_reordered hreordered [⟨0⟩] .codec).2 _ _ hleaf hitem, fun hplan => ?_⟩
  obtain ⟨plan, hreject⟩ := (build_reordered hreordered [⟨0⟩] .reject).1.mpr hplan
  cases hreject

end Converters

end Hydration
