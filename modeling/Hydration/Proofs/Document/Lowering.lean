import Hydration.Proofs.Document.Expression

/-!
# Lowering expressions

What lowering an expression does to a draft. It fails exactly at the first unknown name.
Otherwise it adds types at the end, and the id that it answers denotes the expression.
`Denotes` remembers which ids belong to the members of a union, so that it can be told
which of them are the same; both what is read back from a type and whether a union is
sound follow from it.
-/

namespace Hydration

namespace TypeExpr

/-- The names in an expression at a location, each with its own location. -/
def mentionsAt (location : String) (expr : TypeExpr) : List (String × String) :=
  expr.mentions.map fun mention => (location ++ ExprStep.pathText mention.1, mention.2)

/-- The names in union members at a location, counted from an index. -/
def memberMentionsAt (location : String) (index : Nat) (members : List TypeExpr) :
    List (String × String) :=
  (memberMentions index members).map fun mention =>
    (location ++ ExprStep.pathText mention.1, mention.2)

variable {location : String}

theorem mentionsAt_name (text : String) :
    mentionsAt location (.name text) = [(location, text)] := by
  simp [mentionsAt, mentions, ExprStep.pathText]

/-- An array mentions what its items do, one step further. -/
theorem mentionsAt_array (items : TypeExpr) :
    mentionsAt location (.array items) = items.mentionsAt (location ++ "[]") := by
  simp [mentionsAt, mentions, ExprStep.pathText, ExprStep.text, Function.comp_def,
    String.append_assoc]

theorem mentionsAt_map (values : TypeExpr) :
    mentionsAt location (.map values) = values.mentionsAt (location ++ "\x7b\x7d") := by
  simp [mentionsAt, mentions, ExprStep.pathText, ExprStep.text, Function.comp_def,
    String.append_assoc]

/-- Members mention what each of them does at its own position. -/
theorem memberMentionsAt_cons (index : Nat) (member : TypeExpr) (rest : List TypeExpr) :
    memberMentionsAt location index (member :: rest)
      = member.mentionsAt (location ++ "|" ++ toString index)
        ++ memberMentionsAt location (index + 1) rest := by
  simp [memberMentionsAt, memberMentions, mentionsAt, ExprStep.pathText, ExprStep.text,
    Function.comp_def, String.append_assoc]

/-- The names in an expression at a location are its parts. -/
theorem exists_mentionAt_iff {expr : TypeExpr} {text : String} :
    (∃ place, (place, text) ∈ expr.mentionsAt location) ↔ Within (.name text) expr := by
  rw [← exists_mention_iff]
  simp [mentionsAt]

end TypeExpr

namespace GraphDocument

open TypeGraph (TypeAt)
open TypeExpr (primitive? Within mentionsAt memberMentionsAt)

/-! ## Failures -/

/-- Whether a name is neither a primitive nor given. -/
def isUnknown (named : List (String × TypeId)) (name : String) : Bool :=
  (primitive? name).isNone && (Entries.get? name named).isNone

/-- The failure at the first unknown name. -/
def unknownIn (named : List (String × TypeId)) (mentions : List (String × String)) :
    Option LoweringError :=
  (mentions.find? fun mention => isUnknown named mention.2).map fun mention =>
    .unknownType mention.2 mention.1

variable {named : List (String × TypeId)}

/-- The first unknown name of two lists is in the first one if that has any. -/
theorem unknownIn_append (front back : List (String × String)) :
    unknownIn named (front ++ back) = (unknownIn named front).or (unknownIn named back) := by
  rw [unknownIn, List.find?_append, unknownIn, unknownIn]
  cases front.find? _ <;> rfl

/-- Members are lowered in order, so that they fail at the first failure of one. -/
theorem failure?_lowerMembers {members : List TypeExpr}
    (h : ∀ member ∈ members, ∀ location draft,
      failure? (lowerExpr named member location draft)
        = unknownIn named (member.mentionsAt location))
    (index : Nat) (location : String) (draft : Draft) :
    failure? (lowerMembers named members index location draft)
      = unknownIn named (memberMentionsAt location index members) := by
  induction members generalizing index draft with
  | nil => rfl
  | cons member rest ih =>
    rw [List.forall_mem_cons] at h
    rw [lowerMembers, TypeExpr.memberMentionsAt_cons, unknownIn_append, ← h.1 _ draft]
    refine failure?_bind fun ⟨id, draft'⟩ _ => ?_
    rw [← ih h.2 (index + 1) draft']
    exact failure?_bind_of_ok fun _ => ⟨_, rfl⟩

/-- Lowering an expression fails exactly at its first unknown name, with the location of
that name. -/
theorem failure?_lowerExpr (expr : TypeExpr) (location : String) (draft : Draft) :
    failure? (lowerExpr named expr location draft)
      = unknownIn named (expr.mentionsAt location) := by
  induction expr using TypeExpr.induct generalizing location draft with
  | ref text =>
    rw [TypeExpr.mentionsAt_name, lowerExpr, unknownIn, List.find?_singleton, isUnknown]
    cases primitive? text with
    | some type => rfl
    | none => cases Entries.get? text named <;> rfl
  | array items ih =>
    rw [lowerExpr, TypeExpr.mentionsAt_array, ← ih _ draft]
    exact failure?_bind_of_ok fun _ => ⟨_, rfl⟩
  | map values ih =>
    rw [lowerExpr, TypeExpr.mentionsAt_map, ← ih _ draft]
    exact failure?_bind_of_ok fun _ => ⟨_, rfl⟩
  | union members ih =>
    refine Eq.trans ?_ (failure?_lowerMembers ih 0 location draft)
    rw [lowerExpr]
    exact failure?_bind_of_ok fun _ => ⟨_, rfl⟩
  | transformed kind => rfl

/-! ## What an id denotes -/

/-- Two members of a union have one id exactly if they are the same reference. -/
def Same (a b : TypeId × TypeExpr) : Prop := a.1 = b.1 ↔ a.2 = b.2 ∧ a.2.isReference = true

/-- An id denotes an expression. -/
inductive Denotes (named : List (String × TypeId)) (types : List Ty) :
    TypeId → TypeExpr → Prop where
  /-- A primitive. -/
  | primitive {id : TypeId} {type : Ty} {text : String} (h : TypeAt types id type)
      (hp : primitive? text = some type) : Denotes named types id (.name text)
  /-- A named type. -/
  | reference {id : TypeId} {text : String} (hp : primitive? text = none)
      (hn : Entries.get? text named = some id) : Denotes named types id (.name text)
  /-- A string under an interpretation. -/
  | transformed {id : TypeId} {kind : String}
      (h : TypeAt types id (.transformed (StringKind.ofName kind))) :
      Denotes named types id (.transformed kind)
  /-- An array. -/
  | array {id items : TypeId} {expr : TypeExpr} (h : TypeAt types id (.array items))
      (hi : Denotes named types items expr) : Denotes named types id (.array expr)
  /-- A map. -/
  | map {id values : TypeId} {expr : TypeExpr} (h : TypeAt types id (.map values))
      (hv : Denotes named types values expr) : Denotes named types id (.map expr)
  /-- A union of members with ids, of which repeated ones count once. -/
  | union {id : TypeId} {members : List (TypeId × TypeExpr)}
      (h : TypeAt types id (.union (OrderedSet.ofList (members.map Prod.fst))))
      (hm : ∀ member ∈ members, Denotes named types member.1 member.2)
      (hs : members.Pairwise Same) : Denotes named types id (.union (members.map Prod.snd))

/-- Types stay where they are, but for the fields of classes. -/
def Keeps (types types' : List Ty) : Prop :=
  ∀ id type, TypeAt types id type → (∀ shape, type ≠ .classType shape) → TypeAt types' id type

/-- New types move none of the others. -/
theorem Keeps.append (types more : List Ty) : Keeps types (types ++ more) :=
  fun _ _ h _ => h.append more

/-- Giving a class other fields keeps everything else. -/
theorem Keeps.set_class {types : List Ty} {id : TypeId} {shape : ClassType}
    (h : TypeAt types id (.classType shape)) (shape' : ClassType) :
    Keeps types (types.set id.index (.classType shape')) := by
  intro other type hother hclass
  refine (TypeGraph.typeAt_set_of_ne ?_).mpr hother
  rintro rfl
  exact hclass shape (Option.some.inj (hother.symm.trans h))

variable {types types' : List Ty} {id : TypeId} {expr : TypeExpr}

/-- No primitive name stands for a class. -/
theorem ne_classType_of_primitive? {text : String} {type : Ty} (h : primitive? text = some type)
    (shape : ClassType) : type ≠ .classType shape := by
  rintro rfl
  cases TypeExpr.primitiveName?_of_primitive? h

/-- An expression denotes the same type as long as types stay where they are. -/
theorem Denotes.mono (hk : Keeps types types') (h : Denotes named types id expr) :
    Denotes named types' id expr := by
  induction h with
  | primitive h hp => exact .primitive (hk _ _ h (ne_classType_of_primitive? hp)) hp
  | reference hp hn => exact .reference hp hn
  | transformed h => exact .transformed (hk _ _ h nofun)
  | array h _ ih => exact .array (hk _ _ h nofun) ih
  | map h _ ih => exact .map (hk _ _ h nofun) ih
  | union h _ hs ih => exact .union (hk _ _ h nofun) ih hs

/-- What a reference denotes is found under its name. -/
theorem Denotes.get?_of_reference {text : String} (h : Denotes named types id (.name text))
    (hp : primitive? text = none) : Entries.get? text named = some id := by
  cases h with
  | primitive _ hp' => cases hp.symm.trans hp'
  | reference _ hn => exact hn

/-- The parts of what is denoted are denoted. -/
theorem Denotes.exists_within {part : TypeExpr} (hw : Within part expr)
    (h : Denotes named types id expr) : ∃ id', Denotes named types id' part := by
  induction hw generalizing id with
  | refl => exact ⟨id, h⟩
  | items _ ih =>
    cases h with
    | array _ hi => exact ih hi
  | values _ ih =>
    cases h with
    | map _ hv => exact ih hv
  | member hm _ ih =>
    cases h with
    | union _ hmembers _ =>
      obtain ⟨member, hmember, rfl⟩ := List.mem_map.mp hm
      exact ih (hmembers member hmember)

/-! ## What lowering adds -/

/-- Names have ids below a bound, and no two of them the same. -/
structure Names (named : List (String × TypeId)) (count : Nat) : Prop where
  /-- The ids are below the bound. -/
  below : ∀ name id, Entries.get? name named = some id → id.index < count
  /-- The ids are distinct. -/
  injective : ∀ name name' id, Entries.get? name named = some id →
    Entries.get? name' named = some id → name = name'

theorem Names.mono {count count' : Nat} (h : Names named count) (hle : count ≤ count') :
    Names named count' where
  below name id hn := Nat.lt_of_lt_of_le (h.below name id hn) hle
  injective := h.injective

/-- The types from a position on are those of certain expressions. -/
def MadeFrom (named : List (String × TypeId)) (types : List Ty) (start : Nat)
    (parts : TypeExpr → Prop) : Prop :=
  ∀ id : TypeId, start ≤ id.index → id.index < types.length →
    ∃ part, parts part ∧ part.isReference = false ∧ Denotes named types id part

theorem madeFrom_length (types : List Ty) (parts : TypeExpr → Prop) :
    MadeFrom named types types.length parts :=
  fun _ hle hlt => absurd hlt (Nat.not_lt.mpr hle)

/-- Types of certain expressions are types of any that include these. -/
theorem MadeFrom.imp {start : Nat} {parts parts' : TypeExpr → Prop}
    (h : MadeFrom named types start parts) (himp : ∀ part, parts part → parts' part) :
    MadeFrom named types start parts' := by
  intro id hle hlt
  obtain ⟨part, hpart, hmade⟩ := h id hle hlt
  exact ⟨part, himp part hpart, hmade⟩

/-- Types that are made in two steps. -/
theorem MadeFrom.trans {start : Nat} {parts : TypeExpr → Prop}
    (h : MadeFrom named types start parts) (hk : Keeps types types')
    (h' : MadeFrom named types' types.length parts) : MadeFrom named types' start parts := by
  intro id hle hlt
  rcases Nat.lt_or_ge id.index types.length with hfirst | hlater
  · obtain ⟨part, hpart, href, hd⟩ := h id hle hfirst
    exact ⟨part, hpart, href, hd.mono hk⟩
  · exact h' id hlater hlt

/-- Lowering an expression adds types to a draft and answers an id that denotes it. -/
structure Lowers (named : List (String × TypeId)) (draft : Draft) (expr : TypeExpr) (id : TypeId)
    (draft' : Draft) : Prop where
  /-- The types are added at the end, and nothing else changes. -/
  appends : ∃ more, draft' = { draft with types := draft.types ++ more }
  /-- The id denotes the expression. -/
  denotes : Denotes named draft'.types id expr
  /-- The id is that of a type. -/
  inRange : id.index < draft'.types.length
  /-- The type is new unless the expression is a reference. -/
  fresh : expr.isReference = false → draft.types.length ≤ id.index
  /-- The new types are those of parts of the expression. -/
  made : MadeFrom named draft'.types draft.types.length fun part => Within part expr

/-- Lowering expressions one after the other. -/
inductive LowersAll (named : List (String × TypeId)) :
    Draft → List (TypeId × TypeExpr) → Draft → Prop where
  /-- There are none. -/
  | nil (draft : Draft) : LowersAll named draft [] draft
  /-- The first is lowered before the others. -/
  | cons {draft draft₁ draft₂ : Draft} {expr : TypeExpr} {id : TypeId}
      {rest : List (TypeId × TypeExpr)} (h : Lowers named draft expr id draft₁)
      (hrest : LowersAll named draft₁ rest draft₂) :
      LowersAll named draft ((id, expr) :: rest) draft₂

variable {draft draft' : Draft} {pairs : List (TypeId × TypeExpr)}

/-- Lowering an expression removes no types. -/
theorem Lowers.length_le (h : Lowers named draft expr id draft') :
    draft.types.length ≤ draft'.types.length := by
  obtain ⟨more, rfl⟩ := h.appends
  simp

namespace LowersAll

/-- Lowering adds types at the end and changes nothing else. -/
theorem appends (h : LowersAll named draft pairs draft') :
    ∃ more, draft' = { draft with types := draft.types ++ more } := by
  induction h with
  | nil draft => exact ⟨[], by simp⟩
  | cons h _ ih =>
    obtain ⟨more, rfl⟩ := h.appends
    obtain ⟨others, rfl⟩ := ih
    exact ⟨more ++ others, by simp⟩

/-- Lowering leaves types where they are. -/
theorem keeps (h : LowersAll named draft pairs draft') : Keeps draft.types draft'.types := by
  obtain ⟨more, rfl⟩ := h.appends
  exact .append _ more

theorem length_le (h : LowersAll named draft pairs draft') :
    draft.types.length ≤ draft'.types.length := by
  obtain ⟨more, rfl⟩ := h.appends
  simp

/-- Each lowered expression denotes the type under its id. -/
theorem denotes (h : LowersAll named draft pairs draft') :
    ∀ pair ∈ pairs, Denotes named draft'.types pair.1 pair.2 := by
  induction h with
  | nil => simp
  | cons h hrest ih => exact List.forall_mem_cons.mpr ⟨h.denotes.mono hrest.keeps, ih⟩

/-- An expression that is no reference is lowered to a new type. -/
theorem fresh (h : LowersAll named draft pairs draft') :
    ∀ pair ∈ pairs, pair.2.isReference = false → draft.types.length ≤ pair.1.index := by
  induction h with
  | nil => simp
  | cons h _ ih =>
    refine List.forall_mem_cons.mpr ⟨h.fresh, fun pair hm href => ?_⟩
    exact Nat.le_trans h.length_le (ih pair hm href)

/-- The new types are those of parts of the lowered expressions. -/
theorem made (h : LowersAll named draft pairs draft') :
    MadeFrom named draft'.types draft.types.length
      fun part => ∃ pair ∈ pairs, Within part pair.2 := by
  induction h with
  | nil draft => exact madeFrom_length _ _
  | cons h hrest ih =>
    refine .trans (h.made.imp fun part hw => ?_) hrest.keeps (ih.imp fun part hpart => ?_)
    · exact ⟨_, List.mem_cons_self, hw⟩
    · obtain ⟨pair, hm, hw⟩ := hpart
      exact ⟨pair, List.mem_cons_of_mem _ hm, hw⟩

/-- Members have one id exactly if they are the same reference: the other ones have ids of
their own, above those of names and of members before them. -/
theorem pairwise_same (h : LowersAll named draft pairs draft')
    (hn : Names named draft.types.length) : pairs.Pairwise Same := by
  induction h with
  | nil => exact .nil
  | @cons draft draft₁ draft₂ expr id rest h hrest ih =>
    refine .cons (fun ⟨id', expr'⟩ hm => ?_) (ih (hn.mono h.length_le))
    have hd : Denotes named draft₂.types id expr := h.denotes.mono hrest.keeps
    have hd' : Denotes named draft₂.types id' expr' := hrest.denotes _ hm
    constructor
    · rintro rfl
      cases href' : expr'.isReference with
      | false => exact absurd h.inRange (Nat.not_lt.mpr (hrest.fresh _ hm href'))
      | true =>
        obtain ⟨text', rfl, hp'⟩ := TypeExpr.isReference_iff.mp href'
        have hn' := hd'.get?_of_reference hp'
        cases href : expr.isReference with
        | false => exact absurd (hn.below _ _ hn') (Nat.not_lt.mpr (h.fresh href))
        | true =>
          obtain ⟨text, rfl, hp⟩ := TypeExpr.isReference_iff.mp href
          cases hn.injective _ _ _ (hd.get?_of_reference hp) hn'
          exact ⟨rfl, rfl⟩
    · rintro ⟨rfl, href⟩
      obtain ⟨text, rfl, hp⟩ := TypeExpr.isReference_iff.mp href
      exact Option.some.inj ((hd.get?_of_reference hp).symm.trans (hd'.get?_of_reference hp))

end LowersAll

/-- A type is added for an expression after the types of its parts. -/
theorem lowers_add {type : Ty}
    (happends : ∃ more, draft' = { draft with types := draft.types ++ more })
    (hd : Denotes named (draft'.types ++ [type]) draft'.nextId expr)
    (href : expr.isReference = false)
    (hmade : MadeFrom named draft'.types draft.types.length fun part => Within part expr) :
    Lowers named draft expr (draft'.add type).1 (draft'.add type).2 where
  appends := by
    obtain ⟨more, rfl⟩ := happends
    exact ⟨more ++ [type], by simp [Draft.add]⟩
  denotes := hd
  inRange := by simp [Draft.add, Draft.nextId]
  fresh _ := by
    obtain ⟨more, rfl⟩ := happends
    simp [Draft.add, Draft.nextId]
  made := by
    refine hmade.trans (.append _ _) fun id hle hlt => ⟨expr, .refl, href, ?_⟩
    have hid : id = draft'.nextId := by
      rw [Draft.add, List.length_append, List.length_singleton] at hlt
      cases id
      exact congrArg TypeId.mk (Nat.le_antisymm (Nat.lt_succ_iff.mp hlt) hle)
    exact hid ▸ hd

/-- Union members are lowered one after the other. -/
theorem lowersAll_of_lowerMembers {members : List TypeExpr} {index : Nat} {location : String}
    {ids : List TypeId} (hn : Names named draft.types.length)
    (hmembers : ∀ member ∈ members, ∀ {id draft draft' location},
      Names named draft.types.length →
      lowerExpr named member location draft = .ok (id, draft') →
      Lowers named draft member id draft')
    (h : lowerMembers named members index location draft = .ok (ids, draft')) :
    ∃ pairs, LowersAll named draft pairs draft' ∧ pairs.map Prod.fst = ids
      ∧ pairs.map Prod.snd = members := by
  induction members generalizing index draft ids with
  | nil =>
    cases h
    exact ⟨[], .nil _, rfl, rfl⟩
  | cons member rest ih =>
    rw [List.forall_mem_cons] at hmembers
    obtain ⟨⟨id, draft₁⟩, hfirst, h⟩ := bind_eq_ok.mp h
    obtain ⟨⟨others, draft₂⟩, hrest, h⟩ := bind_eq_ok.mp h
    cases h
    have hlowers := hmembers.1 hn hfirst
    obtain ⟨pairs, hall, rfl, rfl⟩ := ih (hn.mono hlowers.length_le) hmembers.2 hrest
    exact ⟨(id, member) :: pairs, .cons hlowers hall, rfl, rfl⟩

/-- Lowering an expression that has no unknown name adds its types. -/
theorem lowers_of_lowerExpr {location : String} (hn : Names named draft.types.length)
    (h : lowerExpr named expr location draft = .ok (id, draft')) :
    Lowers named draft expr id draft' := by
  induction expr using TypeExpr.induct generalizing location draft id draft' with
  | ref text =>
    rw [lowerExpr] at h
    cases hp : primitive? text with
    | some type =>
      rw [hp] at h
      cases h
      refine lowers_add ⟨[], by simp⟩ (.primitive List.getElem?_concat_length hp) ?_
        (madeFrom_length _ _)
      rw [TypeExpr.isReference, hp, Option.isNone_some]
    | none =>
      rw [hp] at h
      dsimp only at h
      cases hid : Entries.get? text named with
      | none =>
        rw [hid] at h
        cases h
      | some found =>
        rw [hid] at h
        cases h
        refine ⟨⟨[], by simp⟩, .reference hp hid, hn.below _ _ hid, fun href => ?_,
          madeFrom_length _ _⟩
        rw [TypeExpr.isReference, hp] at href
        cases href
  | array items ih =>
    obtain ⟨⟨inner, draft₁⟩, hitems, h⟩ := bind_eq_ok.mp h
    cases h
    have hlowers := ih hn hitems
    exact lowers_add hlowers.appends
      (.array List.getElem?_concat_length (hlowers.denotes.mono (.append _ _))) rfl
      (hlowers.made.imp fun _ => .items)
  | map values ih =>
    obtain ⟨⟨inner, draft₁⟩, hvalues, h⟩ := bind_eq_ok.mp h
    cases h
    have hlowers := ih hn hvalues
    exact lowers_add hlowers.appends
      (.map List.getElem?_concat_length (hlowers.denotes.mono (.append _ _))) rfl
      (hlowers.made.imp fun _ => .values)
  | union members ih =>
    obtain ⟨⟨ids, draft₁⟩, hmembers, h⟩ := bind_eq_ok.mp h
    cases h
    obtain ⟨pairs, hall, rfl, rfl⟩ := lowersAll_of_lowerMembers hn ih hmembers
    refine lowers_add hall.appends (.union List.getElem?_concat_length
      (fun pair hm => (hall.denotes pair hm).mono (.append _ _)) (hall.pairwise_same hn)) rfl
      (hall.made.imp fun part hpart => ?_)
    obtain ⟨pair, hm, hw⟩ := hpart
    exact .member (List.mem_map_of_mem hm) hw
  | transformed kind =>
    cases h
    exact lowers_add ⟨[], by simp⟩ (.transformed List.getElem?_concat_length) rfl
      (madeFrom_length _ _)

/-! ## Lists of expressions -/

section Each

variable {α β : Type} (place : α → String) (written : α → TypeExpr) (make : α → TypeId → β)

/-- Lower the expressions of some things in order, each at its place, and make something of
every id. -/
def lowerEach (named : List (String × TypeId)) :
    List α → Draft → Except LoweringError (List β × Draft)
  | [], draft => .ok ([], draft)
  | a :: rest, draft => do
    let (id, draft) ← lowerExpr named (written a) (place a) draft
    let (made, draft) ← lowerEach named rest draft
    return (make a id :: made, draft)

variable {place written make}

/-- The first unknown name in any of the expressions makes all of them fail. -/
theorem failure?_lowerEach (list : List α) (draft : Draft) :
    failure? (lowerEach place written make named list draft)
      = unknownIn named (list.flatMap fun a => (written a).mentionsAt (place a)) := by
  induction list generalizing draft with
  | nil => rfl
  | cons a rest ih =>
    rw [lowerEach, List.flatMap_cons, unknownIn_append, ← failure?_lowerExpr _ _ draft]
    refine failure?_bind fun ⟨id, draft'⟩ _ => ?_
    rw [← ih draft']
    exact failure?_bind_of_ok fun _ => ⟨_, rfl⟩

/-- Expressions are lowered one after the other, and each has the id of what is made of it. -/
theorem lowersAll_of_lowerEach {list : List α} {made : List β}
    (hn : Names named draft.types.length)
    (h : lowerEach place written make named list draft = .ok (made, draft')) :
    ∃ pairs, LowersAll named draft pairs draft' ∧ pairs.map Prod.snd = list.map written
      ∧ List.Forall₂ (fun b a => ∃ id, b = make a id ∧ Denotes named draft'.types id (written a))
        made list := by
  induction list generalizing draft made with
  | nil =>
    cases h
    exact ⟨[], .nil _, rfl, .nil⟩
  | cons a rest ih =>
    obtain ⟨⟨id, draft₁⟩, hfirst, h⟩ := bind_eq_ok.mp h
    obtain ⟨⟨others, draft₂⟩, hrest, h⟩ := bind_eq_ok.mp h
    cases h
    have hlowers := lowers_of_lowerExpr hn hfirst
    obtain ⟨pairs, hall, hexprs, hmade⟩ := ih (hn.mono hlowers.length_le) hrest
    refine ⟨(id, written a) :: pairs, .cons hlowers hall, ?_, .cons ⟨id, rfl, ?_⟩ hmade⟩
    · rw [List.map_cons, List.map_cons, hexprs]
    · exact hlowers.denotes.mono hall.keeps

end Each

end GraphDocument

end Hydration
