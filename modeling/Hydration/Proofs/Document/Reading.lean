import Hydration.Proofs.Document.Lowering

/-!
# Reading lowered expressions

What an id that denotes an expression is read as, and when its type is sound. A reference
that is repeated inside a union has one id, so the union has one member for it; everything
else in the union has ids of its own.
-/

namespace Hydration

/-- What a schema asks for keeps its name. -/
theorem StringKind.name_ofName (name : String) : (ofName name).name = name := by
  unfold ofName TransformKind.ofName?
  split
  · rename_i kind hkind
    split at hkind <;> cases hkind <;> rfl
  · rfl

namespace OrderedSet

variable {α : Type} [DecidableEq α]

theorem insert_of_mem {s : OrderedSet α} {a : α} (h : a ∈ s.toList) : s.insert a = s := by
  rw [insert, dif_pos h]

/-- A new element comes last. -/
theorem toList_insert_of_notMem {s : OrderedSet α} {a : α} (h : a ∉ s.toList) :
    (s.insert a).toList = s.toList ++ [a] := by
  rw [insert, dif_neg h]

/-- The set of a list has the elements of the list. -/
theorem mem_ofList {elements : List α} {a : α} : a ∈ (ofList elements).toList ↔ a ∈ elements := by
  suffices hfold : ∀ s : OrderedSet α,
      a ∈ (elements.foldl insert s).toList ↔ a ∈ s.toList ∨ a ∈ elements from
    (hfold empty).trans (or_iff_right List.not_mem_nil)
  induction elements with
  | nil => simp
  | cons b rest ih =>
    intro s
    rw [List.foldl_cons, ih, mem_insert, List.mem_cons, or_assoc]

end OrderedSet

/-- The kind of a named type. -/
def NamedType.kind : NamedType → TypeKind
  | classDoc _ => .classKind
  | enumDoc _ => .enumKind

namespace GraphDocument

open TypeGraph (TypeAt)
open TypeExpr (primitive? ReadsAs collapse collapseAll dropRepeated)

/-- The kind of an expression. -/
def kindOf (doc : GraphDocument) : TypeExpr → Option TypeKind
  | .name text =>
    match primitive? text with
    | some type => some type.kind
    | none => (doc.types.get? text).map NamedType.kind
  | .array _ => some .array
  | .map _ => some .map
  | .union _ => some .union
  | .transformed _ => some .string

/-- Expressions cannot be the members of a union. -/
inductive Malformed (doc : GraphDocument) (members : List TypeExpr) : Prop where
  /-- There are none. -/
  | empty (h : members = [])
  /-- One of them is a union. -/
  | nested {inner : List TypeExpr} (h : .union inner ∈ members)
  /-- Two of them are of one kind, and they are not the same reference. -/
  | clash {a b : TypeExpr} (h : [a, b].Sublist members) (hk : doc.kindOf a = doc.kindOf b)
      (hne : ¬(a = b ∧ a.isReference = true))

/-- A type is the one that a document declares under a name. -/
inductive NamedAt (types : List Ty) (name : String) (id : TypeId) : NamedType → Prop where
  /-- A class of this name. -/
  | classDoc {fields : OrderedMap String FieldDoc} {shape : ClassType}
      (h : TypeAt types id (.classType shape)) (hs : shape.name = name) :
      NamedAt types name id (.classDoc fields)
  /-- An enum of this name with these cases, each once. -/
  | enumDoc {cases : List String}
      (h : TypeAt types id (.enumType ⟨name, OrderedSet.ofList cases⟩)) :
      NamedAt types name id (.enumDoc cases)

/-- Names have the ids of the types that the document declares under them. -/
def HoldsNamed (doc : GraphDocument) (named : List (String × TypeId)) (types : List Ty) : Prop :=
  ∀ name id, Entries.get? name named = some id →
    ∃ type, doc.types.get? name = some type ∧ NamedAt types name id type

variable {doc : GraphDocument} {named : List (String × TypeId)} {types : List Ty} {id : TypeId}
  {expr : TypeExpr} {pairs : List (TypeId × TypeExpr)}

/-- More types change nothing about the named ones. -/
theorem HoldsNamed.append (h : doc.HoldsNamed named types) (more : List Ty) :
    doc.HoldsNamed named (types ++ more) := by
  intro name id hid
  obtain ⟨type, htype, hat⟩ := h name id hid
  refine ⟨type, htype, ?_⟩
  cases hat with
  | classDoc ht hs => exact .classDoc (ht.append more) hs
  | enumDoc ht => exact .enumDoc (ht.append more)

/-- Nor do other fields of a class. -/
theorem HoldsNamed.set_class (h : doc.HoldsNamed named types) {shape : ClassType}
    (hclass : TypeAt types id (.classType shape)) (fields : OrderedMap String Field) :
    doc.HoldsNamed named (types.set id.index (.classType ⟨shape.name, fields⟩)) := by
  intro name other hother
  obtain ⟨type, htype, hat⟩ := h name other hother
  refine ⟨type, htype, ?_⟩
  cases hat with
  | classDoc ht hs =>
    by_cases heq : other = id
    · subst heq
      cases ht.symm.trans hclass
      exact .classDoc (hclass.set _) hs
    · exact .classDoc ((TypeGraph.typeAt_set_of_ne heq).mpr ht) hs
  | enumDoc ht => exact .enumDoc (Keeps.set_class hclass _ _ _ ht nofun)

/-! ## Reading back -/

/-- The ids and the references of the members so far. -/
structure Seen (front : List (TypeId × TypeExpr)) (ids : OrderedSet TypeId) (refs : List TypeExpr) :
    Prop where
  /-- The ids are those of the members. -/
  ids : ∀ id, id ∈ ids.toList ↔ ∃ expr, (id, expr) ∈ front
  /-- The references are those among the members. -/
  refs : ∀ expr, expr ∈ refs ↔ expr.isReference = true ∧ ∃ id, (id, expr) ∈ front

namespace Seen

variable {front : List (TypeId × TypeExpr)} {ids : OrderedSet TypeId} {refs refs' : List TypeExpr}

/-- An id is known exactly if its member is a reference that was made before. -/
theorem mem_ids_iff (h : Seen front ids refs) (hs : ∀ other ∈ front, Same other (id, expr)) :
    id ∈ ids.toList ↔ expr.isReference = true ∧ expr ∈ refs := by
  rw [h.ids, h.refs]
  constructor
  · rintro ⟨other, hm⟩
    obtain ⟨rfl, href⟩ := (hs _ hm).mp rfl
    exact ⟨href, href, id, hm⟩
  · rintro ⟨href, -, other, hm⟩
    have hid : other = id := (hs _ hm).mpr ⟨rfl, href⟩
    exact ⟨expr, hid ▸ hm⟩

/-- After one more member its id is known, and so is its reference. -/
theorem next (h : Seen front ids refs)
    (hrefs : ∀ other, other ∈ refs' ↔ other ∈ refs ∨ other = expr ∧ expr.isReference = true) :
    Seen (front ++ [(id, expr)]) (ids.insert id) refs' where
  ids other := by
    rw [OrderedSet.mem_insert, h.ids]
    simp [exists_or]
  refs other := by
    rw [hrefs, h.refs]
    simp only [List.mem_append, List.mem_singleton, Prod.mk.injEq, exists_or, exists_eq_left,
      and_or_left]
    exact or_congr_right
      ⟨fun ⟨heq, href⟩ => ⟨heq ▸ href, heq⟩, fun ⟨href, heq⟩ => ⟨heq, heq ▸ href⟩⟩

end Seen

/-- The ids that are new, each once, are those of the members without repeated references: a member
is dropped exactly if its id is. -/
theorem exists_kept_from {front rest : List (TypeId × TypeExpr)} {ids : OrderedSet TypeId}
    {refs : List TypeExpr} (h : Seen front ids refs) (hs : (front ++ rest).Pairwise Same) :
    ∃ kept, kept ⊆ rest
      ∧ ((rest.map Prod.fst).foldl OrderedSet.insert ids).toList = ids.toList ++ kept.map Prod.fst
      ∧ dropRepeated refs (rest.map Prod.snd) = kept.map Prod.snd := by
  induction rest generalizing front ids refs with
  | nil => exact ⟨[], List.Subset.refl _, (List.append_nil _).symm, rfl⟩
  | cons pair rest ih =>
    obtain ⟨id, expr⟩ := pair
    have hknown := h.mem_ids_iff fun other hm =>
      (List.pairwise_append.mp hs).2.2 other hm (id, expr) List.mem_cons_self
    rw [List.append_cons] at hs
    simp only [List.map_cons, List.foldl_cons, dropRepeated]
    by_cases hrepeated : expr.isReference = true ∧ expr ∈ refs
    · have hold : id ∈ ids.toList := hknown.mpr hrepeated
      have hrefs : ∀ other, other ∈ refs
          ↔ other ∈ refs ∨ other = expr ∧ expr.isReference = true := fun other =>
        (or_iff_left_of_imp fun heq => heq.1 ▸ hrepeated.2).symm
      obtain ⟨kept, hsub, hids, hrest⟩ := ih (h.next hrefs) hs
      rw [OrderedSet.insert_of_mem hold] at hids ⊢
      rw [if_pos hrepeated.1, if_pos hrepeated.2]
      exact ⟨kept, List.subset_cons_of_subset _ hsub, hids, hrest⟩
    · have hnew : id ∉ ids.toList := hknown.not.mpr hrepeated
      have hkeep : ∀ {refs'}, (∀ other, other ∈ refs'
            ↔ other ∈ refs ∨ other = expr ∧ expr.isReference = true) →
          ∃ kept, kept ⊆ (id, expr) :: rest
            ∧ ((rest.map Prod.fst).foldl OrderedSet.insert (ids.insert id)).toList
              = ids.toList ++ kept.map Prod.fst
            ∧ expr :: dropRepeated refs' (rest.map Prod.snd) = kept.map Prod.snd := by
        intro refs' hrefs
        obtain ⟨kept, hsub, hids, hrest⟩ := ih (h.next hrefs) hs
        refine ⟨(id, expr) :: kept, List.cons_subset_cons _ hsub, ?_, ?_⟩
        · rw [hids, OrderedSet.toList_insert_of_notMem hnew, List.map_cons, List.append_assoc,
            List.singleton_append]
        · rw [hrest, List.map_cons]
      split
      · rename_i href
        rw [if_neg fun hm => hrepeated ⟨href, hm⟩]
        exact hkeep fun other => by rw [List.mem_cons, or_comm, href, and_iff_left rfl]
      · rename_i href
        exact hkeep fun other => (or_iff_left fun heq => href heq.2).symm

/-- The ids of a union, each once, are those of its members without repeated references. -/
theorem exists_kept (hs : pairs.Pairwise Same) :
    ∃ kept, kept ⊆ pairs
      ∧ (OrderedSet.ofList (pairs.map Prod.fst)).toList = kept.map Prod.fst
      ∧ dropRepeated [] (pairs.map Prod.snd) = kept.map Prod.snd := by
  have hempty : Seen [] OrderedSet.empty [] := ⟨by simp [OrderedSet.empty], by simp⟩
  exact exists_kept_from hempty hs

/-- An id that denotes an expression is read as that expression. -/
theorem Denotes.readsAs (hn : doc.HoldsNamed named types) (h : Denotes named types id expr) :
    ReadsAs types id expr.collapse := by
  induction h with
  | primitive h hp => exact .primitive h hp
  | reference hp hid =>
    obtain ⟨type, -, hat⟩ := hn _ _ hid
    cases hat with
    | classDoc h hs =>
      subst hs
      exact .classType h hp
    | enumDoc h => exact .enumType h hp
  | @transformed id kind h =>
    have hread : ReadsAs types id (.transformed (StringKind.ofName kind).name) := .transformed h
    rwa [StringKind.name_ofName] at hread
  | array h _ ih => exact .array h ih
  | map h _ ih => exact .map h ih
  | union h _ hs ih =>
    obtain ⟨kept, hsub, hids, hexprs⟩ := exists_kept hs
    rw [collapse, TypeExpr.collapseAll_eq, TypeExpr.dropRepeated_map_collapse, hexprs]
    refine .union h ?_
    rw [hids, List.map_map, List.forall₂_map_left_iff, List.forall₂_map_right_iff,
      List.forall₂_same]
    exact fun pair hm => ih pair (hsub hm)

/-- What an id that denotes an expression is read as is that expression and no other one. -/
theorem Denotes.readsAs_iff (hn : doc.HoldsNamed named types) (h : Denotes named types id expr)
    {read : TypeExpr} : ReadsAs types id read ↔ read = expr.collapse := by
  constructor
  · exact fun hread => hread.unique (h.readsAs hn)
  · rintro rfl
    exact h.readsAs hn

/-! ## Kinds and soundness -/

/-- An id that denotes an expression is that of a type of its kind. -/
theorem Denotes.exists_kind (hn : doc.HoldsNamed named types) (h : Denotes named types id expr) :
    ∃ type, TypeAt types id type ∧ doc.kindOf expr = some type.kind := by
  cases h with
  | primitive h hp => exact ⟨_, h, by rw [kindOf, hp]⟩
  | reference hp hid =>
    obtain ⟨type, hdoc, hat⟩ := hn _ _ hid
    rw [kindOf, hp]
    dsimp only
    rw [hdoc]
    cases hat with
    | classDoc h _ => exact ⟨_, h, rfl⟩
    | enumDoc h => exact ⟨_, h, rfl⟩
  | transformed h => exact ⟨_, h, rfl⟩
  | array h _ => exact ⟨_, h, rfl⟩
  | map h _ => exact ⟨_, h, rfl⟩
  | union h _ _ => exact ⟨_, h, rfl⟩

theorem Denotes.lt (hn : doc.HoldsNamed named types) (h : Denotes named types id expr) :
    id.index < types.length := by
  obtain ⟨type, ht, -⟩ := h.exists_kind hn
  exact ht.lt

/-- What the type of an expression refers to is in range. -/
theorem Denotes.references_lt (hn : doc.HoldsNamed named types) (h : Denotes named types id expr)
    (href : expr.isReference = false) {type : Ty} (ht : TypeAt types id type) :
    ∀ next ∈ type.references, next.index < types.length := by
  intro next hnext
  cases h with
  | primitive h hp =>
    cases ht.symm.trans h
    unfold primitive? at hp
    split at hp <;> cases hp <;> cases hnext
  | reference hp hid =>
    rw [TypeExpr.isReference, hp] at href
    cases href
  | transformed h =>
    cases ht.symm.trans h
    cases hnext
  | array h hi =>
    cases ht.symm.trans h
    rw [List.mem_singleton.mp hnext]
    exact hi.lt hn
  | map h hv =>
    cases ht.symm.trans h
    rw [List.mem_singleton.mp hnext]
    exact hv.lt hn
  | union h hm _ =>
    cases ht.symm.trans h
    obtain ⟨pair, hp, rfl⟩ := List.mem_map.mp (OrderedSet.mem_ofList.mp hnext)
    exact (hm pair hp).lt hn

/-- The kind of the type is that of the expression. -/
theorem Denotes.kindOf_eq (hn : doc.HoldsNamed named types) (h : Denotes named types id expr)
    {type : Ty} (ht : TypeAt types id type) : doc.kindOf expr = some type.kind := by
  obtain ⟨found, hfound, hk⟩ := h.exists_kind hn
  cases ht.symm.trans hfound
  exact hk

/-- Only a union is of the kind of unions. -/
theorem exists_union_of_kindOf (h : doc.kindOf expr = some .union) :
    ∃ members, expr = .union members := by
  cases expr with
  | union members => exact ⟨members, rfl⟩
  | name text =>
    rw [kindOf] at h
    split at h
    · rename_i type hp
      unfold primitive? at hp
      split at hp <;> cases hp <;> cases h
    · obtain ⟨type, -, hk⟩ := Option.map_eq_some_iff.mp h
      cases type <;> cases hk
  | _ => cases h

/-- A union of ids is sound exactly if the members that they denote are well formed. -/
theorem sound_union_iff (hn : doc.HoldsNamed named types)
    (hr : ∀ next ∈ (OrderedSet.ofList (pairs.map Prod.fst)).toList, next.index < types.length)
    (hm : ∀ pair ∈ pairs, Denotes named types pair.1 pair.2) (hs : pairs.Pairwise Same) :
    (Ty.union (OrderedSet.ofList (pairs.map Prod.fst))).Sound types.length (TypeAt types)
      ↔ ¬doc.Malformed (pairs.map Prod.snd) := by
  have hmem : ∀ {id}, id ∈ (OrderedSet.ofList (pairs.map Prod.fst)).toList
      ↔ ∃ pair ∈ pairs, pair.1 = id := OrderedSet.mem_ofList.trans List.mem_map
  constructor
  · intro hsound hmalformed
    cases hmalformed with
    | empty h =>
      rw [List.map_eq_nil_iff] at h
      subst h
      exact hsound.nonempty _ rfl rfl
    | nested h =>
      obtain ⟨pair, hp, hunion⟩ := List.mem_map.mp h
      have hd := hm pair hp
      rw [hunion] at hd
      cases hd with
      | union ht _ _ => exact hsound.flat _ rfl _ (hmem.mpr ⟨pair, hp, rfl⟩) _ ht
    | clash h hk hne =>
      obtain ⟨found, hsub, hfound⟩ := List.sublist_map_iff.mp h
      obtain ⟨p, q, rfl⟩ : ∃ p q, found = [p, q] := by
        match found, hfound with
        | [p, q], _ => exact ⟨p, q, rfl⟩
      obtain ⟨rfl, rfl⟩ : _ = p.2 ∧ _ = q.2 := by simpa using hfound
      have hids : p.1 ≠ q.1 := fun heq =>
        hne ((List.pairwise_iff_forall_sublist.mp hs hsub).mp heq)
      have hp : p ∈ pairs := hsub.subset (by simp)
      have hq : q ∈ pairs := hsub.subset (by simp)
      obtain ⟨typeP, htP, hkP⟩ := (hm p hp).exists_kind hn
      obtain ⟨typeQ, htQ, hkQ⟩ := (hm q hq).exists_kind hn
      refine hsound.apart _ rfl _ (hmem.mpr ⟨p, hp, rfl⟩) _ (hmem.mpr ⟨q, hq, rfl⟩) hids
        _ _ htP htQ ?_
      rw [hkP, hkQ] at hk
      exact Option.some.inj hk
  · intro hwell
    have hapart : pairs.Pairwise fun p q => p.1 ≠ q.1 → doc.kindOf p.2 ≠ doc.kindOf q.2 := by
      refine List.pairwise_iff_forall_sublist.mpr fun {p q} hsub hids hk => hwell ?_
      exact .clash (hsub.map Prod.snd) hk fun heq =>
        hids ((List.pairwise_iff_forall_sublist.mp hs hsub).mpr heq)
    refine ⟨hr, ?_, ?_, ?_⟩
    · rintro _ ⟨⟩ hnil
      cases hpairs : pairs with
      | nil => exact hwell (.empty (by rw [hpairs, List.map_nil]))
      | cons pair rest =>
        have hfirst := hmem.mpr ⟨pair, hpairs ▸ List.mem_cons_self, rfl⟩
        rw [hnil] at hfirst
        cases hfirst
    · rintro _ ⟨⟩ member hmember inner ht
      obtain ⟨pair, hp, rfl⟩ := hmem.mp hmember
      obtain ⟨members, hunion⟩ := exists_union_of_kindOf ((hm pair hp).kindOf_eq hn ht)
      exact hwell (.nested (List.mem_map.mpr ⟨pair, hp, hunion⟩))
    · rintro _ ⟨⟩ a ha b hb hne typeA typeB htA htB hk
      obtain ⟨p, hp, rfl⟩ := hmem.mp ha
      obtain ⟨q, hq, rfl⟩ := hmem.mp hb
      have hsymm : Std.Symm fun p q : TypeId × TypeExpr =>
          p.1 ≠ q.1 → doc.kindOf p.2 ≠ doc.kindOf q.2 := ⟨fun _ _ h hids => (h hids.symm).symm⟩
      refine hapart.forall hp hq (fun heq => hne (heq ▸ rfl)) hne ?_
      rw [(hm p hp).kindOf_eq hn htA, (hm q hq).kindOf_eq hn htB, hk]

/-- The type of an expression that is no reference is sound unless the expression is a
malformed union. -/
theorem Denotes.sound_iff (hn : doc.HoldsNamed named types) (h : Denotes named types id expr)
    (href : expr.isReference = false) {type : Ty} (ht : TypeAt types id type) :
    type.Sound types.length (TypeAt types)
      ↔ ∀ members, expr = .union members → ¬doc.Malformed members := by
  have hr := h.references_lt hn href ht
  by_cases hunion : ∃ members, expr = .union members
  · obtain ⟨members, rfl⟩ := hunion
    cases h with
    | union h hm hs =>
      cases ht.symm.trans h
      rw [sound_union_iff hn hr hm hs]
      simp
  · refine iff_of_true (Ty.sound_of_not_union ?_ hr) fun members heq => absurd ⟨members, heq⟩ hunion
    rintro _ rfl
    exact hunion (exists_union_of_kindOf (h.kindOf_eq hn ht))

end GraphDocument

end Hydration
