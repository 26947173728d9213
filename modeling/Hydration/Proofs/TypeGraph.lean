import Hydration.TypeGraph.Shape
import Mathlib.Data.List.Nodup
import Mathlib.Data.List.Perm.Basic
import Mathlib.Data.List.Range

/-!
# Classes and enums of a graph

The classes and the enums of a graph are the types of these kinds, each once
and in the order of their positions. Together they are the declared types, the
ones with a display name.
-/

namespace Hydration

/-- Elements that are kept with a value are kept in their order. -/
theorem keys_filterMap_sublist {α β : Type} (f : α → Option β) (list : List α) :
    ((list.filterMap fun a => (f a).map fun b => (a, b)).map Prod.fst).Sublist list := by
  induction list with
  | nil => exact List.Sublist.slnil
  | cons a rest ih =>
    rw [List.filterMap_cons]
    cases f a with
    | none => exact ih.cons a
    | some b => exact ih.cons_cons a

/-- An element is kept with the value that it has. -/
theorem mem_filterMap_iff {α β : Type} {f : α → Option β} {list : List α} {entry : α × β} :
    entry ∈ (list.filterMap fun a => (f a).map fun b => (a, b))
      ↔ entry.1 ∈ list ∧ f entry.1 = some entry.2 := by
  obtain ⟨key, value⟩ := entry
  rw [List.mem_filterMap]
  constructor
  · rintro ⟨a, ha, hf⟩
    obtain ⟨b, hb, hpair⟩ := Option.map_eq_some_iff.mp hf
    cases hpair
    exact ⟨ha, hb⟩
  · rintro ⟨ha, hf⟩
    exact ⟨key, ha, by rw [hf, Option.map_some]⟩

namespace TypeGraph

/-- The classes and enums among some types, with their display names. -/
def declaredAmong (graph : TypeGraph) (ids : List TypeId) : List (TypeId × String) :=
  ids.filterMap fun id => (graph.displayName? id).map fun display => (id, display)

/-- The classes and enums with their display names, in declared order. -/
def declared (graph : TypeGraph) : List (TypeId × String) := graph.declaredAmong graph.ids

/-- The kind and the display name of a class or enum. -/
def outline? (graph : TypeGraph) (id : TypeId) : Option (TypeKind × String) :=
  match graph.get? id with
  | some (.classType shape) => some (.classKind, shape.name)
  | some (.enumType shape) => some (.enumKind, shape.name)
  | _ => none

/-- The kinds and display names of the classes and enums, in declared order. -/
def outline (graph : TypeGraph) : List (TypeKind × String) := graph.ids.filterMap graph.outline?

/-- The texts at the places of a kind. -/
def textsOfKind (kind : TypeKind) (outline : List (TypeKind × String)) (texts : List String) :
    List String :=
  (outline.zip texts).filterMap fun entry => if entry.1.1 = kind then some entry.2 else none

variable {graph : TypeGraph}

/-- A type without a display name is not declared. -/
theorem declaredAmong_cons_none {id : TypeId} {ids : List TypeId}
    (h : graph.displayName? id = none) :
    graph.declaredAmong (id :: ids) = graph.declaredAmong ids := by
  rw [declaredAmong, List.filterMap_cons, h, Option.map_none, declaredAmong]

/-- A type with a display name is declared in its place. -/
theorem declaredAmong_cons_some {id : TypeId} {ids : List TypeId}
    {display : String} (h : graph.displayName? id = some display) :
    graph.declaredAmong (id :: ids) = (id, display) :: graph.declaredAmong ids := by
  rw [declaredAmong, List.filterMap_cons, h, Option.map_some, declaredAmong]

theorem mem_ids_of_get? {id : TypeId} {type : Ty} (h : graph.get? id = some type) :
    id ∈ graph.ids := by
  have hlt : id.index < graph.types.length := (List.getElem?_eq_some_iff.mp h).1
  exact List.mem_map.mpr ⟨id.index, List.mem_range.mpr hlt, rfl⟩

theorem nodup_ids (graph : TypeGraph) : graph.ids.Nodup :=
  List.nodup_range.map fun _ _ h => congrArg TypeId.index h

/-- There is a class under an id exactly if its type is one. -/
theorem class?_eq_some_iff {id : TypeId} {shape : ClassType} :
    graph.class? id = some shape ↔ graph.get? id = some (.classType shape) := by
  unfold class?
  split <;> simp_all

theorem enum?_eq_some_iff {id : TypeId} {shape : EnumType} :
    graph.enum? id = some shape ↔ graph.get? id = some (.enumType shape) := by
  unfold enum?
  split <;> simp_all

/-- The classes are the types of this kind. -/
theorem mem_classes_iff {entry : TypeId × ClassType} :
    entry ∈ graph.classes ↔ graph.get? entry.1 = some (.classType entry.2) := by
  rw [classes, mem_filterMap_iff, class?_eq_some_iff]
  exact ⟨And.right, fun h => ⟨mem_ids_of_get? h, h⟩⟩

/-- The enums are the types of this kind. -/
theorem mem_enums_iff {entry : TypeId × EnumType} :
    entry ∈ graph.enums ↔ graph.get? entry.1 = some (.enumType entry.2) := by
  rw [enums, mem_filterMap_iff, enum?_eq_some_iff]
  exact ⟨And.right, fun h => ⟨mem_ids_of_get? h, h⟩⟩

theorem nodup_classes (graph : TypeGraph) : (graph.classes.map Prod.fst).Nodup :=
  graph.nodup_ids.sublist (keys_filterMap_sublist _ _)

theorem nodup_enums (graph : TypeGraph) : (graph.enums.map Prod.fst).Nodup :=
  graph.nodup_ids.sublist (keys_filterMap_sublist _ _)

/-- No type is declared twice. -/
theorem nodup_declared (graph : TypeGraph) : (graph.declared.map Prod.fst).Nodup :=
  graph.nodup_ids.sublist (keys_filterMap_sublist _ _)

/-- The declared types are the classes and the enums. -/
theorem mem_declared_iff {id : TypeId} :
    id ∈ graph.declared.map Prod.fst
      ↔ id ∈ graph.classes.map Prod.fst ∨ id ∈ graph.enums.map Prod.fst := by
  constructor
  · intro h
    obtain ⟨⟨id, display⟩, hentry, rfl⟩ := List.mem_map.mp h
    have hd := (mem_filterMap_iff.mp hentry).2
    dsimp only [displayName?] at hd
    split at hd
    · rename_i shape hshape
      exact Or.inl (List.mem_map.mpr ⟨(id, shape), mem_classes_iff.mpr hshape, rfl⟩)
    · rename_i shape hshape
      exact Or.inr (List.mem_map.mpr ⟨(id, shape), mem_enums_iff.mpr hshape, rfl⟩)
    · cases hd
  · rintro (h | h)
    · obtain ⟨⟨id, shape⟩, hentry, rfl⟩ := List.mem_map.mp h
      have hshape := mem_classes_iff.mp hentry
      refine List.mem_map.mpr ⟨(id, shape.name), mem_filterMap_iff.mpr ?_, rfl⟩
      exact ⟨mem_ids_of_get? hshape, by rw [displayName?, hshape]⟩
    · obtain ⟨⟨id, shape⟩, hentry, rfl⟩ := List.mem_map.mp h
      have hshape := mem_enums_iff.mp hentry
      refine List.mem_map.mpr ⟨(id, shape.name), mem_filterMap_iff.mpr ?_, rfl⟩
      exact ⟨mem_ids_of_get? hshape, by rw [displayName?, hshape]⟩

/-- No type is a class and an enum. -/
theorem disjoint_classes_enums (graph : TypeGraph) :
    (graph.classes.map Prod.fst).Disjoint (graph.enums.map Prod.fst) := by
  intro id hc he
  obtain ⟨class', hclass, rfl⟩ := List.mem_map.mp hc
  obtain ⟨enum, henum, heq⟩ := List.mem_map.mp he
  have hshape := mem_enums_iff.mp henum
  rw [heq, mem_classes_iff.mp hclass] at hshape
  cases hshape

/-- The classes and then the enums are the declared types in another order. -/
theorem perm_declared (graph : TypeGraph) :
    (graph.classes.map Prod.fst ++ graph.enums.map Prod.fst).Perm
      (graph.declared.map Prod.fst) := by
  have hn := graph.nodup_classes.append graph.nodup_enums graph.disjoint_classes_enums
  refine (List.perm_ext_iff_of_nodup hn graph.nodup_declared).mpr fun id => ?_
  rw [List.mem_append, mem_declared_iff]

/-- The display name of a type is that of its outline. -/
theorem displayName?_eq (graph : TypeGraph) (id : TypeId) :
    graph.displayName? id = (graph.outline? id).map Prod.snd := by
  unfold displayName? outline?
  cases graph.get? id with
  | none => rfl
  | some type => cases type <;> rfl

/-- The outline says which types are classes. -/
theorem isSome_class?_iff {id : TypeId} :
    (graph.class? id).isSome ↔ ∃ display, graph.outline? id = some (.classKind, display) := by
  unfold class? outline?
  cases graph.get? id with
  | none => simp
  | some type => cases type <;> simp

/-- The outline says which types are enums. -/
theorem isSome_enum?_iff {id : TypeId} :
    (graph.enum? id).isSome ↔ ∃ display, graph.outline? id = some (.enumKind, display) := by
  unfold enum? outline?
  cases graph.get? id with
  | none => simp
  | some type => cases type <;> simp

/-- The display names of the declared types are those of the outline. -/
theorem displays_declared (graph : TypeGraph) :
    graph.declared.map Prod.snd = graph.outline.map Prod.snd := by
  rw [declared, declaredAmong, outline, List.map_filterMap, List.map_filterMap]
  refine congrFun (congrArg _ (funext fun id => ?_)) _
  rw [displayName?_eq, Option.map_map, Option.map_map]
  rfl

/-- The texts of the declared types at the places of a kind are those of the types
of this kind. -/
theorem textsOfKind_declaredAmong (graph : TypeGraph) {β : Type} {kind : TypeKind}
    {shape? : TypeId → Option β}
    (hkind : ∀ id, (shape? id).isSome ↔ ∃ display, graph.outline? id = some (kind, display))
    (text : TypeId → String) (ids : List TypeId) :
    textsOfKind kind (ids.filterMap graph.outline?)
        ((graph.declaredAmong ids).map fun entry => text entry.1)
      = (ids.filterMap fun id => (shape? id).map fun shape => (id, shape)).map
        fun entry => text entry.1 := by
  induction ids with
  | nil => rfl
  | cons id rest ih =>
    have hd := graph.displayName?_eq id
    cases ho : graph.outline? id with
    | none =>
      have hs : shape? id = none := by
        rw [← Option.not_isSome_iff_eq_none, hkind, ho]
        simp
      rw [ho, Option.map_none] at hd
      rw [declaredAmong_cons_none hd, List.filterMap_cons, ho, List.filterMap_cons, hs]
      exact ih
    | some entry =>
      rw [ho, Option.map_some] at hd
      rw [declaredAmong_cons_some hd, List.filterMap_cons, ho, List.filterMap_cons]
      by_cases hk : entry.1 = kind
      · obtain ⟨shape, hs⟩ := Option.isSome_iff_exists.mp ((hkind id).mpr ⟨entry.2, hk ▸ ho⟩)
        simp only [textsOfKind, List.map_cons, List.zip_cons_cons, List.filterMap_cons, if_pos hk,
          hs, Option.map_some] at ih ⊢
        rw [ih]
      · have hs : shape? id = none := by
          rw [← Option.not_isSome_iff_eq_none, hkind, ho]
          rintro ⟨display, heq⟩
          exact hk (congrArg Prod.fst (Option.some.inj heq))
        simp only [textsOfKind, List.map_cons, List.zip_cons_cons, List.filterMap_cons, if_neg hk,
          hs, Option.map_none] at ih ⊢
        rw [ih]

end TypeGraph

end Hydration
