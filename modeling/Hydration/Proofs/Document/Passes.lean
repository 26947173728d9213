import Hydration.Proofs.Document.Reading
import Hydration.Proofs.TypeGraph.History

/-!
# The passes over a document

The named types are declared before any expression is lowered, so that they have the first
ids in document order and every name can be looked up. Then the classes are defined one
after the other: `Defining` is what holds between two of them. The entry points come last.
Every pass fails at its first unknown name.
-/

namespace Hydration.GraphDocument

open TypeGraph (TypeAt)
open TypeExpr (primitive? Within mentionsAt)

/-! ## What a document says -/

/-- Whether a name is a primitive or declared. -/
def knows (doc : GraphDocument) (name : String) : Bool :=
  (primitive? name).isSome || doc.types.contains name

/-- The names in the fields of a named type, each with its location. -/
def typeMentions : String × NamedType → List (String × String)
  | (name, .classDoc fields) => fields.entries.flatMap fun field =>
      field.2.type.mentionsAt ("types." ++ name ++ ".fields." ++ field.1)
  | (_, .enumDoc _) => []

/-- The names in an entry point, each with its location. -/
def topLevelMentions (entry : String × TypeExpr) : List (String × String) :=
  entry.2.mentionsAt ("top_levels." ++ entry.1)

/-- The names in a document, each with its location: those in the fields of classes and
then those in the entry points, in document order. -/
def mentions (doc : GraphDocument) : List (String × String) :=
  doc.types.entries.flatMap typeMentions ++ doc.topLevels.entries.flatMap topLevelMentions

/-- The first name that is neither a primitive nor declared, with its location. -/
def firstUnknown? (doc : GraphDocument) : Option (String × String) :=
  doc.mentions.find? fun mention => !doc.knows mention.2

/-- An expression stands in a document. -/
inductive HasExpr (doc : GraphDocument) : TypeExpr → Prop where
  /-- As the type of a field. -/
  | field {name : String} {fields : OrderedMap String FieldDoc} {field : String × FieldDoc}
      (ht : (name, .classDoc fields) ∈ doc.types.entries) (hf : field ∈ fields.entries) :
      HasExpr doc field.2.type
  /-- As the type of an entry point. -/
  | topLevel {entry : String × TypeExpr} (h : entry ∈ doc.topLevels.entries) : HasExpr doc entry.2

/-- An expression is a part of one that stands in a document. -/
def HasPart (doc : GraphDocument) (part : TypeExpr) : Prop :=
  ∃ expr, doc.HasExpr expr ∧ Within part expr

/-! ## Declaring the named types -/

/-- The type with which a named type is declared. -/
def declaredType : String × NamedType → Ty
  | (name, .classDoc _) => .classType ⟨name, OrderedMap.empty⟩
  | (name, .enumDoc cases) => .enumType ⟨name, OrderedSet.ofList cases⟩

/-- Some named types are declared in order. -/
structure Declared (front : List (String × NamedType)) (named : List (String × TypeId))
    (draft : Draft) : Prop where
  /-- Their ids are their positions. -/
  ids : named = front.mapIdx fun index entry => (entry.1, ⟨index⟩)
  /-- Their types are those with which they are declared. -/
  types : draft.types = front.map declaredType
  /-- The classes among them are not defined yet. -/
  pending : ∀ id ∈ draft.pending,
    ∃ name fields, (name, .classDoc fields) ∈ front ∧ (name, id) ∈ named
  /-- There are no entry points. -/
  topLevels : draft.topLevels = OrderedMap.empty

namespace Declared

variable {front : List (String × NamedType)} {named : List (String × TypeId)} {draft : Draft}

/-- At the start nothing is declared. -/
theorem nil : Declared [] [] Draft.empty := ⟨rfl, rfl, by simp [Draft.empty], rfl⟩

/-- The next id is the number of the declared types. -/
theorem nextId_eq (h : Declared front named draft) : draft.nextId = ⟨front.length⟩ := by
  rw [Draft.nextId, h.types, List.length_map]

/-- A class is declared under the next id, with its fields pending. -/
theorem classDoc (h : Declared front named draft) (name : String)
    (fields : OrderedMap String FieldDoc) :
    Declared (front ++ [(name, .classDoc fields)]) (named ++ [(name, draft.nextId)])
      (draft.declareClass name).2 where
  ids := by rw [List.mapIdx_concat, h.ids, h.nextId_eq]
  types := by
    rw [List.map_append, ← h.types]
    rfl
  pending id hm := by
    rcases List.mem_append.mp hm with hm | hm
    · obtain ⟨other, others, hfront, hnamed⟩ := h.pending id hm
      exact ⟨other, others, List.mem_append_left _ hfront, List.mem_append_left _ hnamed⟩
    · rw [List.mem_singleton.mp hm]
      exact ⟨name, fields, by simp, List.mem_append_right _ List.mem_cons_self⟩
  topLevels := h.topLevels

/-- An enum is declared under the next id, with its cases. -/
theorem enumDoc (h : Declared front named draft) (name : String) (cases : List String) :
    Declared (front ++ [(name, .enumDoc cases)]) (named ++ [(name, draft.nextId)])
      (draft.add (.enumType ⟨name, OrderedSet.ofList cases⟩)).2 where
  ids := by rw [List.mapIdx_concat, h.ids, h.nextId_eq]
  types := by
    rw [List.map_append, ← h.types]
    rfl
  pending id hm := by
    obtain ⟨other, others, hfront, hnamed⟩ := h.pending id hm
    exact ⟨other, others, List.mem_append_left _ hfront, List.mem_append_left _ hnamed⟩
  topLevels := h.topLevels

/-- Declaring named types after others. -/
theorem declare (h : Declared front named draft) (rest : List (String × NamedType)) :
    Declared (front ++ rest) (GraphDocument.declare rest (named, draft)).1
      (GraphDocument.declare rest (named, draft)).2 := by
  induction rest generalizing front named draft with
  | nil =>
    rw [List.append_nil]
    exact h
  | cons entry rest ih =>
    obtain ⟨name, type⟩ := entry
    rw [List.append_cons]
    cases type with
    | classDoc fields => exact ih (h.classDoc name fields)
    | enumDoc cases => exact ih (h.enumDoc name cases)

/-- A name is declared with an id if it stands at the position of the id. -/
theorem mem_iff (h : Declared front named draft) {name : String} {id : TypeId} :
    (name, id) ∈ named ↔ ∃ type, front[id.index]? = some (name, type) := by
  rw [h.ids, List.mem_iff_getElem?]
  simp only [List.getElem?_mapIdx, Option.map_eq_some_iff, Prod.mk.injEq]
  constructor
  · rintro ⟨index, ⟨name', type⟩, hentry, rfl, rfl⟩
    exact ⟨type, hentry⟩
  · rintro ⟨type, hentry⟩
    exact ⟨id.index, _, hentry, rfl, rfl⟩

/-- A declared name is found with its id when no name is declared twice. -/
theorem get?_eq_some_iff (h : Declared front named draft) (hn : (front.map Prod.fst).Nodup)
    {name : String} {id : TypeId} : Entries.get? name named = some id ↔ (name, id) ∈ named := by
  have hkeys : named.map Prod.fst = front.map Prod.fst := by
    rw [h.ids]
    refine List.ext_getElem? fun index => ?_
    simp [Function.comp_def]
  exact ⟨Entries.mem_of_get?, Entries.get?_of_mem (hkeys ▸ hn)⟩

end Declared

variable {doc : GraphDocument} {named : List (String × TypeId)} {types : List Ty}
  {draft draft' : Draft}

/-- Names have the positions at which the document declares them. -/
def Positions (doc : GraphDocument) (named : List (String × TypeId)) : Prop :=
  ∀ name id, Entries.get? name named = some id
    ↔ ∃ type, doc.types.entries[id.index]? = some (name, type)

namespace Positions

variable (hpos : doc.Positions named)
include hpos

/-- Names with the positions of a document are distinct and below its size. -/
theorem names : Names named doc.types.size where
  below name id h := by
    obtain ⟨type, hentry⟩ := (hpos name id).mp h
    exact (List.getElem?_eq_some_iff.mp hentry).1
  injective name name' id h h' := by
    obtain ⟨type, hentry⟩ := (hpos name id).mp h
    obtain ⟨type', hentry'⟩ := (hpos name' id).mp h'
    cases hentry.symm.trans hentry'
    rfl

/-- Every named type of the document has an id. -/
theorem exists_get? {name : String} {type : NamedType} (hm : (name, type) ∈ doc.types.entries) :
    ∃ id, Entries.get? name named = some id := by
  obtain ⟨index, hentry⟩ := List.mem_iff_getElem?.mp hm
  exact ⟨⟨index⟩, (hpos name ⟨index⟩).mpr ⟨type, hentry⟩⟩

/-- The unknown names are those that the document does not know. -/
theorem isUnknown_eq (name : String) : isUnknown named name = !doc.knows name := by
  have hdeclared : (Entries.get? name named).isNone = !doc.types.contains name := by
    rw [OrderedMap.contains]
    cases hid : Entries.get? name named with
    | some id =>
      obtain ⟨type, hentry⟩ := (hpos name id).mp hid
      rw [OrderedMap.mem_entries_iff.mp (List.mem_of_getElem? hentry)]
      rfl
    | none =>
      cases htype : doc.types.get? name with
      | none => rfl
      | some type =>
        obtain ⟨id, hid'⟩ := hpos.exists_get? (OrderedMap.mem_entries_iff.mpr htype)
        cases hid.symm.trans hid'
  rw [isUnknown, knows, hdeclared, Bool.not_or, Option.not_isSome]

/-- The failure at the first unknown name of a document. -/
theorem unknownIn_mentions :
    unknownIn named doc.mentions
      = doc.firstUnknown?.map fun mention => .unknownType mention.2 mention.1 := by
  rw [unknownIn, firstUnknown?, funext fun mention : String × String => hpos.isUnknown_eq mention.2]

end Positions

/-! ## Defining the classes -/

/-- A field of a class denotes one of a document. -/
structure FieldDenotes (named : List (String × TypeId)) (types : List Ty)
    (entry : String × Field) (field : String × FieldDoc) : Prop where
  /-- It has its key. -/
  key : entry.1 = field.1
  /-- It is optional if that one is. -/
  optional : entry.2.optional = field.2.optional
  /-- Its type denotes that of the document. -/
  type : Denotes named types entry.2.type field.2.type

theorem FieldDenotes.mono {types' : List Ty} (hk : Keeps types types') {entry : String × Field}
    {field : String × FieldDoc} (h : FieldDenotes named types entry field) :
    FieldDenotes named types' entry field := ⟨h.key, h.optional, h.type.mono hk⟩

/-- A class has the fields that a document says. -/
def ClassDenotes (named : List (String × TypeId)) (types : List Ty) (name : String)
    (fields : OrderedMap String FieldDoc) : Prop :=
  ∃ id shape, Entries.get? name named = some id ∧ TypeAt types id (.classType shape)
    ∧ shape.name = name
    ∧ List.Forall₂ (FieldDenotes named types) shape.fields.entries fields.entries

/-- A class is defined as before when types are added. -/
theorem ClassDenotes.append {name : String} {fields : OrderedMap String FieldDoc}
    (h : ClassDenotes named types name fields) (more : List Ty) :
    ClassDenotes named (types ++ more) name fields := by
  obtain ⟨id, shape, hid, ht, hs, hf⟩ := h
  exact ⟨id, shape, hid, ht.append more, hs, hf.imp fun _ _ hfield => hfield.mono (.append _ more)⟩

/-- Giving a class its fields changes no other class. -/
theorem ClassDenotes.set_class {count : Nat} (hn : Names named count) {name other : String}
    {fields : OrderedMap String FieldDoc} (h : ClassDenotes named types other fields)
    {id : TypeId} {shape : ClassType} (hid : Entries.get? name named = some id)
    (hclass : TypeAt types id (.classType shape)) (hne : other ≠ name) (shape' : ClassType) :
    ClassDenotes named (types.set id.index (.classType shape')) other fields := by
  obtain ⟨id', found, hid', ht, hs, hf⟩ := h
  have hids : id' ≠ id := by
    rintro rfl
    exact hne (hn.injective _ _ _ hid' hid)
  exact ⟨id', found, hid', (TypeGraph.typeAt_set_of_ne hids).mpr ht, hs,
    hf.imp fun _ _ hfield => hfield.mono (.set_class hclass shape')⟩

/-- Some classes are defined, and the rest is not. -/
structure Defining (doc : GraphDocument) (named : List (String × TypeId))
    (front rest : List (String × NamedType)) (draft : Draft) : Prop where
  /-- These are the named types. -/
  split : front ++ rest = doc.types.entries
  /-- Names have the ids of their types. -/
  holds : doc.HoldsNamed named draft.types
  /-- The named types come first. -/
  size_le : doc.types.size ≤ draft.types.length
  /-- Only the rest is under construction. -/
  pending : ∀ id ∈ draft.pending, ∃ name fields, (name, .classDoc fields) ∈ rest
    ∧ Entries.get? name named = some id
  /-- There are no entry points. -/
  topLevels : draft.topLevels = OrderedMap.empty
  /-- The first classes have their fields. -/
  defined : ∀ name fields, (name, .classDoc fields) ∈ front →
    ClassDenotes named draft.types name fields
  /-- The types after the named ones are those of expressions. -/
  made : MadeFrom named draft.types doc.types.size doc.HasPart

namespace Defining

variable {front rest : List (String × NamedType)}

/-- Lowering expressions of the document changes nothing about the named types. -/
theorem lowersAll (h : Defining doc named front rest draft) {pairs : List (TypeId × TypeExpr)}
    (hl : LowersAll named draft pairs draft') (hp : ∀ pair ∈ pairs, doc.HasExpr pair.2) :
    Defining doc named front rest draft' := by
  have hk := hl.keeps
  have hlength := hl.length_le
  have hmade := hl.made.imp fun part ⟨pair, hm, hw⟩ =>
    show doc.HasPart part from ⟨pair.2, hp pair hm, hw⟩
  obtain ⟨more, rfl⟩ := hl.appends
  exact ⟨h.split, h.holds.append more, Nat.le_trans h.size_le hlength, h.pending, h.topLevels,
    fun name fields hm => (h.defined name fields hm).append more, h.made.trans hk hmade⟩

/-- An enum needs no definition after its declaration. -/
theorem skipEnum {name : String} {cases : List String}
    (h : Defining doc named front ((name, .enumDoc cases) :: rest) draft) :
    Defining doc named (front ++ [(name, .enumDoc cases)]) rest draft where
  split := (List.append_cons ..).symm.trans h.split
  holds := h.holds
  size_le := h.size_le
  pending id hm := by
    obtain ⟨other, fields, hrest, hid⟩ := h.pending id hm
    rcases List.mem_cons.mp hrest with heq | hrest
    · cases heq
    · exact ⟨other, fields, hrest, hid⟩
  topLevels := h.topLevels
  defined other fields hm := by
    rcases List.mem_append.mp hm with hm | hm
    · exact h.defined other fields hm
    · cases List.mem_singleton.mp hm
  made := h.made

/-- The next class is declared. -/
theorem exists_class (hpos : doc.Positions named) {name : String}
    {fields : OrderedMap String FieldDoc}
    (h : Defining doc named front ((name, .classDoc fields) :: rest) draft) :
    ∃ id shape, Entries.get? name named = some id ∧ TypeAt draft.types id (.classType shape)
      ∧ shape.name = name := by
  have hentry : (name, NamedType.classDoc fields) ∈ doc.types.entries :=
    h.split ▸ List.mem_append_right _ List.mem_cons_self
  obtain ⟨id, hid⟩ := hpos.exists_get? hentry
  obtain ⟨type, htype, hat⟩ := h.holds name id hid
  cases htype.symm.trans (OrderedMap.mem_entries_iff.mp hentry)
  cases hat with
  | classDoc ht hs => exact ⟨id, _, hid, ht, hs⟩

/-- No named type has the name of one before it. -/
theorem ne_of_mem {entry : String × NamedType}
    (h : Defining doc named front (entry :: rest) draft) : ∀ other ∈ front, other.1 ≠ entry.1 := by
  intro other hm heq
  have hnodup := doc.types.nodup
  rw [← h.split, List.map_append, List.map_cons, List.nodup_append] at hnodup
  exact hnodup.2.2 other.1 (List.mem_map_of_mem hm) entry.1 List.mem_cons_self heq

/-- The next class is defined with fields that denote those of the document. -/
theorem defineClass (hpos : doc.Positions named) {name : String}
    {fields : OrderedMap String FieldDoc}
    (h : Defining doc named front ((name, .classDoc fields) :: rest) draft)
    {lowered : List (String × Field)}
    (hf : List.Forall₂ (FieldDenotes named draft.types) lowered fields.entries) :
    ∃ draft', draft.defineClass ((Entries.get? name named).getD draft.nextId)
        (OrderedMap.ofList lowered) = .ok draft'
      ∧ Defining doc named (front ++ [(name, .classDoc fields)]) rest draft' := by
  obtain ⟨id, shape, hid, ht, hs⟩ := h.exists_class hpos
  have hk := Keeps.set_class ht ⟨shape.name, OrderedMap.ofList lowered⟩
  rw [hid]
  refine ⟨_, Draft.defineClass_of_class _ ht, (List.append_cons ..).symm.trans h.split,
    h.holds.set_class ht _, ?_, fun other hm => ?_, h.topLevels, fun other others hm => ?_, ?_⟩
  · rw [List.length_set]
    exact h.size_le
  · obtain ⟨hm, hne⟩ := List.mem_filter.mp hm
    obtain ⟨name', others, hrest, hid'⟩ := h.pending other hm
    rcases List.mem_cons.mp hrest with heq | hrest
    · cases heq
      cases hid.symm.trans hid'
      simp at hne
    · exact ⟨name', others, hrest, hid'⟩
  · rcases List.mem_append.mp hm with hm | hm
    · exact (h.defined other others hm).set_class hpos.names hid ht (h.ne_of_mem _ hm) _
    · cases List.mem_singleton.mp hm
      have hkeys : (lowered.map Prod.fst).Nodup := by
        rw [map_eq_of_forall₂ hf fun _ _ hfield => hfield.key]
        exact fields.nodup
      refine ⟨id, _, hid, ht.set _, hs, ?_⟩
      rw [OrderedMap.entries_ofList hkeys]
      exact hf.imp fun _ _ hfield => hfield.mono hk
  · refine h.made.trans hk ?_
    rw [← List.length_set]
    exact madeFrom_length _ _

end Defining

namespace Declared

variable (h : Declared doc.types.entries named draft)
include h

/-- The ids of declared types are the positions of their names. -/
theorem positions : doc.Positions named :=
  fun _ _ => (h.get?_eq_some_iff doc.types.nodup).trans h.mem_iff

/-- Before the first class is defined, all of them are under construction. -/
theorem defining : Defining doc named [] doc.types.entries draft where
  split := rfl
  holds name id hid := by
    obtain ⟨type, hentry⟩ := (h.positions name id).mp hid
    have hat : TypeAt draft.types id (declaredType (name, type)) := by
      rw [TypeAt, h.types, List.getElem?_map, hentry]
      rfl
    refine ⟨type, OrderedMap.mem_entries_iff.mp (List.mem_of_getElem? hentry), ?_⟩
    cases type with
    | classDoc fields => exact .classDoc hat rfl
    | enumDoc cases => exact .enumDoc hat
  size_le := by
    rw [h.types, List.length_map]
    exact Nat.le_refl _
  pending id hm := by
    obtain ⟨name, fields, hentry, hnamed⟩ := h.pending id hm
    exact ⟨name, fields, hentry, (h.get?_eq_some_iff doc.types.nodup).mpr hnamed⟩
  topLevels := h.topLevels
  defined _ _ hm := absurd hm List.not_mem_nil
  made := by
    rw [OrderedMap.size, ← List.length_map declaredType, ← h.types]
    exact madeFrom_length _ _

end Declared

/-- The fields of a class are lowered in order. -/
theorem lowerFields_eq (name : String) (fields : List (String × FieldDoc)) (draft : Draft) :
    lowerFields named name fields draft
      = lowerEach (fun field => "types." ++ name ++ ".fields." ++ field.1) (·.2.type)
          (fun field type => (field.1, ⟨type, field.2.optional⟩)) named fields draft := by
  induction fields generalizing draft with
  | nil => rfl
  | cons field rest ih => simp only [lowerFields, lowerEach, ih]

/-- The next class is defined once its fields are lowered. -/
theorem Defining.nextClass {front rest : List (String × NamedType)} (hpos : doc.Positions named)
    {name : String} {fields : OrderedMap String FieldDoc}
    (h : Defining doc named front ((name, .classDoc fields) :: rest) draft)
    {lowered : List (String × Field)}
    (hf : lowerFields named name fields.entries draft = .ok (lowered, draft')) :
    ∃ draft₂, draft'.defineClass ((Entries.get? name named).getD draft'.nextId)
        (OrderedMap.ofList lowered) = .ok draft₂
      ∧ Defining doc named (front ++ [(name, .classDoc fields)]) rest draft₂ := by
  rw [lowerFields_eq] at hf
  obtain ⟨pairs, hall, hexprs, hmade⟩ := lowersAll_of_lowerEach (hpos.names.mono h.size_le) hf
  have hentry : (name, NamedType.classDoc fields) ∈ doc.types.entries :=
    h.split ▸ List.mem_append_right _ List.mem_cons_self
  refine (h.lowersAll hall fun pair hm => ?_).defineClass hpos (hmade.imp fun entry field hd => ?_)
  · obtain ⟨field, hfield, htype⟩ := List.mem_map.mp (hexprs ▸ List.mem_map_of_mem hm)
    exact htype ▸ .field hentry hfield
  · obtain ⟨type, rfl, hd⟩ := hd
    exact ⟨rfl, rfl, hd⟩

/-- The classes fail at the first unknown name in their fields: they are all declared, so every
definition is accepted. -/
theorem Defining.failure?_lowerClasses {front rest : List (String × NamedType)}
    (hpos : doc.Positions named) (h : Defining doc named front rest draft) :
    failure? (lowerClasses named rest draft) = unknownIn named (rest.flatMap typeMentions) := by
  induction rest generalizing front draft with
  | nil => rfl
  | cons entry rest ih =>
    obtain ⟨name, type⟩ := entry
    cases type with
    | enumDoc cases => exact ih h.skipEnum
    | classDoc fields =>
      rw [lowerClasses, List.flatMap_cons, unknownIn_append, typeMentions,
        ← failure?_lowerEach fields.entries draft, ← lowerFields_eq]
      refine failure?_bind fun ⟨lowered, draft₁⟩ hf => ?_
      obtain ⟨draft₂, hdefine, hnext⟩ := h.nextClass hpos hf
      dsimp only
      rw [hdefine]
      exact ih hnext

/-- When no class fails, all of them are defined. -/
theorem Defining.of_lowerClasses {front rest : List (String × NamedType)}
    (hpos : doc.Positions named) (h : Defining doc named front rest draft)
    (hok : lowerClasses named rest draft = .ok draft') :
    Defining doc named doc.types.entries [] draft' := by
  induction rest generalizing front draft with
  | nil =>
    cases hok
    have hall := h.split
    rw [List.append_nil] at hall
    exact hall ▸ h
  | cons entry rest ih =>
    obtain ⟨name, type⟩ := entry
    cases type with
    | enumDoc cases => exact ih h.skipEnum hok
    | classDoc fields =>
      obtain ⟨⟨lowered, draft₁⟩, hf, hok⟩ := bind_eq_ok.mp hok
      obtain ⟨draft₂, hdefine, hnext⟩ := h.nextClass hpos hf
      dsimp only at hok
      rw [hdefine] at hok
      exact ih hnext hok

/-! ## Naming the entry points -/

/-- An entry point denotes one of a document. -/
structure EntryDenotes (named : List (String × TypeId)) (types : List Ty)
    (entry : String × TypeId) (written : String × TypeExpr) : Prop where
  /-- It has its name. -/
  key : entry.1 = written.1
  /-- Its type denotes that of the document. -/
  type : Denotes named types entry.2 written.2

/-- The entry points are lowered in order. -/
theorem lowerTopLevels_eq (entries : List (String × TypeExpr)) (draft : Draft) :
    lowerTopLevels named entries draft
      = lowerEach (fun entry => "top_levels." ++ entry.1) Prod.snd (fun entry id => (entry.1, id))
          named entries draft := by
  induction entries generalizing draft with
  | nil => rfl
  | cons entry rest ih => simp only [lowerTopLevels, lowerEach, ih]

/-- Recording entry points changes the entry points only. -/
theorem foldl_topLevel (ids : List (String × TypeId)) (draft : Draft) :
    ids.foldl (fun draft entry => draft.topLevel entry.1 entry.2) draft
      = { draft with
          topLevels := ids.foldl (fun m entry => m.insert entry.1 entry.2) draft.topLevels } := by
  induction ids generalizing draft with
  | nil => rfl
  | cons entry rest ih => exact ih (draft.topLevel entry.1 entry.2)

/-! ## The draft of a document -/

/-- The ids of the named types of a document. -/
def ids (doc : GraphDocument) : List (String × TypeId) :=
  (declare doc.types.entries ([], Draft.empty)).1

theorem declared (doc : GraphDocument) :
    Declared doc.types.entries doc.ids (declare doc.types.entries ([], Draft.empty)).2 :=
  Declared.nil.declare doc.types.entries

theorem positions (doc : GraphDocument) : doc.Positions doc.ids := doc.declared.positions

/-- The draft that the passes over a document make. -/
def lowered (doc : GraphDocument) : Except LoweringError Draft := do
  let draft ← lowerClasses doc.ids doc.types.entries (declare doc.types.entries ([], Draft.empty)).2
  let (topLevels, draft) ← lowerTopLevels doc.ids doc.topLevels.entries draft
  return topLevels.foldl (fun draft entry => draft.topLevel entry.1 entry.2) draft

/-- The graph of a document is that of its draft. -/
theorem toGraph_eq (doc : GraphDocument) :
    doc.toGraph = doc.lowered >>= fun draft => draft.build.mapError .graph := by
  rw [lowered, bind_assoc]
  refine bind_congr fun draft => ?_
  rw [bind_assoc]
  refine bind_congr fun ⟨entries, draft⟩ => ?_
  rw [pure_bind]
  dsimp only
  cases Draft.build _ <;> rfl

/-- The passes over a document fail at its first unknown name. -/
theorem failure?_lowered (doc : GraphDocument) :
    failure? doc.lowered
      = doc.firstUnknown?.map fun mention => .unknownType mention.2 mention.1 := by
  have hstart := doc.declared.defining
  rw [← doc.positions.unknownIn_mentions, mentions, unknownIn_append,
    ← hstart.failure?_lowerClasses doc.positions]
  refine failure?_bind fun draft _ => ?_
  have hentries : failure? (lowerTopLevels doc.ids doc.topLevels.entries draft)
      = unknownIn doc.ids (doc.topLevels.entries.flatMap topLevelMentions) := by
    rw [lowerTopLevels_eq]
    exact failure?_lowerEach doc.topLevels.entries draft
  rw [← hentries]
  exact failure?_bind_of_ok fun _ => ⟨_, rfl⟩

/-- A draft says what a document says. -/
structure Complete (doc : GraphDocument) (draft : Draft) : Prop where
  /-- No class is under construction. -/
  pending : draft.pending = []
  /-- Names have the ids of their types. -/
  holds : doc.HoldsNamed doc.ids draft.types
  /-- The classes have their fields. -/
  defined : ∀ name fields, (name, .classDoc fields) ∈ doc.types.entries →
    ClassDenotes doc.ids draft.types name fields
  /-- The types after the named ones are those of expressions. -/
  made : MadeFrom doc.ids draft.types doc.types.size doc.HasPart
  /-- The entry points are there. -/
  topLevels : List.Forall₂ (EntryDenotes doc.ids draft.types) draft.topLevels.entries
    doc.topLevels.entries

/-- The passes over a document leave nothing out. -/
theorem complete_of_lowered (h : doc.lowered = .ok draft) : doc.Complete draft := by
  obtain ⟨draft₁, hclasses, h⟩ := bind_eq_ok.mp h
  obtain ⟨⟨entries, draft₂⟩, hentries, h⟩ := bind_eq_ok.mp h
  cases h
  have hdefined := doc.declared.defining.of_lowerClasses doc.positions hclasses
  rw [lowerTopLevels_eq] at hentries
  obtain ⟨pairs, hall, hexprs, hmade⟩ :=
    lowersAll_of_lowerEach (doc.positions.names.mono hdefined.size_le) hentries
  have hdenotes :
      List.Forall₂ (EntryDenotes doc.ids draft₂.types) entries doc.topLevels.entries := by
    refine hmade.imp fun entry written hd => ?_
    obtain ⟨id, rfl, hd⟩ := hd
    exact ⟨rfl, hd⟩
  have hend := hdefined.lowersAll hall fun pair hm => by
    obtain ⟨entry, hentry, hexpr⟩ := List.mem_map.mp (hexprs ▸ List.mem_map_of_mem hm)
    exact hexpr ▸ .topLevel hentry
  have hkeys : (entries.map Prod.fst).Nodup := by
    rw [map_eq_of_forall₂ hdenotes fun _ _ hentry => hentry.key]
    exact doc.topLevels.nodup
  rw [foldl_topLevel, hend.topLevels]
  refine ⟨?_, hend.holds, hend.defined, hend.made, ?_⟩
  · refine List.eq_nil_iff_forall_not_mem.mpr fun id hm => ?_
    obtain ⟨name, fields, hrest, -⟩ := hend.pending id hm
    cases hrest
  · exact (OrderedMap.entries_ofList hkeys).symm ▸ hdenotes

end Hydration.GraphDocument
