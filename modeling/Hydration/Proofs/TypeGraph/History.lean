import Hydration.Proofs.TypeGraph.Sound
import Hydration.TypeGraph.Builder
import Mathlib.Data.List.Induction

/-!
# What operations leave

What a sequence of operations on an empty draft leaves, read from the sequence alone. A
class is left with its last accepted definition, and a name with the last id given for it.
`Since` says that an operation was performed and that none after it changed what it did;
appending an operation either performs it or keeps it, which is the induction step for
everything that is read from a sequence.
-/

namespace Hydration

namespace BuildStep

/-- The types that an operation adds to so many others. -/
def added (count : Nat) : BuildStep → List Ty
  | add type => [type]
  | nullable inner => [.null, .union (OrderedSet.ofList [⟨count⟩, inner])]
  | declareClass name => [.classType ⟨name, OrderedMap.empty⟩]
  | defineClass _ _ => []
  | topLevel _ _ => []

/-- The types that operations add, in order. -/
def accumulated (steps : List BuildStep) : List Ty :=
  steps.foldl (fun types step => types ++ step.added types.length) []

/-- The id that the next type gets. -/
def nextId (steps : List BuildStep) : TypeId := ⟨(accumulated steps).length⟩

/-- An operation was performed, and those that followed kept what it did. -/
def Since (here : List BuildStep → BuildStep → Prop) (kept : BuildStep → Prop)
    (steps : List BuildStep) : Prop :=
  ∃ front step back, steps = front ++ step :: back ∧ here front step ∧ ∀ later ∈ back, kept later

/-- A class has an id. -/
def IsClassIn (steps : List BuildStep) (id : TypeId) : Prop :=
  ∃ shape, TypeGraph.TypeAt (accumulated steps) id (.classType shape)

/-- The last definition of a class. A definition is accepted if a class has the id by then. -/
def LastDefines (steps : List BuildStep) (id : TypeId) (fields : OrderedMap String Field) : Prop :=
  Since (fun front step => step = .defineClass id fields ∧ IsClassIn front id)
    (fun later => ∀ others, later ≠ .defineClass id others) steps

/-- The last id given for a name. -/
def LastNames (steps : List BuildStep) (name : String) (id : TypeId) : Prop :=
  Since (fun _ step => step = .topLevel name id)
    (fun later => ∀ other, later ≠ .topLevel name other) steps

/-- A class was declared and not defined since. -/
def Awaits (steps : List BuildStep) (id : TypeId) : Prop :=
  Since (fun front step => (∃ name, step = .declareClass name) ∧ id = nextId front)
    (fun later => ∀ fields, later ≠ .defineClass id fields) steps

/-- The type that an id is left with. -/
inductive Leaves (steps : List BuildStep) (id : TypeId) : Ty → Prop where
  /-- A type that was not defined is left as it was added. -/
  | added {type : Ty} (h : TypeGraph.TypeAt (accumulated steps) id type)
      (hd : ∀ fields, ¬LastDefines steps id fields) : Leaves steps id type
  /-- A class that was defined is left with the fields of its last definition. -/
  | defined {shape : ClassType} {fields : OrderedMap String Field}
      (h : TypeGraph.TypeAt (accumulated steps) id (.classType shape))
      (hd : LastDefines steps id fields) : Leaves steps id (.classType ⟨shape.name, fields⟩)

/-- What an operation answers after others. -/
inductive Answers (front : List BuildStep) : BuildStep → BuildAnswer → Prop where
  /-- An added type has the next id. -/
  | add (type : Ty) : Answers front (.add type) (.added (nextId front))
  /-- A nullable type has the id after that of its null type. -/
  | nullable (inner : TypeId) : Answers front (.nullable inner) (.added ⟨(nextId front).index + 1⟩)
  /-- A declared class has the next id. -/
  | declareClass (name : String) : Answers front (.declareClass name) (.added (nextId front))
  /-- A class can be defined. -/
  | defined {id : TypeId} (fields : OrderedMap String Field) (h : IsClassIn front id) :
      Answers front (.defineClass id fields) .done
  /-- Nothing else can be defined. -/
  | refused {id : TypeId} (fields : OrderedMap String Field) (h : ¬IsClassIn front id) :
      Answers front (.defineClass id fields) (.refused (.notAClass id))
  /-- Every id can be named. -/
  | topLevel (name : String) (id : TypeId) : Answers front (.topLevel name id) .done

/-- What operations leave is a graph. -/
structure Valid (steps : List BuildStep) : Prop where
  /-- Every declared class is defined later, and the definition is accepted. -/
  defined : ∀ front name back, steps = front ++ .declareClass name :: back →
    ∃ middle fields rest, back = middle ++ .defineClass (nextId front) fields :: rest
      ∧ IsClassIn (front ++ .declareClass name :: middle) (nextId front)
  /-- The types and the entry points that are left are sound. -/
  sound : Sound (accumulated steps).length (Leaves steps) (LastNames steps)

/-! ## Reading sequences -/

variable {steps front back : List BuildStep} {step : BuildStep} {id : TypeId} {type : Ty}

/-- A step adds its types after those of the steps before it. -/
theorem accumulated_snoc (steps : List BuildStep) (step : BuildStep) :
    accumulated (steps ++ [step]) = accumulated steps ++ step.added (accumulated steps).length := by
  rw [accumulated, List.foldl_append]
  rfl

/-- Types stay where they are. -/
theorem accumulated_append (front back : List BuildStep) :
    ∃ types, accumulated (front ++ back) = accumulated front ++ types := by
  induction back using List.reverseRecOn with
  | nil => exact ⟨[], by simp⟩
  | append_singleton back step ih =>
    obtain ⟨types, ih⟩ := ih
    rw [← List.append_assoc, accumulated_snoc, ih, List.append_assoc]
    exact ⟨_, rfl⟩

/-- A class stays one. -/
theorem IsClassIn.append (h : IsClassIn front id) (back : List BuildStep) :
    IsClassIn (front ++ back) id := by
  obtain ⟨shape, h⟩ := h
  obtain ⟨types, happend⟩ := accumulated_append front back
  exact ⟨shape, happend ▸ h.append types⟩

/-- A declared class is one from then on. -/
theorem isClassIn_of_declared (front : List BuildStep) (name : String) (back : List BuildStep) :
    IsClassIn (front ++ .declareClass name :: back) (nextId front) := by
  have hdeclared : IsClassIn (front ++ [.declareClass name]) (nextId front) := by
    refine ⟨⟨name, OrderedMap.empty⟩, ?_⟩
    rw [accumulated_snoc]
    exact List.getElem?_concat_length
  rw [List.append_cons]
  exact hdeclared.append back

/-- Something is so since a step if it starts with the last one, or the last one keeps it so. -/
theorem since_snoc {here : List BuildStep → BuildStep → Prop} {kept : BuildStep → Prop} :
    Since here kept (steps ++ [step]) ↔ here steps step ∨ Since here kept steps ∧ kept step := by
  constructor
  · rintro ⟨front, first, back, h, hhere, hkept⟩
    rcases List.eq_nil_or_concat back with rfl | ⟨back, last, rfl⟩
    · obtain ⟨rfl, hlast⟩ := List.append_inj' h rfl
      cases hlast
      exact Or.inl hhere
    · rw [List.concat_eq_append, ← List.cons_append, ← List.append_assoc] at h
      obtain ⟨rfl, hlast⟩ := List.append_inj' h rfl
      cases hlast
      refine Or.inr ⟨⟨front, first, back, rfl, hhere, fun later hm => ?_⟩, ?_⟩
      · exact hkept later (by simp [hm])
      · exact hkept step (by simp)
  · rintro (hhere | ⟨⟨front, first, back, rfl, hhere, hkept⟩, hstep⟩)
    · exact ⟨steps, step, [], rfl, hhere, by simp⟩
    · refine ⟨front, first, back ++ [step], by simp, hhere, fun later hm => ?_⟩
      rcases List.mem_append.mp hm with hm | hm
      · exact hkept later hm
      · exact List.mem_singleton.mp hm ▸ hstep

theorem not_since_nil {here : List BuildStep → BuildStep → Prop} {kept : BuildStep → Prop} :
    ¬Since here kept [] := by
  rintro ⟨front, step, back, h, -⟩
  exact List.append_ne_nil_of_right_ne_nil _ (List.cons_ne_nil _ _) h.symm

/-- What was defined is a class. -/
theorem LastDefines.isClassIn {fields : OrderedMap String Field} (h : LastDefines steps id fields) :
    IsClassIn steps id := by
  obtain ⟨front, step, back, rfl, ⟨-, hclass⟩, -⟩ := h
  exact hclass.append (step :: back)

/-- What awaits its definition is a class. -/
theorem Awaits.isClassIn (h : Awaits steps id) : IsClassIn steps id := by
  obtain ⟨front, step, back, rfl, ⟨⟨name, rfl⟩, rfl⟩, -⟩ := h
  exact isClassIn_of_declared front name back

/-- A definition changes the fields of a class and nothing else. -/
theorem exists_leaves_classType_iff :
    (∃ shape, Leaves steps id (.classType shape)) ↔ IsClassIn steps id := by
  constructor
  · rintro ⟨shape, h⟩
    cases h with
    | added h _ => exact ⟨shape, h⟩
    | defined h _ => exact ⟨_, h⟩
  · rintro ⟨shape, h⟩
    by_cases hd : ∃ fields, LastDefines steps id fields
    · obtain ⟨fields, hd⟩ := hd
      exact ⟨_, .defined h hd⟩
    · exact ⟨shape, .added h (not_exists.mp hd)⟩

/-- An operation that neither performs nor undoes something changes nothing about it. -/
theorem since_snoc_of_kept {here : List BuildStep → BuildStep → Prop} {kept : BuildStep → Prop}
    (hhere : ¬here steps step) (hkept : kept step) :
    Since here kept (steps ++ [step]) ↔ Since here kept steps := by
  rw [since_snoc, or_iff_right hhere, and_iff_left hkept]

/-- What an id is left with depends on the type that was added and its last definition. -/
theorem leaves_congr {steps' : List BuildStep}
    (ht : ∀ type, TypeGraph.TypeAt (accumulated steps) id type
      ↔ TypeGraph.TypeAt (accumulated steps') id type)
    (hd : ∀ fields, LastDefines steps id fields ↔ LastDefines steps' id fields) :
    Leaves steps id type ↔ Leaves steps' id type := by
  constructor
  · intro h
    cases h with
    | added h hnone => exact .added ((ht _).mp h) fun fields => (hd fields).not.mp (hnone fields)
    | defined h hlast => exact .defined ((ht _).mp h) ((hd _).mp hlast)
  · intro h
    cases h with
    | added h hnone => exact .added ((ht _).mpr h) fun fields => (hd fields).not.mpr (hnone fields)
    | defined h hlast => exact .defined ((ht _).mpr h) ((hd _).mpr hlast)

/-- A type without a definition is what was added. -/
theorem leaves_iff_of_not_defined (hd : ∀ fields, ¬LastDefines steps id fields) :
    Leaves steps id type ↔ TypeGraph.TypeAt (accumulated steps) id type := by
  constructor
  · intro h
    cases h with
    | added h _ => exact h
    | defined _ hlast => exact absurd hlast (hd _)
  · exact fun h => .added h hd

/-- A class keeps its name. -/
theorem Leaves.exists_name {shape : ClassType} (h : Leaves steps id (.classType shape)) :
    ∃ first : ClassType, TypeGraph.TypeAt (accumulated steps) id (.classType first)
      ∧ first.name = shape.name := by
  cases h with
  | added h _ => exact ⟨shape, h, rfl⟩
  | defined h _ => exact ⟨_, h, rfl⟩

section Definition

variable {fields : OrderedMap String Field} {other : TypeId}

theorem accumulated_defineClass (steps : List BuildStep) (id : TypeId)
    (fields : OrderedMap String Field) :
    accumulated (steps ++ [.defineClass id fields]) = accumulated steps := by
  rw [accumulated_snoc]
  exact List.append_nil _

/-- A definition of one class leaves those of the others. -/
theorem lastDefines_defineClass_of_ne (hne : other ≠ id) {others : OrderedMap String Field} :
    LastDefines (steps ++ [.defineClass id fields]) other others
      ↔ LastDefines steps other others := by
  refine since_snoc_of_kept (fun h => hne ?_) fun _ h => hne ?_
  · cases h.1
    rfl
  · cases h
    rfl

/-- An accepted definition of a class is its last one. -/
theorem lastDefines_defineClass (hclass : IsClassIn steps id) {others : OrderedMap String Field} :
    LastDefines (steps ++ [.defineClass id fields]) id others ↔ others = fields := by
  refine since_snoc.trans ⟨?_, ?_⟩
  · rintro (⟨h, -⟩ | ⟨-, hkept⟩)
    · cases h
      rfl
    · exact absurd rfl (hkept fields)
  · rintro rfl
    exact Or.inl ⟨rfl, hclass⟩

/-- Classes that are left are left by an accepted definition with its fields. -/
theorem leaves_defineClass {shape : ClassType} (h : Leaves steps id (.classType shape)) :
    Leaves (steps ++ [.defineClass id fields]) id type
      ↔ type = .classType ⟨shape.name, fields⟩ := by
  have hlast : ∀ {others}, LastDefines (steps ++ [.defineClass id fields]) id others
      ↔ others = fields := lastDefines_defineClass (exists_leaves_classType_iff.mp ⟨shape, h⟩)
  obtain ⟨first, hfirst, hname⟩ := h.exists_name
  rw [← accumulated_defineClass steps id fields] at hfirst
  constructor
  · intro h'
    cases h' with
    | added _ hnone => exact absurd (hlast.mpr rfl) (hnone fields)
    | defined ht hd =>
      cases hfirst.symm.trans ht
      rw [hlast.mp hd, hname]
  · rintro rfl
    rw [← hname]
    exact .defined hfirst (hlast.mpr rfl)

end Definition

end BuildStep

namespace Draft

open BuildStep
open TypeGraph (TypeAt)

/-- A draft holds what operations leave. -/
structure Tracks (draft : Draft) (steps : List BuildStep) : Prop where
  /-- There are as many types as were added. -/
  length : draft.types.length = (accumulated steps).length
  /-- The types are those that are left. -/
  types : ∀ id type, TypeAt draft.types id type ↔ Leaves steps id type
  /-- The classes under construction were declared and not defined since. -/
  pending : ∀ id, id ∈ draft.pending ↔ Awaits steps id
  /-- The names have the last ids given for them. -/
  topLevels : ∀ name id, draft.topLevels.get? name = some id ↔ LastNames steps name id

variable {draft : Draft} {steps : List BuildStep} {id : TypeId}

/-- The empty draft tracks no steps. -/
theorem tracks_empty : empty.Tracks [] where
  length := rfl
  types id type := by
    rw [leaves_iff_of_not_defined fun _ => not_since_nil]
    rfl
  pending id := iff_of_false List.not_mem_nil not_since_nil
  topLevels name id := iff_of_false nofun not_since_nil

/-! ## Definitions -/

/-- A class is given its fields. -/
theorem defineClass_of_class {shape : ClassType} (fields : OrderedMap String Field)
    (ht : TypeAt draft.types id (.classType shape)) :
    draft.defineClass id fields
      = .ok { draft with
          types := draft.types.set id.index (.classType ⟨shape.name, fields⟩)
          pending := draft.pending.filter fun other => other != id } := by
  rw [defineClass, show draft.types[id.index]? = _ from ht]

/-- A step that defines a class is done. -/
theorem step_defineClass_of_class {shape : ClassType} (fields : OrderedMap String Field)
    (ht : TypeAt draft.types id (.classType shape)) :
    draft.step (.defineClass id fields)
      = (.done, { draft with
          types := draft.types.set id.index (.classType ⟨shape.name, fields⟩)
          pending := draft.pending.filter fun other => other != id }) := by
  rw [step, defineClass_of_class fields ht]

/-- A step that defines no class is refused and changes nothing. -/
theorem step_defineClass_of_not_class (fields : OrderedMap String Field)
    (ht : ∀ shape, ¬TypeAt draft.types id (.classType shape)) :
    draft.step (.defineClass id fields) = (.refused (.notAClass id), draft) := by
  rw [step, defineClass]
  split
  · rename_i heq
    split at heq
    · rename_i shape hshape
      exact absurd hshape (ht shape)
    · cases heq
  · rename_i heq
    split at heq
    · cases heq
    · cases heq
      rfl

namespace Tracks

variable (h : draft.Tracks steps)
include h

/-- The draft decides which ids are those of classes. -/
theorem isClassIn_iff : IsClassIn steps id ↔ ∃ shape, TypeAt draft.types id (.classType shape) := by
  rw [← exists_leaves_classType_iff]
  exact exists_congr fun shape => (h.types id _).symm

/-- The next id is told from the steps. -/
theorem nextId_eq : draft.nextId = BuildStep.nextId steps := by
  rw [Draft.nextId, BuildStep.nextId, h.length]

/-- Added types are left as they are, and those before them as they were. -/
theorem types_added (step : BuildStep) (hstep : ∀ id fields, step ≠ .defineClass id fields)
    (type : Ty) :
    TypeAt (draft.types ++ step.added draft.types.length) id type
      ↔ Leaves (steps ++ [step]) id type := by
  have hdefines : ∀ fields, LastDefines (steps ++ [step]) id fields ↔ LastDefines steps id fields :=
    fun fields => since_snoc_of_kept (fun hhere => hstep id fields hhere.1) (hstep id)
  rcases Nat.lt_or_ge id.index draft.types.length with hold | hnew
  · have hfirst : ∀ type, TypeAt (accumulated (steps ++ [step])) id type
        ↔ TypeAt (accumulated steps) id type := by
      intro type
      rw [TypeAt, TypeAt, accumulated_snoc, List.getElem?_append_left (h.length ▸ hold)]
    rw [leaves_congr hfirst hdefines, ← h.types, TypeAt, TypeAt, List.getElem?_append_left hold]
  · have hnone : ∀ fields, ¬LastDefines (steps ++ [step]) id fields := by
      intro fields hlast
      obtain ⟨shape, ht⟩ := ((hdefines fields).mp hlast).isClassIn
      exact Nat.not_lt.mpr hnew (h.length ▸ ht.lt)
    rw [leaves_iff_of_not_defined hnone, TypeAt, TypeAt, accumulated_snoc, ← h.length,
      List.getElem?_append_right hnew, List.getElem?_append_right (h.length ▸ hnew), ← h.length]

/-- An operation that adds types and does nothing else. -/
theorem adds (step : BuildStep) (hstep : ∀ id fields, step ≠ .defineClass id fields)
    (hdeclare : ∀ name, step ≠ .declareClass name) (hname : ∀ name id, step ≠ .topLevel name id) :
    Tracks { draft with types := draft.types ++ step.added draft.types.length } (steps ++ [step])
    where
  length := by
    rw [accumulated_snoc, List.length_append, List.length_append, h.length]
  types _ := h.types_added step hstep
  pending id :=
    (h.pending id).trans (since_snoc_of_kept (fun hhere => hhere.1.elim hdeclare) (hstep id)).symm
  topLevels name id :=
    (h.topLevels name id).trans (since_snoc_of_kept (hname name id) (hname name)).symm

/-- After a declaration a draft tracks one step more. -/
theorem declareClass (name : String) :
    (draft.declareClass name).2.Tracks (steps ++ [.declareClass name]) where
  length := by
    rw [accumulated_snoc, List.length_append, ← h.length]
    exact List.length_append
  types id type := by
    refine Iff.trans ?_ (h.types_added (.declareClass name) (by simp) type)
    rfl
  pending id := by
    refine Iff.trans ?_ since_snoc.symm
    have hmem : id ∈ (draft.declareClass name).2.pending
        ↔ id ∈ draft.pending ∨ id = BuildStep.nextId steps := by
      rw [← h.nextId_eq]
      exact List.mem_append.trans (or_congr_right List.mem_singleton)
    rw [hmem, h.pending, or_comm]
    exact or_congr ⟨fun hid => ⟨⟨name, rfl⟩, hid⟩, And.right⟩
      ⟨fun hid => ⟨hid, fun _ => by simp⟩, And.left⟩
  topLevels name id :=
    (h.topLevels name id).trans (since_snoc_of_kept (by simp) (by simp)).symm

/-- After an entry point a draft tracks one step more. -/
theorem topLevel (name : String) (id : TypeId) :
    (draft.topLevel name id).Tracks (steps ++ [.topLevel name id]) where
  length := by
    rw [accumulated_snoc, List.length_append]
    exact h.length
  types id' type := by
    refine Iff.trans ?_ (h.types_added (.topLevel name id) (by simp) type)
    rw [added, List.append_nil]
    rfl
  pending id' := (h.pending id').trans (since_snoc_of_kept (by simp) (by simp)).symm
  topLevels name' id' := by
    rw [Draft.topLevel, OrderedMap.get?_insert]
    refine Iff.trans ?_ since_snoc.symm
    split
    · rename_i hname
      subst hname
      simp
    · rename_i hname
      rw [h.topLevels]
      simp [hname]
      rfl

/-- After a definition a draft tracks one step more. -/
theorem defineClass (fields : OrderedMap String Field) {shape : ClassType}
    (ht : TypeAt draft.types id (.classType shape)) :
    Tracks { draft with
        types := draft.types.set id.index (.classType ⟨shape.name, fields⟩)
        pending := draft.pending.filter fun other => other != id }
      (steps ++ [.defineClass id fields]) where
  length := by
    rw [accumulated_defineClass, List.length_set, h.length]
  types other type := by
    by_cases hother : other = id
    · subst hother
      rw [leaves_defineClass ((h.types other _).mp ht)]
      constructor
      · intro ht'
        exact Option.some.inj (ht'.symm.trans (ht.set _))
      · rintro rfl
        exact ht.set _
    · rw [TypeGraph.typeAt_set_of_ne hother, h.types]
      exact (leaves_congr (fun type => by rw [accumulated_defineClass])
        fun others => lastDefines_defineClass_of_ne hother).symm
  pending other := by
    refine Iff.trans ?_ since_snoc.symm
    rw [List.mem_filter, h.pending]
    simp only [bne_iff_ne]
    constructor
    · rintro ⟨hawaits, hne⟩
      refine Or.inr ⟨hawaits, fun _ heq => hne ?_⟩
      cases heq
      rfl
    · rintro (⟨⟨_, heq⟩, -⟩ | ⟨hawaits, hkept⟩)
      · cases heq
      · exact ⟨hawaits, fun heq => hkept fields (heq ▸ rfl)⟩
  topLevels name id' :=
    (h.topLevels name id').trans (since_snoc_of_kept (by simp) (by simp)).symm

/-- A definition that is not accepted leaves everything as it was. -/
theorem refused (fields : OrderedMap String Field)
    (hclass : ∀ shape, ¬TypeAt draft.types id (.classType shape)) :
    draft.Tracks (steps ++ [.defineClass id fields]) where
  length := by rw [accumulated_defineClass, h.length]
  types other type := by
    have hnot : ¬IsClassIn steps id := h.isClassIn_iff.not.mpr (not_exists.mpr hclass)
    rw [h.types]
    refine leaves_congr (fun type => by rw [accumulated_defineClass]) fun others => ?_
    by_cases hother : other = id
    · subst hother
      refine iff_of_false (fun hlast => hnot hlast.isClassIn) fun hlast => hnot ?_
      obtain ⟨shape, ht⟩ := hlast.isClassIn
      exact ⟨shape, accumulated_defineClass steps other fields ▸ ht⟩
    · exact (lastDefines_defineClass_of_ne hother).symm
  pending other := by
    have hnot : ¬IsClassIn steps id := h.isClassIn_iff.not.mpr (not_exists.mpr hclass)
    rw [h.pending]
    refine Iff.trans ?_ since_snoc.symm
    constructor
    · intro hawaits
      refine Or.inr ⟨hawaits, fun _ heq => hnot ?_⟩
      cases heq
      exact hawaits.isClassIn
    · rintro (⟨⟨_, heq⟩, -⟩ | ⟨hawaits, -⟩)
      · cases heq
      · exact hawaits
  topLevels name id' :=
    (h.topLevels name id').trans (since_snoc_of_kept (by simp) (by simp)).symm

/-- An operation does to a draft what it does to the sequence. -/
theorem step (step : BuildStep) : (draft.step step).2.Tracks (steps ++ [step]) := by
  cases step with
  | add type => exact h.adds (.add type) (by simp) (by simp) (by simp)
  | nullable inner =>
    have hadds := h.adds (.nullable inner) (by simp) (by simp) (by simp)
    rw [added, List.append_cons] at hadds
    exact hadds
  | declareClass name => exact h.declareClass name
  | defineClass id fields =>
    by_cases hclass : ∃ shape, TypeAt draft.types id (.classType shape)
    · obtain ⟨shape, ht⟩ := hclass
      rw [step_defineClass_of_class fields ht]
      exact h.defineClass fields ht
    · rw [step_defineClass_of_not_class fields (not_exists.mp hclass)]
      exact h.refused fields (not_exists.mp hclass)
  | topLevel name id => exact h.topLevel name id

/-- Operations do to a draft what they do to the sequence. -/
theorem run (back : List BuildStep) : (draft.run back).2.Tracks (steps ++ back) := by
  induction back generalizing draft steps with
  | nil =>
    rw [List.append_nil]
    exact h
  | cons step rest ih =>
    rw [List.append_cons]
    exact ih (h.step step)

/-- An operation answers by the sequence before it. -/
theorem answers (step : BuildStep) : Answers steps step (draft.step step).1 := by
  cases step with
  | add type =>
    have hid : (draft.step (.add type)).1 = .added (BuildStep.nextId steps) :=
      congrArg BuildAnswer.added h.nextId_eq
    exact hid ▸ .add type
  | nullable inner =>
    have hid : (draft.step (.nullable inner)).1 = .added ⟨(BuildStep.nextId steps).index + 1⟩ := by
      rw [← h.nextId_eq]
      exact congrArg (fun index => BuildAnswer.added ⟨index⟩) List.length_append
    exact hid ▸ .nullable inner
  | declareClass name =>
    have hid : (draft.step (.declareClass name)).1 = .added (BuildStep.nextId steps) :=
      congrArg BuildAnswer.added h.nextId_eq
    exact hid ▸ .declareClass name
  | defineClass id fields =>
    by_cases hclass : ∃ shape, TypeAt draft.types id (.classType shape)
    · obtain ⟨shape, ht⟩ := hclass
      rw [step_defineClass_of_class fields ht]
      exact .defined fields (h.isClassIn_iff.mpr ⟨shape, ht⟩)
    · rw [step_defineClass_of_not_class fields (not_exists.mp hclass)]
      exact .refused fields (h.isClassIn_iff.not.mpr hclass)
  | topLevel name id => exact .topLevel name id

/-- No class is under construction when every declared class is defined later. -/
theorem pending_eq_nil_iff :
    draft.pending = []
      ↔ ∀ front name back, steps = front ++ .declareClass name :: back →
        ∃ middle fields rest, back = middle ++ .defineClass (BuildStep.nextId front) fields :: rest
          ∧ IsClassIn (front ++ .declareClass name :: middle) (BuildStep.nextId front) := by
  rw [List.eq_nil_iff_forall_not_mem]
  constructor
  · rintro hnone front name back rfl
    have hdefined : ¬∀ later ∈ back, ∀ fields,
        later ≠ .defineClass (BuildStep.nextId front) fields := fun hkept =>
      hnone _ ((h.pending _).mpr ⟨front, _, back, rfl, ⟨⟨name, rfl⟩, rfl⟩, hkept⟩)
    push Not at hdefined
    obtain ⟨_, hm, fields, rfl⟩ := hdefined
    obtain ⟨middle, rest, rfl⟩ := List.append_of_mem hm
    exact ⟨middle, fields, rest, rfl, isClassIn_of_declared front name middle⟩
  · intro hdefined id hm
    obtain ⟨front, _, back, rfl, ⟨⟨name, rfl⟩, rfl⟩, hkept⟩ := (h.pending id).mp hm
    obtain ⟨middle, fields, rest, rfl, -⟩ := hdefined front name back rfl
    exact hkept _ (by simp) fields rfl

/-- The check of a draft finds no fault when what is left is sound. -/
theorem fault?_eq_none_iff :
    TypeGraph.fault? draft.types draft.topLevels = none
      ↔ Sound (accumulated steps).length (Leaves steps) (LastNames steps) := by
  have htypes : TypeAt draft.types = Leaves steps :=
    funext fun id => funext fun type => propext (h.types id type)
  have hnames : (fun name id => draft.topLevels.get? name = some id) = LastNames steps :=
    funext fun name => funext fun id => propext (h.topLevels name id)
  rw [TypeGraph.fault?_eq_none_iff, htypes, hnames, h.length]

end Tracks

/-! ## Graphs -/

/-- The graph of a draft has its types and its names. -/
theorem build_eq_ok {graph : TypeGraph} :
    draft.build = .ok graph
      ↔ draft.pending = [] ∧ graph.types = draft.types ∧ graph.topLevels = draft.topLevels := by
  unfold build
  split
  · rename_i hpending
    simp [hpending]
  · rename_i hpending
    split
    · rename_i fault hfault
      constructor
      · intro h
        cases h
      · rintro ⟨-, htypes, hnames⟩
        have hsound := graph.sound
        rw [htypes, hnames, hfault] at hsound
        cases hsound
    · rename_i hsound
      constructor
      · intro h
        cases h
        exact ⟨hpending, rfl, rfl⟩
      · rintro ⟨-, htypes, hnames⟩
        cases graph
        cases htypes
        cases hnames
        rfl

/-- A draft is built if nothing is pending and the types have no fault. -/
theorem exists_build_iff :
    (∃ graph, draft.build = .ok graph)
      ↔ draft.pending = [] ∧ TypeGraph.fault? draft.types draft.topLevels = none := by
  constructor
  · rintro ⟨graph, h⟩
    obtain ⟨hpending, htypes, hnames⟩ := build_eq_ok.mp h
    exact ⟨hpending, htypes ▸ hnames ▸ graph.sound⟩
  · rintro ⟨hpending, hsound⟩
    exact ⟨⟨draft.types, draft.topLevels, hsound⟩, build_eq_ok.mpr ⟨hpending, rfl, rfl⟩⟩

/-- With no class under construction, only the check can fail. -/
theorem build_eq_error_iff (hpending : draft.pending = []) {error : GraphError} :
    draft.build = .error error ↔ TypeGraph.fault? draft.types draft.topLevels = some error := by
  cases hfault : TypeGraph.fault? draft.types draft.topLevels with
  | none =>
    obtain ⟨graph, h⟩ := exists_build_iff.mpr ⟨hpending, hfault⟩
    simp [h]
  | some fault =>
    unfold build
    rw [hpending]
    dsimp only
    split
    · rename_i found hfound
      cases hfault.symm.trans hfound
      simp
    · rename_i hnone
      cases hfault.symm.trans hnone

/-- A refused operation leaves the draft as it was. -/
theorem step_of_refused {step : BuildStep} {error : GraphError}
    (h : (draft.step step).1 = .refused error) : (draft.step step).2 = draft := by
  cases step with
  | defineClass id fields =>
    by_cases hclass : ∃ shape, TypeAt draft.types id (.classType shape)
    · obtain ⟨shape, ht⟩ := hclass
      rw [step_defineClass_of_class fields ht] at h
      cases h
    · rw [step_defineClass_of_not_class fields (not_exists.mp hclass)]
  | _ => cases h

theorem run_cons (draft : Draft) (step : BuildStep) (rest : List BuildStep) :
    draft.run (step :: rest)
      = ((draft.step step).1 :: ((draft.step step).2.run rest).1,
        ((draft.step step).2.run rest).2) := rfl

/-- Steps of two lists are taken one after the other. -/
theorem run_append (draft : Draft) (front back : List BuildStep) :
    draft.run (front ++ back)
      = ((draft.run front).1 ++ ((draft.run front).2.run back).1,
        ((draft.run front).2.run back).2) := by
  induction front generalizing draft with
  | nil => rfl
  | cons step rest ih => rw [List.cons_append, run_cons, ih, run_cons, List.cons_append]

/-- Every step has an outcome. -/
theorem length_run (draft : Draft) (steps : List BuildStep) :
    (draft.run steps).1.length = steps.length := by
  induction steps generalizing draft with
  | nil => rfl
  | cons step rest ih => rw [run_cons, List.length_cons, List.length_cons, ih]

/-- The answer of an operation is that on the draft that those before it leave. -/
theorem answer_run (draft : Draft) (front : List BuildStep) (step : BuildStep)
    (back : List BuildStep) :
    (draft.run (front ++ step :: back)).1[front.length]?
      = some ((draft.run front).2.step step).1 := by
  rw [run_append, ← length_run draft front, List.getElem?_append_right (Nat.le_refl _),
    Nat.sub_self]
  rfl

end Draft

/-- A graph holds what operations leave. -/
structure TypeGraph.BuiltBy (graph : TypeGraph) (steps : List BuildStep) : Prop where
  /-- There are as many types as were added. -/
  size : graph.size = (BuildStep.accumulated steps).length
  /-- The types are those that are left. -/
  types : ∀ id type, graph.get? id = some type ↔ BuildStep.Leaves steps id type
  /-- The names have the last ids given for them. -/
  topLevels : ∀ name id, graph.topLevel? name = some id ↔ BuildStep.LastNames steps name id

namespace Draft

open BuildStep

/-- Whatever operations are performed, with ids of types that exist or not: there is a graph
exactly if what they leave is valid, and it is what they leave. Each operation answers by
those before it, and one that is refused changes nothing. -/
theorem build_run (steps : List BuildStep) :
    ((∃ graph, (empty.run steps).2.build = .ok graph) ↔ Valid steps)
    ∧ (∀ graph, (empty.run steps).2.build = .ok graph → graph.BuiltBy steps)
    ∧ ∀ front step back, steps = front ++ step :: back →
      ∃ answer, (empty.run steps).1[front.length]? = some answer ∧ Answers front step answer
        ∧ ∀ error, answer = .refused error →
          (empty.run (front ++ [step])).2 = (empty.run front).2 := by
  have htracks : (empty.run steps).2.Tracks steps := tracks_empty.run steps
  refine ⟨?_, fun graph h => ?_, ?_⟩
  · rw [exists_build_iff, htracks.pending_eq_nil_iff, htracks.fault?_eq_none_iff]
    exact ⟨fun h => ⟨h.1, h.2⟩, fun h => ⟨h.defined, h.sound⟩⟩
  · obtain ⟨-, htypes, hnames⟩ := build_eq_ok.mp h
    constructor
    · rw [TypeGraph.size, htypes, htracks.length]
    · intro id type
      rw [← htracks.types, TypeGraph.get?, htypes]
      rfl
    · intro name id
      rw [← htracks.topLevels, TypeGraph.topLevel?, hnames]
  · rintro front step back rfl
    refine ⟨_, answer_run empty front step back, (tracks_empty.run front).answers step,
      fun error h => ?_⟩
    rw [run_append]
    exact step_of_refused h

/-- A chain of links with texts. The class is defined too early, then with a field of a type
that never exists, then well; the name is given twice, first to no type. -/
def linkSteps : List BuildStep := [
  .add .string,
  .defineClass ⟨1⟩ OrderedMap.empty,
  .declareClass "Link",
  .nullable ⟨1⟩,
  .defineClass ⟨1⟩ ⟨[("text", ⟨⟨9⟩, false⟩)], by decide⟩,
  .defineClass ⟨1⟩ ⟨[("text", ⟨⟨0⟩, false⟩), ("next", ⟨⟨3⟩, true⟩)], by decide⟩,
  .topLevel "chain" ⟨8⟩,
  .topLevel "chain" ⟨1⟩]

/-- The graph of chains. -/
def linkGraph : TypeGraph where
  types := [
    .string,
    .classType ⟨"Link", ⟨[("text", ⟨⟨0⟩, false⟩), ("next", ⟨⟨3⟩, true⟩)], by decide⟩⟩,
    .null,
    .union ⟨[⟨2⟩, ⟨1⟩], by decide⟩]
  topLevels := ⟨[("chain", ⟨1⟩)], by decide⟩
  sound := by decide

/-- Chains have a graph in spite of what was performed too early, and an array of a type that
does not follow spoils it. -/
theorem build_run_link :
    (empty.run linkSteps).2.build = .ok linkGraph
      ∧ Valid linkSteps
      ∧ linkGraph.BuiltBy linkSteps
      ∧ Answers [.add .string] (.defineClass ⟨1⟩ OrderedMap.empty) (.refused (.notAClass ⟨1⟩))
      ∧ ¬Valid (linkSteps ++ [.add (.array ⟨5⟩)]) := by
  have hbuild : (empty.run linkSteps).2.build = .ok linkGraph := rfl
  obtain ⟨hvalid, hbuilt, hanswers⟩ := build_run linkSteps
  obtain ⟨answer, hanswer, hrefused, -⟩ := hanswers [.add .string] _ _ rfl
  cases hanswer
  refine ⟨hbuild, hvalid.mp ⟨linkGraph, hbuild⟩, hbuilt linkGraph hbuild, hrefused, fun h => ?_⟩
  obtain ⟨graph, hgraph⟩ := (build_run (linkSteps ++ [.add (.array ⟨5⟩)])).1.mpr h
  cases hgraph

end Draft

end Hydration
