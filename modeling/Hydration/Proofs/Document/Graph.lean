import Hydration.Proofs.Document.Passes
import Hydration.TypeGraph.Shape

/-!
# Graphs of documents

A graph says what its document says: the named types with their fields and cases, and
expressions that are read back as they were written. There is a graph unless a name is
unknown, of which the first is reported, or else a union is malformed.
-/

namespace Hydration.GraphDocument

open TypeGraph (TypeAt)
open TypeExpr (primitive? Within ReadsAs)

/-! ## What a graph says -/

/-- A field of a class is written in a document. -/
structure FieldWritten (types : List Ty) (entry : String × Field) (field : String × FieldDoc) :
    Prop where
  /-- Under its key. -/
  key : entry.1 = field.1
  /-- Optional or not. -/
  optional : entry.2.optional = field.2.optional
  /-- With its type, which is read as the expression and no other one. -/
  type : ∀ read, ReadsAs types entry.2.type read ↔ read = field.2.type.collapse

/-- A named type is written in a document. -/
inductive TypeWritten (types : List Ty) (name : String) (id : TypeId) : NamedType → Prop where
  /-- A class with its fields in order. -/
  | classDoc {fields : OrderedMap String FieldDoc} {shape : ClassType}
      (h : TypeAt types id (.classType shape)) (hs : shape.name = name)
      (hf : List.Forall₂ (FieldWritten types) shape.fields.entries fields.entries) :
      TypeWritten types name id (.classDoc fields)
  /-- An enum with its cases in order, each once. -/
  | enumDoc {cases : List String}
      (h : TypeAt types id (.enumType ⟨name, OrderedSet.ofList cases⟩)) :
      TypeWritten types name id (.enumDoc cases)

/-- A graph holds what a document says. -/
structure Describes (doc : GraphDocument) (graph : TypeGraph) : Prop where
  /-- The named types have the first ids in document order. -/
  named : ∀ index name type, doc.types.entries[index]? = some (name, type) →
    TypeWritten graph.types name ⟨index⟩ type
  /-- No other types have names. -/
  others : ∀ id, doc.types.size ≤ id.index → graph.displayName? id = none
  /-- The entry points are read as their expressions, in document order. -/
  topLevels : List.Forall₂
    (fun (entry : String × TypeId) (written : String × TypeExpr) => entry.1 = written.1
      ∧ ∀ read, ReadsAs graph.types entry.2 read ↔ read = written.2.collapse)
    graph.topLevels.entries doc.topLevels.entries

variable {doc : GraphDocument} {draft : Draft}

/-! ## Names -/

/-- The names in a document are parts of its expressions. -/
theorem exists_mention_iff {name : String} :
    (∃ location, (location, name) ∈ doc.mentions) ↔ doc.HasPart (.name name) := by
  constructor
  · rintro ⟨location, hm⟩
    rcases List.mem_append.mp hm with hm | hm
    · obtain ⟨⟨owner, type⟩, htype, hm⟩ := List.mem_flatMap.mp hm
      cases type with
      | enumDoc cases => cases hm
      | classDoc fields =>
        obtain ⟨field, hfield, hm⟩ := List.mem_flatMap.mp hm
        exact ⟨_, .field htype hfield, TypeExpr.exists_mentionAt_iff.mp ⟨location, hm⟩⟩
    · obtain ⟨entry, hentry, hm⟩ := List.mem_flatMap.mp hm
      exact ⟨_, .topLevel hentry, TypeExpr.exists_mentionAt_iff.mp ⟨location, hm⟩⟩
  · rintro ⟨expr, hexpr, hw⟩
    cases hexpr with
    | field htype hfield =>
      obtain ⟨location, hm⟩ := TypeExpr.exists_mentionAt_iff.mpr hw
      exact ⟨location, List.mem_append_left _ (List.mem_flatMap.mpr
        ⟨_, htype, List.mem_flatMap.mpr ⟨_, hfield, hm⟩⟩)⟩
    | topLevel hentry =>
      obtain ⟨location, hm⟩ := TypeExpr.exists_mentionAt_iff.mpr hw
      exact ⟨location, List.mem_append_right _ (List.mem_flatMap.mpr ⟨_, hentry, hm⟩)⟩

/-- There is a first unknown name unless all names are known. -/
theorem firstUnknown?_eq_none_iff :
    doc.firstUnknown? = none ↔ ∀ name, doc.HasPart (.name name) → doc.knows name = true := by
  rw [firstUnknown?, List.find?_eq_none]
  constructor
  · intro h name hpart
    obtain ⟨location, hm⟩ := exists_mention_iff.mpr hpart
    simpa using h _ hm
  · rintro h ⟨location, name⟩ hm
    simpa using h name (exists_mention_iff.mp ⟨location, hm⟩)

/-- The graph of a document is not made because of an unknown name exactly if that is the
first one. -/
theorem toGraph_eq_unknownType_iff {name location : String} :
    doc.toGraph = .error (.unknownType name location)
      ↔ doc.firstUnknown? = some (location, name) := by
  have hgraph : ¬∃ draft, doc.lowered = .ok draft
      ∧ draft.build.mapError LoweringError.graph = .error (.unknownType name location) := by
    rintro ⟨draft, -, h⟩
    cases hbuild : draft.build <;> rw [hbuild] at h <;> cases h
  rw [toGraph_eq, bind_eq_error, or_iff_left hgraph, ← failure?_eq_some_iff, failure?_lowered]
  simp [Option.map_eq_some_iff, and_comm]

/-- A document without unknown names has a draft. -/
theorem exists_lowered_iff :
    (∃ draft, doc.lowered = .ok draft)
      ↔ ∀ name, doc.HasPart (.name name) → doc.knows name = true := by
  rw [← failure?_eq_none_iff, failure?_lowered, Option.map_eq_none_iff, firstUnknown?_eq_none_iff]

/-! ## Types -/

/-- Only references are of the kinds of named types. -/
theorem kindOf_of_not_reference (doc : GraphDocument) {expr : TypeExpr}
    (href : expr.isReference = false) :
    doc.kindOf expr ≠ some .classKind ∧ doc.kindOf expr ≠ some .enumKind := by
  cases expr with
  | name text =>
    rw [TypeExpr.isReference] at href
    rw [kindOf]
    cases hp : primitive? text with
    | none =>
      rw [hp] at href
      cases href
    | some type =>
      unfold primitive? at hp
      split at hp <;> cases hp <;> simp [Ty.kind]
  | _ => simp [kindOf]

/-- Where the type of an id comes from. -/
inductive Origin (doc : GraphDocument) (types : List Ty) (id : TypeId) : Ty → Prop where
  /-- From a class with its fields. -/
  | classDoc {fields : OrderedMap String FieldDoc} {shape : ClassType}
      (hf : List.Forall₂ (FieldDenotes doc.ids types) shape.fields.entries fields.entries) :
      Origin doc types id (.classType shape)
  /-- From an enum. -/
  | enumDoc (shape : EnumType) : Origin doc types id (.enumType shape)
  /-- From an expression that is no reference. -/
  | expr {type : Ty} {part : TypeExpr} (hpart : doc.HasPart part) (href : part.isReference = false)
      (hd : Denotes doc.ids types id part) : Origin doc types id type

namespace Complete

variable (h : doc.Complete draft)
include h

/-- The parts of the document have types. -/
theorem exists_denotes {part : TypeExpr} (hpart : doc.HasPart part) :
    ∃ id, Denotes doc.ids draft.types id part := by
  obtain ⟨expr, hexpr, hw⟩ := hpart
  cases hexpr with
  | field htype hfield =>
    obtain ⟨-, shape, -, -, -, hf⟩ := h.defined _ _ htype
    obtain ⟨entry, -, hentry⟩ := exists_of_forall₂_right hf hfield
    exact hentry.type.exists_within hw
  | topLevel hentry =>
    obtain ⟨entry, -, hentry⟩ := exists_of_forall₂_right h.topLevels hentry
    exact hentry.type.exists_within hw

/-- The entry points are in range. -/
theorem topLevels_lt : ∀ id ∈ draft.topLevels.values, id.index < draft.types.length := by
  intro id hm
  obtain ⟨entry, hentry, rfl⟩ := List.mem_map.mp hm
  obtain ⟨written, -, hd⟩ := exists_of_forall₂_left h.topLevels hentry
  exact hd.type.lt h.holds

/-- Every type comes from the document. -/
theorem origin {id : TypeId} {type : Ty} (ht : TypeAt draft.types id type) :
    doc.Origin draft.types id type := by
  rcases Nat.lt_or_ge id.index doc.types.size with hnamed | hmade
  · obtain ⟨⟨name, written⟩, hentry⟩ : ∃ entry, doc.types.entries[id.index]? = some entry :=
      ⟨_, List.getElem?_eq_getElem hnamed⟩
    have hm := List.mem_of_getElem? hentry
    have hid := (doc.positions name id).mpr ⟨written, hentry⟩
    obtain ⟨found, hfound, hat⟩ := h.holds name id hid
    cases hfound.symm.trans (OrderedMap.mem_entries_iff.mp hm)
    cases hat with
    | classDoc _ _ =>
      obtain ⟨id', shape, hid', ht', -, hf⟩ := h.defined _ _ hm
      cases hid.symm.trans hid'
      cases ht.symm.trans ht'
      exact .classDoc hf
    | enumDoc henum =>
      cases ht.symm.trans henum
      exact .enumDoc _
  · obtain ⟨part, hpart, href, hd⟩ := h.made id hmade ht.lt
    exact .expr hpart href hd

/-- What a type refers to is in range. -/
theorem references_lt {id : TypeId} {type : Ty} (ht : TypeAt draft.types id type) :
    ∀ next ∈ type.references, next.index < draft.types.length := by
  cases h.origin ht with
  | classDoc hf =>
    intro next hnext
    obtain ⟨field, hfield, rfl⟩ := List.mem_map.mp hnext
    obtain ⟨entry, hentry, rfl⟩ := List.mem_map.mp hfield
    obtain ⟨written, -, hd⟩ := exists_of_forall₂_left hf hentry
    exact hd.type.lt h.holds
  | enumDoc shape =>
    intro next hnext
    cases hnext
  | expr _ href hd => exact hd.references_lt h.holds href ht

/-- The check finds no fault exactly if no union in the document is malformed. -/
theorem fault?_eq_none_iff :
    TypeGraph.fault? draft.types draft.topLevels = none
      ↔ ∀ members, doc.HasPart (.union members) → ¬doc.Malformed members := by
  rw [TypeGraph.fault?_eq_none_iff]
  constructor
  · intro hsound members hpart
    obtain ⟨id, hd⟩ := h.exists_denotes hpart
    obtain ⟨type, ht⟩ := TypeGraph.exists_typeAt_iff.mpr (hd.lt h.holds)
    exact (hd.sound_iff h.holds rfl ht).mp (hsound.types id type ht) members rfl
  · intro hwell
    refine ⟨fun id type ht => ?_, fun name id hname => ?_⟩
    · have hr := h.references_lt ht
      cases h.origin ht with
      | classDoc hf => exact Ty.sound_of_not_union (by simp) hr
      | enumDoc shape => exact Ty.sound_of_not_union (by simp) hr
      | expr hpart href hd =>
        refine (hd.sound_iff h.holds href ht).mpr fun members heq => ?_
        subst heq
        exact hwell members hpart
    · exact h.topLevels_lt id (List.mem_map_of_mem (OrderedMap.mem_entries_iff.mpr hname))

/-- Only unions have faults. -/
theorem unionFault {error : GraphError}
    (hfault : TypeGraph.fault? draft.types draft.topLevels = some error) :
    TypeGraph.UnionFault error := by
  refine TypeGraph.unionFault_of_fault? (fun type hm => ?_) h.topLevels_lt hfault
  obtain ⟨index, ht⟩ := List.mem_iff_getElem?.mp hm
  exact h.references_lt (show TypeAt draft.types ⟨index⟩ type from ht)

/-- The graph of a complete draft says what the document says. -/
theorem describes {graph : TypeGraph} (htypes : graph.types = draft.types)
    (hnames : graph.topLevels = draft.topLevels) : doc.Describes graph where
  named index name type hentry := by
    have hm := List.mem_of_getElem? hentry
    have hid := (doc.positions name ⟨index⟩).mpr ⟨type, hentry⟩
    rw [htypes]
    cases type with
    | classDoc fields =>
      obtain ⟨id, shape, hid', ht, hs, hf⟩ := h.defined _ _ hm
      cases hid.symm.trans hid'
      refine .classDoc ht hs (hf.imp fun entry field hfield => ?_)
      exact ⟨hfield.key, hfield.optional, fun read => hfield.type.readsAs_iff h.holds⟩
    | enumDoc cases =>
      obtain ⟨found, hfound, hat⟩ := h.holds name _ hid
      cases hfound.symm.trans (OrderedMap.mem_entries_iff.mp hm)
      obtain - | henum := hat
      exact .enumDoc henum
  others id hmade := by
    rw [TypeGraph.displayName?, TypeGraph.get?, htypes]
    cases ht : draft.types[id.index]? with
    | none => rfl
    | some type =>
      obtain ⟨part, -, href, hd⟩ := h.made id hmade (TypeAt.lt ht)
      have hkind := hd.kindOf_eq h.holds ht
      obtain ⟨hclass, henum⟩ := doc.kindOf_of_not_reference href
      cases type with
      | classType shape => exact absurd hkind hclass
      | enumType shape => exact absurd hkind henum
      | _ => rfl
  topLevels := by
    rw [htypes, hnames]
    refine h.topLevels.imp fun entry written hd => ?_
    exact ⟨hd.key, fun read => hd.type.readsAs_iff h.holds⟩

end Complete

/-! ## Results -/

/-- There is a graph if the draft of the document has one. -/
theorem toGraph_eq_ok_iff {graph : TypeGraph} :
    doc.toGraph = .ok graph ↔ ∃ draft, doc.lowered = .ok draft ∧ draft.build = .ok graph := by
  rw [toGraph_eq, bind_eq_ok]
  exact exists_congr fun draft => and_congr_right fun _ => mapError_eq_ok

/-- The check fails exactly if the draft of the document has a fault. -/
theorem toGraph_eq_graph_iff {error : GraphError} :
    doc.toGraph = .error (.graph error)
      ↔ ∃ draft, doc.lowered = .ok draft
        ∧ TypeGraph.fault? draft.types draft.topLevels = some error := by
  have hlowered : doc.lowered ≠ .error (.graph error) := by
    intro h
    have hfailure := failure?_lowered doc
    rw [failure?_eq_some_iff.mpr h] at hfailure
    obtain ⟨mention, -, heq⟩ := Option.map_eq_some_iff.mp hfailure.symm
    cases heq
  rw [toGraph_eq, bind_eq_error, or_iff_right hlowered]
  refine exists_congr fun draft => and_congr_right fun h => ?_
  rw [← Draft.build_eq_error_iff (complete_of_lowered h).pending]
  cases draft.build <;> simp [Except.mapError]

/-- Lowering stops at an unknown name if there is one. -/
theorem exists_unknownType_iff :
    (∃ name location, doc.toGraph = .error (.unknownType name location))
      ↔ ∃ name, doc.HasPart (.name name) ∧ doc.knows name = false := by
  have hsome : (∃ name location, doc.toGraph = .error (.unknownType name location))
      ↔ doc.firstUnknown? ≠ none := by
    simp only [toGraph_eq_unknownType_iff, Option.ne_none_iff_exists', Prod.exists]
    exact exists_comm
  rw [hsome, ne_eq, firstUnknown?_eq_none_iff]
  simp

/-- Without an unknown name, the check fails if a union is malformed. -/
theorem exists_graphError_iff :
    (∃ error, doc.toGraph = .error (.graph error))
      ↔ (∀ name, doc.HasPart (.name name) → doc.knows name = true)
        ∧ ∃ members, doc.HasPart (.union members) ∧ doc.Malformed members := by
  rw [← exists_lowered_iff]
  constructor
  · rintro ⟨error, h⟩
    obtain ⟨draft, hlowered, hfault⟩ := toGraph_eq_graph_iff.mp h
    refine ⟨⟨draft, hlowered⟩, ?_⟩
    by_contra hnone
    push Not at hnone
    cases hfault.symm.trans ((complete_of_lowered hlowered).fault?_eq_none_iff.mpr hnone)
  · rintro ⟨⟨draft, hlowered⟩, members, hpart, hmalformed⟩
    have hfault : TypeGraph.fault? draft.types draft.topLevels ≠ none := fun hnone =>
      (complete_of_lowered hlowered).fault?_eq_none_iff.mp hnone members hpart hmalformed
    obtain ⟨error, hfault⟩ := Option.ne_none_iff_exists'.mp hfault
    exact ⟨error, toGraph_eq_graph_iff.mpr ⟨draft, hlowered, hfault⟩⟩

/-- A graph says what its document says: named types come first with their fields or cases,
and every expression is read back as it was written, but for repeated references in unions.
A document has a graph unless a name is unknown, and then the first one in it is reported
with its location, or else a union is malformed; there are no other failures. -/
theorem toGraph_describes_or_fails (doc : GraphDocument) :
    (∀ graph, doc.toGraph = .ok graph → doc.Describes graph)
    ∧ ((∃ name location, doc.toGraph = .error (.unknownType name location))
      ↔ ∃ name, doc.HasPart (.name name) ∧ doc.knows name = false)
    ∧ (∀ name location, doc.toGraph = .error (.unknownType name location)
      ↔ doc.firstUnknown? = some (location, name))
    ∧ ((∃ error, doc.toGraph = .error (.graph error))
      ↔ (∀ name, doc.HasPart (.name name) → doc.knows name = true)
        ∧ ∃ members, doc.HasPart (.union members) ∧ doc.Malformed members)
    ∧ ∀ error, doc.toGraph = .error (.graph error) → TypeGraph.UnionFault error := by
  refine ⟨fun graph h => ?_, exists_unknownType_iff, fun _ _ => toGraph_eq_unknownType_iff,
    exists_graphError_iff, fun error h => ?_⟩
  · obtain ⟨draft, hlowered, hbuild⟩ := toGraph_eq_ok_iff.mp h
    obtain ⟨-, htypes, hnames⟩ := Draft.build_eq_ok.mp hbuild
    exact (complete_of_lowered hlowered).describes htypes hnames
  · obtain ⟨draft, hlowered, hfault⟩ := toGraph_eq_graph_iff.mp h
    exact (complete_of_lowered hlowered).unionFault hfault

/-- A document of nodes with a text and something that they may hold. The colours are
declared after the nodes, and one of them twice. -/
def nodeDoc (holds : TypeExpr) : GraphDocument where
  topLevels := ⟨[("root", .name "Node")], by decide⟩
  types := ⟨[
    ("Node", .classDoc ⟨[("text", ⟨.name "string", false⟩), ("holds", ⟨holds, true⟩)], by simp⟩),
    ("Color", .enumDoc ["red", "green", "red"])], by simp⟩

/-- The graph of nodes that hold colours and nodes. -/
def nodeGraph : TypeGraph where
  types := [
    .classType ⟨"Node", ⟨[("text", ⟨⟨2⟩, false⟩), ("holds", ⟨⟨4⟩, true⟩)], by decide⟩⟩,
    .enumType ⟨"Color", .ofList ["red", "green"]⟩,
    .string,
    .union (.ofList [⟨1⟩, ⟨0⟩]),
    .array ⟨3⟩]
  topLevels := ⟨[("root", ⟨0⟩)], by decide⟩
  sound := by decide

/-- Nodes can hold arrays of colours and nodes, with the colours said twice. They cannot hold
leaves, which are not declared, nor strings that may be dates. -/
theorem toGraph_describes_or_fails_node :
    (nodeDoc (.array (.union [.name "Color", .name "Node", .name "Color"]))).toGraph
        = .ok nodeGraph
      ∧ (nodeDoc (.array (.union [.name "Color", .name "Node", .name "Color"]))).Describes nodeGraph
      ∧ ReadsAs nodeGraph.types ⟨4⟩ (.array (.union [.name "Color", .name "Node"]))
      ∧ (nodeDoc (.union [.name "string", .array (.name "Leaf")])).toGraph
        = .error (.unknownType "Leaf" "types.Node.fields.holds|1[]")
      ∧ (nodeDoc (.union [.name "string", .transformed "date"])).toGraph
        = .error (.graph (.duplicateUnionKind .string))
      ∧ TypeGraph.UnionFault (.duplicateUnionKind .string)
      ∧ ∃ members, (nodeDoc (.union [.name "string", .transformed "date"])).HasPart (.union members)
        ∧ (nodeDoc (.union [.name "string", .transformed "date"])).Malformed members := by
  have hgraph : (nodeDoc (.array (.union [.name "Color", .name "Node", .name "Color"]))).toGraph
      = .ok nodeGraph := rfl
  have hdescribes := (toGraph_describes_or_fails _).1 nodeGraph hgraph
  have hclash : (nodeDoc (.union [.name "string", .transformed "date"])).toGraph
      = .error (.graph (.duplicateUnionKind .string)) := rfl
  obtain ⟨-, -, -, hmalformed, hunion⟩ :=
    toGraph_describes_or_fails (nodeDoc (.union [.name "string", .transformed "date"]))
  refine ⟨hgraph, hdescribes, ?_, ?_, hclash, hunion _ hclash, (hmalformed.mp ⟨_, hclash⟩).2⟩
  · cases hdescribes.named 0 "Node" _ rfl with
    | classDoc h _ hf =>
      cases h
      obtain _ | ⟨-, _ | ⟨hholds, -⟩⟩ := hf
      exact (hholds.type _).mpr rfl
  · exact ((toGraph_describes_or_fails _).2.2.1 _ _).mpr rfl

end Hydration.GraphDocument
