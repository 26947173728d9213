import Hydration.Proofs.Typed.Presence
import Mathlib.Logic.Relation

/-!
# Members in another order

Of an object, reading an instance looks at the members of the declared keys only, and
finds each by its key. So wherever an object is read as an instance, its members may be
put in another order, and members of other keys may come and go: the document gives the
same instance or the same error.
-/

namespace Hydration

/-- The members of an object in another order, or with a member of an undeclared key
more or less. -/
inductive ClassType.Shuffles (shape : ClassType) :
    List (String × Json) → List (String × Json) → Prop where
  /-- They are in another order. -/
  | moved {members members' : List (String × Json)} (h : members.Perm members') :
      Shuffles shape members members'
  /-- A member of an undeclared key is added. -/
  | added {key : String} (hk : key ∉ shape.fields.keys) (value : Json)
      (front back : List (String × Json)) :
      Shuffles shape (front ++ back) (front ++ (key, value) :: back)
  /-- A member of an undeclared key is removed. -/
  | removed {key : String} (hk : key ∉ shape.fields.keys) (value : Json)
      (front back : List (String × Json)) :
      Shuffles shape (front ++ (key, value) :: back) (front ++ back)

/-- A declared key finds the same in shuffled members. -/
theorem ClassType.Shuffles.get?_eq {shape : ClassType} {members members' : List (String × Json)}
    (h : shape.Shuffles members members') (hn : (members.map Prod.fst).Nodup) {key : String}
    (hk : key ∈ shape.fields.keys) : Entries.get? key members = Entries.get? key members' := by
  cases h with
  | moved hperm => exact Entries.get?_eq_of_perm hn hperm key
  | added hother value front back =>
    have hne := (ne_of_mem_of_not_mem hk hother).symm
    exact (Entries.get?_append_cons_of_ne hne value front back).symm
  | removed hother value front back =>
    exact Entries.get?_append_cons_of_ne (ne_of_mem_of_not_mem hk hother).symm value front back

namespace Converters

variable (graph : TypeGraph) (plan : Converters)

/-- One object of a document that is read as an instance has its members shuffled. -/
inductive Rearranges (rule : Rule) : Json → Json → Prop where
  /-- The object stands at the end of steps that the reading takes. -/
  | intro {value : Json} {steps : List Json.Step} {id : TypeId} {shape : ClassType}
      {members members' : List (String × Json)} (hw : value.WellKeyed)
      (hv : plan.Visits .free rule value steps (.classRef id) (.object members))
      (hs : graph.get? id = some (.classType shape)) (hm : shape.Shuffles members members') :
      Rearranges rule value (value.modify steps fun _ => .object members')

variable {graph plan}

/-- Reading an instance does not tell shuffled members apart. -/
theorem dehydrateRule_eq_of_shuffles (hp : plan.Faithful graph) {id : TypeId} {shape : ClassType}
    (hs : graph.get? id = some (.classType shape)) {members members' : List (String × Json)}
    (hm : shape.Shuffles members members') (hn : (members.map Prod.fst).Nodup) (path : Path) :
    plan.dehydrateRule (.object members) (.classRef id) path
      = plan.dehydrateRule (.object members') (.classRef id) path := by
  cases hc : plan.classes.get? id with
  | none =>
    have hmissing : ∀ value, plan.dehydrateRule value (.classRef id) path
        = .error (.missingConverter id) := by
      intro value
      refine map_eq_error.mpr ?_
      rw [readObject, classConverter, hc]
      rfl
    rw [hmissing, hmissing]
  | some converter =>
    obtain ⟨hs', hfields⟩ := hp.classes id converter hc
    cases hs.symm.trans hs'
    have hkeys := Plan.map_key_eq hfields
    rw [dehydrateRule_object hc, dehydrateRule_object hc]
    refine congrArg _ (readFields_congr (fun field hf => hm.get?_eq hn ?_) path)
    rw [OrderedMap.keys, ← hkeys]
    exact List.mem_map_of_mem hf

/-- Reading a document does not tell it from one in which an object that is read as an
instance has its members shuffled. -/
theorem Rearranges.dehydrateRule_eq (hp : plan.Faithful graph) {rule : Rule} {value value' : Json}
    (h : plan.Rearranges graph rule value value') (path : Path) :
    plan.dehydrateRule value rule path = plan.dehydrateRule value' rule path := by
  obtain ⟨hw, hv, hs, hm⟩ := h
  have hkeys := (Json.wellKeyed_object_iff.mp (hv.wellKeyed hw)).1
  obtain ⟨frame, -, hsame, hframe⟩ := hv.exists_frame (fun _ _ => hp.nodup_keys) hw path
  rw [hsame, dehydrateRule_eq_of_shuffles hp hs hm hkeys]
  exact (hframe (fun _ => .object _) rfl).symm

/-- A document gives the same instance or the same error as any document that comes of
it by shuffling the members of objects that are read as instances. The fields of the
instance are in declared order. -/
theorem dehydrate_eq_of_rearranged {entries : List TypeId} {routing : UnionRouting}
    (h : build graph entries routing = .ok plan) {id : TypeId} {value value' : Json}
    (hr : Relation.ReflTransGen (plan.Rearranges graph (.classRef id)) value value') :
    plan.dehydrate id value = plan.dehydrate id value'
      ∧ ∀ typed, plan.dehydrate id value' = .ok typed →
        ∃ shape, graph.get? id = some (.classType shape)
          ∧ typed.fields.map Prod.fst = shape.fields.keys := by
  have hp := faithful_of_build h
  constructor
  · induction hr with
    | refl => rfl
    | tail _ hstep ih =>
      refine ih.trans (map_injective (fun _ _ => TypedValue.object.inj) ?_)
      exact hstep.dehydrateRule_eq hp Path.top
  · intro typed ht
    cases readObject_eq_ok.mp ht with
    | intro hc hf =>
      obtain ⟨hs, hfields⟩ := hp.classes id _ hc
      refine ⟨_, hs, ?_⟩
      rw [OrderedMap.keys, ← Plan.map_key_eq hfields]
      exact (map_eq_of_forall₂ hf fun _ _ hfield => hfield.1.symm).symm

/-- The title of a folder may come last, and a folder in it may have a member of a key
that folders do not declare. -/
theorem dehydrate_eq_of_rearranged_folder :
    folderPlan.dehydrate ⟨0⟩ (.object [
        ("parts", .array [.string "p", .object (("size", .null) :: leafMembers)]),
        ("title", .string "t")])
      = .ok (folderOf (leafFields (some (.string "n")))) := by
  have hbuild : build folderGraph [⟨0⟩] .codec = .ok folderPlan := rfl
  have hread : folderPlan.dehydrate ⟨0⟩ (folderValue leafMembers)
      = .ok (folderOf (leafFields (some (.string "n")))) := rfl
  have htype : folderGraph.get? ⟨0⟩ = some (.classType folderShape) := rfl
  have hsize : "size" ∉ folderShape.fields.keys := by decide
  have hadded : folderPlan.Rearranges folderGraph (.classRef ⟨0⟩) (folderValue leafMembers)
      (folderValue (("size", .null) :: leafMembers)) :=
    .intro (folder_wellKeyed leaf_wellKeyed) (folder_visits leafMembers) htype
      (.added hsize .null [] leafMembers)
  have hleaf : (Json.object (("size", .null) :: leafMembers)).WellKeyed := by
    obtain ⟨-, hparts⟩ := Json.wellKeyed_object_iff.mp leaf_wellKeyed
    refine Json.wellKeyed_object_iff.mpr ⟨by decide, fun member hm => ?_⟩
    rcases List.mem_cons.mp hm with rfl | hm
    · exact Json.wellKeyed_of_parts_eq_nil rfl
    · exact hparts member hm
  have hmoved : folderPlan.Rearranges folderGraph (.classRef ⟨0⟩)
      (folderValue (("size", .null) :: leafMembers)) (.object [
        ("parts", .array [.string "p", .object (("size", .null) :: leafMembers)]),
        ("title", .string "t")]) :=
    .intro (folder_wellKeyed hleaf) (.here _ _) htype (.moved (.swap _ _ []))
  rw [← (dehydrate_eq_of_rearranged hbuild (.tail (.single hadded) hmoved)).1]
  exact hread

end Converters

end Hydration
