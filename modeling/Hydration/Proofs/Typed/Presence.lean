import Hydration.Proofs.Typed.Frames
import Hydration.Proofs.Typed.RoundTrip

/-!
# Members that are taken away

An object that is read as an instance has a member for each required field. Without
the member of a required field its document is refused for this field, at any depth;
without that of an optional field it is read the same but for the value of this field.
-/

namespace Hydration

namespace Converters

variable {plan : Converters}

/-- An instance without the member of a field: the field is missing if it is required,
and else only its value is. -/
theorem dehydrateRule_without (hd : plan.DistinctKeys) {id : TypeId} {converter : ClassConverter}
    {field : FieldConverter} {members : List (String × Json)} {path : Path} {object : TypedObject}
    (hc : plan.classes.get? id = some converter) (hf : field ∈ converter.fields)
    (h : plan.dehydrateRule (.object members) (.classRef id) path = .ok (.object object)) :
    plan.dehydrateRule ((Json.object members).without field.key) (.classRef id) path
      = if field.optional then .ok (.object (object.absent field.key))
        else .error (.missingField converter.name field.key) := by
  obtain ⟨front, back, hs⟩ := List.append_of_mem hf
  have hothers := key_ne_of_nodup hs (hd id converter hc)
  have hsame : ∀ other ∈ front ++ back,
      Entries.get? other.key (Entries.without field.key members)
        = Entries.get? other.key members := by
    intro other ho
    rw [Entries.get?_without, if_neg (hothers other ho)]
  have hnone : Entries.get? field.key (plan.memberSources (Entries.without field.key members))
      = none := by
    rw [get?_memberSources, Entries.get?_without, if_pos rfl, Option.map_none]
  rw [dehydrateRule_object hc, hs, readFields_append_cons] at h
  obtain ⟨fields, hfields, hobject⟩ := map_eq_ok.mp h
  obtain ⟨first, entry, last, hfirst, hentry, hlast, rfl⟩ := around_eq_ok.mp hfields
  obtain ⟨typed, -, rfl⟩ := map_eq_ok.mp hentry
  cases hobject
  have hkey : field.key ∉ first.map Prod.fst :=
    key_notMem_of_readFields (fun other ho => hothers other (List.mem_append_left _ ho)) hfirst
  rw [Json.without, dehydrateRule_object hc, hs, readFields_append_cons,
    readFields_congr fun other ho => hsame other (List.mem_append_left _ ho), hfirst,
    readFields_congr fun other ho => hsame other (List.mem_append_right _ ho), hlast,
    readField, hnone]
  dsimp only
  cases field.optional with
  | true =>
    rw [Instance.absent, Entries.modify_append_cons hkey]
    rfl
  | false => rfl

/-- If a document is read, so is an object in it that its reading visits, and the
document is read around this object. -/
theorem Visits.exists_object (hd : plan.DistinctKeys) {id inner : TypeId} {value : Json}
    {steps : List Json.Step} {members : List (String × Json)} {typed : TypedObject}
    (h : plan.Visits .free (.classRef id) value steps (.classRef inner) (.object members))
    (hw : value.WellKeyed) (hr : plan.dehydrate id value = .ok typed) :
    ∃ frame object, Carries steps frame
      ∧ plan.dehydrateRule (.object members) (.classRef inner) (Path.top.extend steps)
        = .ok (.object object)
      ∧ frame (.ok (.object object)) = .ok (.object typed)
      ∧ ∀ change : Json → Json, (change (.object members)).kind = .object →
        (plan.dehydrate id (value.modify steps change)).map TypedValue.object
          = frame (plan.dehydrateRule (change (.object members)) (.classRef inner)
            (Path.top.extend steps)) := by
  obtain ⟨frame, hcarries, hsame, hframe⟩ := h.exists_frame hd hw Path.top
  have hroot : plan.dehydrateRule value (.classRef id) Path.top = .ok (.object typed) :=
    map_eq_ok.mpr ⟨typed, hr, rfl⟩
  rw [hroot] at hsame
  obtain ⟨part, hpart⟩ := hcarries.part hsame.symm
  obtain ⟨object, -, rfl⟩ := map_eq_ok.mp hpart
  exact ⟨frame, object, hcarries, hpart, by rw [← hpart, ← hsame], hframe⟩

/-- Taking away the member of a declared key from an object that is read as an
instance, wherever it stands in the document. -/
theorem dehydrate_without {graph : TypeGraph} {entries : List TypeId} {routing : UnionRouting}
    (h : build graph entries routing = .ok plan) {id : TypeId} {value : Json}
    (hw : value.WellKeyed) {typed : TypedObject} (hr : plan.dehydrate id value = .ok typed)
    {steps : List Json.Step} {inner : TypeId} {members : List (String × Json)}
    (hv : plan.Visits .free (.classRef id) value steps (.classRef inner) (.object members))
    {shape : ClassType} (hs : graph.get? inner = some (.classType shape)) {key : String}
    {field : Field} (hf : shape.fields.get? key = some field) :
    value.at? steps = some (.object members)
      ∧ (∃ object, plan.dehydrate inner (.object members) = .ok object
        ∧ (TypedValue.object typed).objectAt? steps = some object)
      ∧ plan.dehydrate id (value.modify steps (Json.without key))
        = if field.optional then .ok (typed.modify steps (Instance.absent key))
          else .error (.missingField shape.name key) := by
  have hn := distinctKeys_of_build h
  obtain ⟨frame, object, hcarries, hpart, hwhole, hframe⟩ := hv.exists_object hn hw hr
  have hinner : plan.dehydrate inner (.object members) = .ok object :=
    dehydrate_eq_ok.mpr ((reads_iff_at _).mpr hpart)
  obtain ⟨converter, hc⟩ : ∃ converter, plan.classes.get? inner = some converter := by
    cases readObject_eq_ok.mp hinner with
    | intro hc => exact ⟨_, hc⟩
  obtain ⟨hname, conversion, hconversion, rfl, hoptional, -⟩ :=
    (faithful_of_build h).exists_conversion hs hf hc
  refine ⟨hv.at?_eq hw, ⟨object, hinner, ?_⟩, ?_⟩
  · rw [← List.append_nil steps, hcarries.reach hwhole]
    rfl
  · have hedited := hframe (Json.without conversion.key) rfl
    rw [dehydrateRule_without hn hc hconversion hpart, hname, hoptional] at hedited
    cases ho : field.optional with
    | true =>
      rw [ho, if_pos rfl] at hedited
      have hchange := hcarries.change hwhole [] (Instance.absent conversion.key)
      rw [List.append_nil, TypedValue.modify_object steps] at hchange
      obtain ⟨again, hagain, heq⟩ := map_eq_ok.mp (hedited.trans hchange)
      cases heq
      exact hagain
    | false =>
      rw [ho, if_neg Bool.false_ne_true] at hedited
      exact map_eq_error.mp (hedited.trans (hcarries.failure hwhole _))

/-- A folder has a title, which may be null, it may have a note, and it has parts. -/
def folderShape : ClassType where
  name := "Folder"
  fields := ⟨[("title", ⟨⟨2⟩, false⟩), ("note", ⟨⟨1⟩, true⟩), ("parts", ⟨⟨4⟩, false⟩)], by decide⟩

/-- The parts of a folder are texts and folders. -/
def folderGraph : TypeGraph where
  types := [
    .classType folderShape,
    .string,
    .union (.ofList [⟨3⟩, ⟨1⟩]),
    .null,
    .array ⟨5⟩,
    .union (.ofList [⟨1⟩, ⟨0⟩])]
  topLevels := OrderedMap.empty
  sound := by decide

/-- The plan for folders. -/
def folderPlan : Converters where
  entries := [⟨0⟩]
  classes := ⟨[(⟨0⟩, ⟨⟨0⟩, "Folder", [⟨"title", false, .nullable (.copy .string)⟩,
    ⟨"note", true, .copy .string⟩, ⟨"parts", false, .array (.unionRef ⟨5⟩)⟩]⟩)], by decide⟩
  enums := OrderedMap.empty
  unions := ⟨[(⟨5⟩, { UnionCodec.blank ⟨5⟩ with
    string := some .plain, classMember := some ⟨0⟩ })], by decide⟩

/-- The members of a folder with a note and without parts. -/
def leafMembers : List (String × Json) :=
  [("title", .null), ("note", .string "n"), ("parts", .array [])]

/-- What is read of them. -/
def leafFields (note : Option TypedValue) : TypedObject :=
  ⟨⟨0⟩, [("title", none), ("note", note), ("parts", some (.array []))]⟩

/-- A folder with a text and a folder in it. -/
def folderValue (members : List (String × Json)) : Json :=
  .object [("title", .string "t"), ("parts", .array [.string "p", .object members])]

/-- What is read of it. -/
def folderOf (leaf : TypedObject) : TypedObject :=
  ⟨⟨0⟩, [("title", some (.string "t")), ("note", none), ("parts", some (.array [
    .union { UnionSlots.null with string := some (.string "p") },
    .union { UnionSlots.null with object := some leaf }]))]⟩

/-- The keys of a leaf are distinct. -/
theorem leaf_wellKeyed : (Json.object leafMembers).WellKeyed := by
  have hscalar : ∀ value : Json, value.parts = [] → value.WellKeyed :=
    fun _ => Json.wellKeyed_of_parts_eq_nil
  simpa [leafMembers, Json.wellKeyed_object_iff, Json.wellKeyed_array_iff]
    using ⟨hscalar _ rfl, hscalar _ rfl⟩

/-- The keys of a folder are distinct if those of its contents are. -/
theorem folder_wellKeyed {members : List (String × Json)} (h : (Json.object members).WellKeyed) :
    (folderValue members).WellKeyed := by
  have hscalar : ∀ value : Json, value.parts = [] → value.WellKeyed :=
    fun _ => Json.wellKeyed_of_parts_eq_nil
  rw [folderValue, Json.wellKeyed_object_iff]
  simpa [Json.wellKeyed_array_iff] using ⟨hscalar _ rfl, hscalar _ rfl, h⟩

/-- Reading the folder comes to the folder in it, past the text. -/
theorem folder_visits (members : List (String × Json)) :
    folderPlan.Visits .free (.classRef ⟨0⟩) (folderValue members)
      [.key "parts", .index 1] (.classRef ⟨0⟩) (.object members) := by
  have hparts : folderPlan.Enters .free (.classRef ⟨0⟩) (folderValue members) [.key "parts"]
      (.array (.unionRef ⟨5⟩)) (.array ([.string "p"] ++ .object members :: [])) :=
    @Enters.field _ _ _ _ _ [_, _] [] ⟨"parts", false, .array (.unionRef ⟨5⟩)⟩ _ rfl rfl
      (fun _ _ => trivial) rfl (by simp)
  have hitem : folderPlan.Enters .free (.array (.unionRef ⟨5⟩))
      (.array ([.string "p"] ++ .object members :: [])) [.index 1] (.unionRef ⟨5⟩)
      (.object members) := .item fun _ _ => trivial
  exact .enter hparts (.enter hitem (.enter (.unionObject rfl rfl) (.here _ _)))

/-- Without its title, which is null, the inner folder is no folder, and not a text
either. Without its note it is one that has no note. -/
theorem dehydrate_without_leaf :
    folderPlan.dehydrate ⟨0⟩ (folderValue [("note", .string "n"), ("parts", .array [])])
        = .error (.missingField "Folder" "title")
      ∧ folderPlan.dehydrate ⟨0⟩ (folderValue [("title", .null), ("parts", .array [])])
        = .ok (folderOf (leafFields none)) := by
  have hbuild : build folderGraph [⟨0⟩] .codec = .ok folderPlan := rfl
  have hread : folderPlan.dehydrate ⟨0⟩ (folderValue leafMembers)
      = .ok (folderOf (leafFields (some (.string "n")))) := rfl
  have htype : folderGraph.get? ⟨0⟩ = some (.classType folderShape) := rfl
  have hfield : folderShape.fields.get? "title" = some ⟨⟨2⟩, false⟩ := rfl
  have hoptional : folderShape.fields.get? "note" = some ⟨⟨1⟩, true⟩ := rfl
  have htitle : (folderValue leafMembers).modify [.key "parts", .index 1] (Json.without "title")
      = folderValue [("note", .string "n"), ("parts", .array [])] := rfl
  have hnote : (folderValue leafMembers).modify [.key "parts", .index 1] (Json.without "note")
      = folderValue [("title", .null), ("parts", .array [])] := rfl
  have habsent : (folderOf (leafFields (some (.string "n")))).modify [.key "parts", .index 1]
      (Instance.absent "note") = folderOf (leafFields none) := rfl
  rw [← htitle, ← hnote, ← habsent]
  have hwell := folder_wellKeyed leaf_wellKeyed
  have hvisit := folder_visits leafMembers
  exact ⟨(dehydrate_without hbuild hwell hread hvisit htype hfield).2.2,
    (dehydrate_without hbuild hwell hread hvisit htype hoptional).2.2⟩

end Converters

end Hydration
