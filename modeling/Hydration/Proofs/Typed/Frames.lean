import Hydration.Proofs.Json.Edits
import Hydration.Proofs.Typed.Edits
import Hydration.Proofs.Typed.Equations
import Hydration.Proofs.Typed.NormalForm
import Hydration.Proofs.Typed.Visits

/-!
# Reading around a place

Reading a value does to a part of it what reading the part by itself does, and goes on
around it. A frame is the reading of the whole as a function of the reading of the
part. `Visits.exists_frame` gives the frame of a place that a reading visits: whatever
stands at the place, as long as its kind is the same, the whole is read by this frame.
-/

namespace Hydration

/-- A list computed around one of its elements. -/
def around {ε α : Type} (front : Except ε (List α)) (middle : Except ε α)
    (back : Except ε (List α)) : Except ε (List α) := do
  let first ← front
  let value ← middle
  return first ++ value :: (← back)

section Around

variable {ε α β : Type} {front back : Except ε (List α)} {middle : Except ε α}

/-- What stands around a result succeeds if all three parts do. -/
theorem around_eq_ok {list : List α} :
    around front middle back = .ok list
      ↔ ∃ first value last, front = .ok first ∧ middle = .ok value ∧ back = .ok last
        ∧ list = first ++ value :: last := by
  cases front <;> cases middle <;> cases back <;>
    simp [around, bind, Except.bind, pure, Except.pure, eq_comm]

/-- Nothing is computed before the first element. -/
theorem around_nil (head : Except ε β) (f : β → α) :
    around (.ok []) (head.map f) back = do let b ← head; return f b :: (← back) := by
  cases head <;> cases back <;> rfl

/-- What is computed first stands before the list. -/
theorem cons_around (head : Except ε β) (f : β → α) :
    (do let b ← head; return f b :: (← around front middle back))
      = around (do let b ← head; return f b :: (← front)) middle back := by
  cases head <;> cases front <;> cases middle <;> cases back <;> rfl

end Around

/-- The reading of a part stands in the reading of a whole as a value at the end of
steps stands in the whole value. -/
structure Carries (steps : List Json.Step)
    (frame : Except DataError TypedValue → Except DataError TypedValue) : Prop where
  /-- The whole is read only if the part is. -/
  part {result : Except DataError TypedValue} {whole : TypedValue} (h : frame result = .ok whole) :
    ∃ typed, result = .ok typed
  /-- If all else is read, a failure of the part is that of the whole. -/
  failure {typed whole : TypedValue} (h : frame (.ok typed) = .ok whole) (error : DataError) :
    frame (.error error) = .error error
  /-- The steps into the part come after the steps to it. -/
  reach {typed whole : TypedValue} (h : frame (.ok typed) = .ok whole) (back : List Json.Step) :
    whole.objectAt? (steps ++ back) = typed.objectAt? back
  /-- A change of the part is one of the whole. -/
  change {typed whole : TypedValue} (h : frame (.ok typed) = .ok whole) (back : List Json.Step)
    (change : TypedObject → TypedObject) :
    frame (.ok (typed.modify back change)) = .ok (whole.modify (steps ++ back) change)

namespace Carries

variable {steps inner : List Json.Step}
  {frame next : Except DataError TypedValue → Except DataError TypedValue}

/-- The part is the whole. -/
theorem refl : Carries [] id where
  part h := ⟨_, h⟩
  failure _ _ := rfl
  reach h _ := by
    cases h
    rfl
  change h _ _ := by
    cases h
    rfl

/-- A part of a part is one of the whole. -/
theorem comp (h : Carries steps frame) (hn : Carries inner next) :
    Carries (steps ++ inner) (frame ∘ next) where
  part hw := by
    obtain ⟨middle, hm⟩ := h.part hw
    exact hn.part hm
  failure {typed whole} hw error := by
    obtain ⟨middle, hm⟩ := h.part hw
    rw [Function.comp_apply, hm] at hw
    rw [Function.comp_apply, hn.failure hm, h.failure hw]
  reach {typed whole} hw back := by
    obtain ⟨middle, hm⟩ := h.part hw
    rw [Function.comp_apply, hm] at hw
    rw [List.append_assoc, h.reach hw, hn.reach hm]
  change {typed whole} hw back change := by
    obtain ⟨middle, hm⟩ := h.part hw
    rw [Function.comp_apply, hm] at hw
    rw [Function.comp_apply, hn.change hm, h.change hw, List.append_assoc]

/-- The whole is the union value that holds the part alone. -/
theorem alone : Carries [] (Except.map TypedValue.alone) where
  part h := by
    obtain ⟨typed, ht, -⟩ := map_eq_ok.mp h
    exact ⟨typed, ht⟩
  failure _ _ := rfl
  reach h back := by
    cases h
    exact TypedValue.objectAt?_alone back _
  change h back change := by
    cases h
    exact congrArg Except.ok (TypedValue.modify_alone back change _).symm

/-- The part is one of a list that is computed element by element. -/
theorem around {α : Type} (step : Json.Step) (front back : Except DataError (List α))
    (hold : TypedValue → α) (pack : List α → TypedValue)
    (hc : ∀ first, front = .ok first → ∀ typed last,
      (pack (first ++ hold typed :: last)).child? step = some typed)
    (hm : ∀ first, front = .ok first → ∀ typed last change,
      (pack (first ++ hold typed :: last)).modifyChild step change
        = pack (first ++ hold (change typed) :: last)) :
    Carries [step] fun result => (Hydration.around front (result.map hold) back).map pack where
  part hw := by
    obtain ⟨list, hl, -⟩ := map_eq_ok.mp hw
    obtain ⟨_, _, _, _, hvalue, -⟩ := around_eq_ok.mp hl
    obtain ⟨typed, ht, -⟩ := map_eq_ok.mp hvalue
    exact ⟨typed, ht⟩
  failure hw error := by
    obtain ⟨list, hl, -⟩ := map_eq_ok.mp hw
    obtain ⟨first, _, _, hfront, -⟩ := around_eq_ok.mp hl
    rw [hfront]
    rfl
  reach hw rest := by
    obtain ⟨list, hl, rfl⟩ := map_eq_ok.mp hw
    obtain ⟨first, _, last, hfront, ⟨⟩, -, rfl⟩ := around_eq_ok.mp hl
    rw [List.singleton_append, TypedValue.objectAt?_cons, hc first hfront, Option.bind_some]
  change hw rest change := by
    obtain ⟨list, hl, rfl⟩ := map_eq_ok.mp hw
    obtain ⟨first, _, last, hfront, ⟨⟩, hback, rfl⟩ := around_eq_ok.mp hl
    rw [List.singleton_append, TypedValue.modify_cons, hm first hfront, hfront, hback]
    rfl

end Carries

namespace Converters

variable {plan : Converters}

/-- Items are read around any one of them. -/
theorem readItems_append_cons (rule : Rule) (path : Path) (index : Nat) (front : List Reader)
    (item : Reader) (back : List Reader) :
    readItems rule path index (front ++ item :: back)
      = around (readItems rule path index front) (item rule (path.item (index + front.length)))
        (readItems rule path (index + front.length + 1) back) := by
  induction front generalizing index with
  | nil => rfl
  | cons read rest ih =>
    have hindex : index + (rest.length + 1) = index + 1 + rest.length := by omega
    rw [List.cons_append, readItems, ih, readItems, List.length_cons, hindex]
    exact cons_around _ id

/-- Entries are read around any one of them. -/
theorem readEntries_append_cons (rule : Rule) (path : Path) (front : List (String × Source))
    (member : String × Source) (back : List (String × Source)) :
    readEntries rule path (front ++ member :: back)
      = around (readEntries rule path front)
        ((member.2.read rule (path.child member.1)).map (Prod.mk member.1))
        (readEntries rule path back) := by
  induction front with
  | nil => exact (around_nil _ _).symm
  | cons other rest ih =>
    rw [List.cons_append, readEntries, ih, readEntries]
    exact cons_around _ (Prod.mk other.1)

/-- Fields are read around any one of them. -/
theorem readFields_append_cons (className : String) (members : List (String × Source))
    (path : Path) (front : List FieldConverter) (field : FieldConverter)
    (back : List FieldConverter) :
    plan.readFields className members path (front ++ field :: back)
      = around (plan.readFields className members path front)
        ((plan.readField className members field path).map (Prod.mk field.key))
        (plan.readFields className members path back) := by
  induction front with
  | nil => exact (around_nil _ _).symm
  | cons other rest ih =>
    rw [List.cons_append, readFields, ih, readFields]
    exact cons_around _ (Prod.mk other.key)

/-- A field is read as the value of its key says. -/
theorem readField_congr {className : String} {members members' : List (String × Json)}
    {field : FieldConverter}
    (h : Entries.get? field.key members = Entries.get? field.key members') (path : Path) :
    plan.readField className (plan.memberSources members) field path
      = plan.readField className (plan.memberSources members') field path := by
  unfold readField
  rw [get?_memberSources, get?_memberSources, h]

/-- Fields are read as the values of their keys say. -/
theorem readFields_congr {className : String} {members members' : List (String × Json)}
    {fields : List FieldConverter}
    (h : ∀ field ∈ fields, Entries.get? field.key members = Entries.get? field.key members')
    (path : Path) :
    plan.readFields className (plan.memberSources members) path fields
      = plan.readFields className (plan.memberSources members') path fields := by
  induction fields with
  | nil => rfl
  | cons field rest ih =>
    rw [readFields, readFields, readField_congr (h field List.mem_cons_self),
      ih fun other ho => h other (List.mem_cons_of_mem _ ho)]

/-- With distinct keys a field has another key than the fields around it. -/
theorem key_ne_of_nodup {fields front back : List FieldConverter} {field : FieldConverter}
    (hs : fields = front ++ field :: back) (hk : (fields.map FieldConverter.key).Nodup) :
    ∀ other ∈ front ++ back, field.key ≠ other.key := by
  intro other ho heq
  rw [hs, List.map_append, List.map_cons] at hk
  have hnotin := (List.nodup_middle.mp hk).notMem
  rw [← List.map_append] at hnotin
  exact hnotin (heq ▸ List.mem_map_of_mem ho)

/-- What is read for fields with other keys has other keys. -/
theorem key_notMem_of_readFields {className key : String} {members : List (String × Json)}
    {path : Path} {fields : List FieldConverter} {typed : List (String × Option TypedValue)}
    (hk : ∀ field ∈ fields, key ≠ field.key)
    (h : plan.readFields className (plan.memberSources members) path fields = .ok typed) :
    key ∉ typed.map Prod.fst := by
  rw [← map_eq_of_forall₂ (readFields_eq_ok.mp h) fun _ _ hm => hm.1.symm]
  intro hmem
  obtain ⟨field, hf, heq⟩ := List.mem_map.mp hmem
  exact hk field hf heq.symm

/-- The frame of an element of an array. -/
theorem exists_frame_item (rule : Rule) (path : Path) (front back : List Json) :
    ∃ frame, Carries [.index front.length] frame
      ∧ ∀ item, plan.dehydrateRule (.array (front ++ item :: back)) (.array rule) path
        = frame (plan.dehydrateRule item rule (path.item front.length)) := by
  have hlength : ∀ first,
      readItems rule path 0 (front.map plan.dehydrateRule) = .ok first →
        first.length = front.length :=
    fun first h => (readItems_eq_ok.mp h).length_eq.symm
  refine ⟨_, .around (.index front.length) (readItems rule path 0 (front.map plan.dehydrateRule))
    (readItems rule path (front.length + 1) (back.map plan.dehydrateRule)) id .array ?_ ?_, ?_⟩
  · intro first hfirst typed last
    simp [TypedValue.child?, Json.Step.item?, ← hlength first hfirst]
  · intro first hfirst typed last change
    rw [← hlength first hfirst]
    exact congrArg TypedValue.array (Json.Step.modifyItem_index first last typed change)
  · intro item
    rw [dehydrateRule_array, List.map_append, List.map_cons, readItems_append_cons,
      List.length_map, Nat.zero_add]
    cases plan.dehydrateRule item rule (path.item front.length) <;> rfl

/-- The frame of the value of an entry of a map. -/
theorem exists_frame_entry (rule : Rule) (path : Path) {key : String}
    {front : List (String × Json)} (hk : key ∉ front.map Prod.fst)
    (back : List (String × Json)) :
    ∃ frame, Carries [.key key] frame
      ∧ ∀ value, plan.dehydrateRule (.object (front ++ (key, value) :: back)) (.map rule) path
        = frame (plan.dehydrateRule value rule (path.child key)) := by
  have hkeys : ∀ first, readEntries rule path (plan.memberSources front) = .ok first →
      key ∉ first.map Prod.fst := by
    intro first h
    rwa [← map_eq_of_forall₂ (readEntries_eq_ok.mp h) fun _ _ hm => hm.1.symm]
  refine ⟨_, .around (.key key) (readEntries rule path (plan.memberSources front))
    (readEntries rule path (plan.memberSources back)) (Prod.mk key) .map ?_ ?_, ?_⟩
  · intro first hfirst typed last
    exact Entries.get?_append_cons (hkeys first hfirst) typed last
  · intro first hfirst typed last change
    exact congrArg TypedValue.map
      (Entries.modify_append_cons (hkeys first hfirst) change typed last)
  · intro value
    rw [dehydrateRule_map, memberSources_eq, List.map_append, List.map_cons,
      readEntries_append_cons, ← memberSources_eq, ← memberSources_eq]
    rfl

/-- The frame of the value of a field that does not mark absence. -/
theorem exists_frame_field {id : TypeId} {converter : ClassConverter} (path : Path)
    {members : List (String × Json)} {front back : List FieldConverter} {field : FieldConverter}
    {value : Json} (hc : plan.classes.get? id = some converter)
    (hs : converter.fields = front ++ field :: back)
    (hk : (converter.fields.map FieldConverter.key).Nodup)
    (hg : Entries.get? field.key members = some value)
    (hd : value = .null → plan.dropsNull field = false) :
    ∃ frame, Carries [.key field.key] frame
      ∧ ∀ change : Json → Json, (change value).kind = value.kind →
        plan.dehydrateRule (.object (Entries.modify field.key change members)) (.classRef id) path
          = frame (plan.dehydrateRule (change value) field.rule (path.child field.key)) := by
  have hothers := key_ne_of_nodup hs hk
  have hsame : ∀ change, ∀ other ∈ front ++ back,
      Entries.get? other.key (Entries.modify field.key change members)
        = Entries.get? other.key members := by
    intro change other ho
    rw [Entries.get?_modify, if_neg (hothers other ho)]
  have hkey : ∀ first, plan.readFields converter.name (plan.memberSources members) path front
      = .ok first → field.key ∉ first.map Prod.fst := fun first =>
    key_notMem_of_readFields fun other ho => hothers other (List.mem_append_left _ ho)
  refine ⟨_, .around (.key field.key)
    (plan.readFields converter.name (plan.memberSources members) path front)
    (plan.readFields converter.name (plan.memberSources members) path back)
    (fun typed => (field.key, some typed)) (fun fields => .object ⟨id, fields⟩) ?_ ?_, ?_⟩
  · intro first hfirst typed last
    exact congrArg Option.join (Entries.get?_append_cons (hkey first hfirst) (some typed) last)
  · intro first hfirst typed last change
    exact congrArg (fun fields => TypedValue.object ⟨id, fields⟩)
      (Entries.modify_append_cons (hkey first hfirst) (Option.map change) (some typed) last)
  · intro change hkind
    have hget : Entries.get? field.key (Entries.modify field.key change members)
        = some (change value) := by
      rw [Entries.get?_modify, if_pos rfl, hg, Option.map_some]
    have hdrop : ¬(change value = .null ∧ plan.dropsNull field = true) := by
      rintro ⟨hnull, hdrops⟩
      rw [hnull] at hkind
      have hvalue : value = .null := by cases value <;> first | rfl | cases hkind
      cases (hd hvalue).symm.trans hdrops
    rw [dehydrateRule_object hc, hs, readFields_append_cons, readField_of_get? hget, if_neg hdrop,
      readFields_congr fun other ho => hsame change other (List.mem_append_left _ ho),
      readFields_congr fun other ho => hsame change other (List.mem_append_right _ ho)]
    cases plan.dehydrateRule (change value) field.rule (path.child field.key) <;> rfl

section Members

variable {id : TypeId} {codec : UnionCodec} (hu : plan.unions.get? id = some codec)
include hu

/-- An array is read by a codec as by its array member. -/
theorem dehydrateRule_unionArray {rule : Rule} (ha : codec.array = some rule) {value : Json}
    (hv : value.kind = .array) (path : Path) :
    plan.dehydrateRule value (.unionRef id) path
      = (plan.dehydrateRule value (.array rule) path).map TypedValue.alone := by
  cases value with
  | array items =>
    rw [dehydrateRule_union hu, decode_array ha, dehydrateRule_array]
    cases readItems rule path 0 (items.map plan.dehydrateRule) <;> rfl
  | _ => cases hv

/-- An object is read by a codec as by its class member. -/
theorem dehydrateRule_unionObject {member : TypeId} (hm : codec.classMember = some member)
    {value : Json} (hv : value.kind = .object) (path : Path) :
    plan.dehydrateRule value (.unionRef id) path
      = (plan.dehydrateRule value (.classRef member) path).map TypedValue.alone := by
  cases value with
  | object members =>
    rw [dehydrateRule_union hu, decode_object hm, dehydrateRule_class]
    cases plan.readObject member (plan.view (.object members)) path <;> rfl
  | _ => cases hv

/-- An object is read by a codec without a class member as by its map member. -/
theorem dehydrateRule_unionMap {rule : Rule} (hn : codec.classMember = none)
    (hm : codec.map = some rule) {value : Json} (hv : value.kind = .object) (path : Path) :
    plan.dehydrateRule value (.unionRef id) path
      = (plan.dehydrateRule value (.map rule) path).map TypedValue.alone := by
  cases value with
  | object members =>
    rw [dehydrateRule_union hu, decode_map hn hm, dehydrateRule_map]
    cases readEntries rule path (plan.memberSources members) <;> rfl
  | _ => cases hv

end Members

variable {before : Before}

/-- Reading a value around a part that its reading goes on with, if the part is no
text: a text of a union may be a case or a string. -/
theorem Enters.exists_frame (hd : plan.DistinctKeys) {rule next : Rule} {value part : Json}
    {steps : List Json.Step} (h : plan.Enters before rule value steps next part)
    (hw : value.WellKeyed) (hs : part.kind ≠ .string) (path : Path) :
    ∃ frame, Carries steps frame
      ∧ ∀ change : Json → Json, (change part).kind = part.kind →
        plan.dehydrateRule (value.modify steps change) rule path
          = frame (plan.dehydrateRule (change part) next (path.extend steps)) := by
  cases h with
  | field hc hfields _ hg hdrop =>
    exact exists_frame_field path hc hfields (hd _ _ hc) hg hdrop
  | @item _ front back =>
    obtain ⟨frame, hcarries, hframe⟩ := exists_frame_item next path front back
    refine ⟨frame, hcarries, fun change _ => ?_⟩
    rw [Json.modify_index]
    exact hframe (change part)
  | @entry _ front back member =>
    have hkey : member.1 ∉ front.map Prod.fst := by
      have hnodup := (Json.wellKeyed_object_iff.mp hw).1
      rw [List.map_append, List.map_cons] at hnodup
      exact fun hmem => (List.nodup_middle.mp hnodup).notMem (List.mem_append_left _ hmem)
    obtain ⟨frame, hcarries, hframe⟩ := exists_frame_entry next path hkey back
    refine ⟨frame, hcarries, fun change _ => ?_⟩
    rw [Json.modify_key, Entries.modify_append_cons hkey]
    exact hframe (change member.2)
  | present hv =>
    refine ⟨id, .refl, fun change hkind => ?_⟩
    rw [Path.extend_nil]
    refine dehydrateRule_nullable (fun hnull => hv ?_) _ _
    have hpart : value.kind = .null := hkind.symm.trans hnull
    cases value <;> first | rfl | cases hpart
  | unionString => exact absurd rfl hs
  | unionArray hu ha =>
    refine ⟨_, .alone, fun change hkind => ?_⟩
    rw [Path.extend_nil]
    exact dehydrateRule_unionArray hu ha hkind path
  | unionObject hu hm =>
    refine ⟨_, .alone, fun change hkind => ?_⟩
    rw [Path.extend_nil]
    exact dehydrateRule_unionObject hu hm hkind path
  | unionMap hu hn hm =>
    refine ⟨_, .alone, fun change hkind => ?_⟩
    rw [Path.extend_nil]
    exact dehydrateRule_unionMap hu hn hm hkind path

/-- Reading a value around an object that its reading visits, whatever object stands
there. -/
theorem Visits.exists_frame_modify (hd : plan.DistinctKeys) {rule last : Rule} {value inner : Json}
    {steps : List Json.Step} (h : plan.Visits before rule value steps last inner)
    (hw : value.WellKeyed) (hs : inner.kind = .object) (path : Path) :
    ∃ frame, Carries steps frame
      ∧ ∀ change : Json → Json, (change inner).kind = inner.kind →
        plan.dehydrateRule (value.modify steps change) rule path
          = frame (plan.dehydrateRule (change inner) last (path.extend steps)) := by
  induction h generalizing path with
  | here rule value =>
    refine ⟨id, .refl, fun change _ => ?_⟩
    rw [Path.extend_nil]
    rfl
  | @enter rule next last value part inner front back he hv ih =>
    obtain ⟨-, hpart⟩ := he.at?_eq hw
    have hnot : part.kind ≠ .string := by
      intro hstring
      have hparts : part.parts = [] := by cases part <;> first | rfl | cases hstring
      rw [hv.eq_of_parts_eq_nil hparts, hstring] at hs
      cases hs
    obtain ⟨frame, hcarries, hframe⟩ := he.exists_frame hd hw hnot path
    obtain ⟨frame', hcarries', hframe'⟩ := ih hpart hs (path.extend front)
    refine ⟨frame ∘ frame', hcarries.comp hcarries', fun change hkind => ?_⟩
    have hkept := Json.kind_modify (hv.at?_eq hpart) hkind
    rw [Json.modify_append, hframe (fun part => part.modify back change) hkept,
      hframe' change hkind, Path.extend_append]
    rfl

/-- Reading a value around an object that its reading visits: the whole is read by the
frame, as it is and with another object in place. -/
theorem Visits.exists_frame (hd : plan.DistinctKeys) {rule last : Rule} {value : Json}
    {steps : List Json.Step} {members : List (String × Json)}
    (h : plan.Visits before rule value steps last (.object members)) (hw : value.WellKeyed)
    (path : Path) :
    ∃ frame, Carries steps frame
      ∧ plan.dehydrateRule value rule path
        = frame (plan.dehydrateRule (.object members) last (path.extend steps))
      ∧ ∀ change : Json → Json, (change (.object members)).kind = .object →
        plan.dehydrateRule (value.modify steps change) rule path
          = frame (plan.dehydrateRule (change (.object members)) last (path.extend steps)) := by
  obtain ⟨frame, hcarries, hframe⟩ := h.exists_frame_modify hd hw rfl path
  have hsame := hframe id rfl
  rw [Json.modify_id] at hsame
  exact ⟨frame, hcarries, hsame, hframe⟩

end Converters

end Hydration
