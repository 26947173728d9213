import Hydration.Proofs.Structure
import Hydration.Typed.Dehydrate

/-!
# Places

Dehydrating takes the place of a value for its errors only: whether it
succeeds, and with what result, is the same at all places. Each function of
the interpreter keeps that property of its parts, and `dehydrateRule_steady`
follows by recursion on the value.
-/

namespace Hydration

/-- Two computations that succeed alike; their errors may differ. -/
def SucceedAlike {ε α : Type} (x y : Except ε α) : Prop := ∀ a, x = .ok a ↔ y = .ok a

namespace SucceedAlike

variable {ε α β : Type}

theorem refl (x : Except ε α) : SucceedAlike x x := fun _ => Iff.rfl

/-- Failures succeed alike, whatever their errors. -/
theorem failures (e e' : ε) : SucceedAlike (.error e : Except ε α) (.error e') := by
  intro a
  constructor <;> intro h <;> cases h

/-- Computations that succeed alike do so when they go on alike. -/
theorem bind {x y : Except ε α} {f g : α → Except ε β} (hx : SucceedAlike x y)
    (hf : ∀ a, SucceedAlike (f a) (g a)) : SucceedAlike (x >>= f) (y >>= g) := by
  intro b
  rw [bind_eq_ok, bind_eq_ok]
  exact exists_congr fun a => and_congr (hx a) (hf a b)

theorem map {x y : Except ε α} (hx : SucceedAlike x y) (f : α → β) :
    SucceedAlike (x.map f) (y.map f) := by
  intro b
  rw [map_eq_ok, map_eq_ok]
  exact exists_congr fun a => and_congr_left fun _ => hx a

end SucceedAlike

/-- A reader whose success does not depend on the place. -/
def Steady (read : Reader) : Prop := ∀ rule p q, SucceedAlike (read rule p) (read rule q)

/-- A view whose parts are read alike at all places. -/
def View.SteadyParts : View → Prop
  | .array readers => ∀ read ∈ readers, Steady read
  | .object members => ∀ member ∈ members, Steady member.2.read
  | _ => True

namespace Converters

variable (plan : Converters)

theorem readInteger_alike (n : Json.Number) (p q : Path) :
    SucceedAlike (readInteger n p) (readInteger n q) := by
  unfold readInteger
  split
  · exact .refl _
  · split <;> exact .failures _ _

/-- A primitive value is read alike at every place. -/
theorem readCopy_alike (primitive : Primitive) (value : Json) (view : View) (p q : Path) :
    SucceedAlike (readCopy primitive value view p) (readCopy primitive value view q) := by
  unfold readCopy
  split
  case h_4 => exact (readInteger_alike _ p q).map _
  case h_7 => exact .failures _ _
  all_goals exact .refl _

theorem readTransformed_alike (kind : TransformKind) (text : String) (p q : Path) :
    SucceedAlike (readTransformed kind text p) (readTransformed kind text q) := by
  unfold readTransformed
  split
  · exact .refl _
  · exact .failures _ _

theorem readString_alike (rule : StringRule) (text : String) (p q : Path) :
    SucceedAlike (readString rule text p) (readString rule text q) := by
  cases rule with
  | plain => exact .refl _
  | transformed kind => exact readTransformed_alike kind text p q

/-- Items are read alike at every place if each of them is. -/
theorem readItems_alike (rule : Rule) {readers : List Reader}
    (hs : ∀ read ∈ readers, Steady read) (p q : Path) (index : Nat) :
    SucceedAlike (readItems rule p index readers) (readItems rule q index readers) := by
  induction readers generalizing index with
  | nil => exact .refl _
  | cons read rest ih =>
    have hr := hs read List.mem_cons_self
    have hrest := ih (fun other h => hs other (List.mem_cons_of_mem _ h))
    exact (hr rule _ _).bind fun value => (hrest (index + 1)).bind fun values => .refl _

/-- Entries are read alike at every place if each of them is. -/
theorem readEntries_alike (rule : Rule) {members : List (String × Source)}
    (hs : ∀ member ∈ members, Steady member.2.read) (p q : Path) :
    SucceedAlike (readEntries rule p members) (readEntries rule q members) := by
  induction members with
  | nil => exact .refl _
  | cons member rest ih =>
    obtain ⟨key, source⟩ := member
    have hr := hs (key, source) List.mem_cons_self
    have hrest := ih (fun other h => hs other (List.mem_cons_of_mem _ h))
    exact (hr rule _ _).bind fun value => hrest.bind fun values => .refl _

theorem readField_alike (className : String) {members : List (String × Source)}
    (hs : ∀ member ∈ members, Steady member.2.read) (field : FieldConverter) (p q : Path) :
    SucceedAlike (plan.readField className members field p)
      (plan.readField className members field q) := by
  unfold readField
  split
  · split
    · exact .refl _
    · exact .failures _ _
  · rename_i source hsource
    have hsteady := hs _ (Entries.mem_of_get? hsource)
    split
    · exact .refl _
    · split
      · exact .refl _
      · exact (hsteady _ _ _).map _

/-- Fields are read alike at every place if the members are. -/
theorem readFields_alike (className : String) {members : List (String × Source)}
    (hs : ∀ member ∈ members, Steady member.2.read) (fields : List FieldConverter) (p q : Path) :
    SucceedAlike (plan.readFields className members p fields)
      (plan.readFields className members q fields) := by
  induction fields with
  | nil => exact .refl _
  | cons field rest ih =>
    exact (plan.readField_alike className hs field p q).bind fun value =>
      ih.bind fun values => .refl _

/-- An object is read alike at every place if its parts are. -/
theorem readObject_alike (id : TypeId) {view : View} (hs : view.SteadyParts) (p q : Path) :
    SucceedAlike (plan.readObject id view p) (plan.readObject id view q) := by
  refine (SucceedAlike.refl _).bind fun converter => ?_
  cases view with
  | object members =>
    exact (plan.readFields_alike converter.name hs converter.fields p q).bind fun fields => .refl _
  | _ => exact .failures _ _

theorem decodeNumber_alike (codec : UnionCodec) (n : Json.Number) (p q : Path) :
    SucceedAlike (decodeNumber codec n p) (decodeNumber codec n q) := by
  unfold decodeNumber
  split
  · exact .refl _
  · split
    · exact .refl _
    · split <;> exact .failures _ _

theorem decodeString_alike (codec : UnionCodec) (text : String) (p q : Path) :
    SucceedAlike (plan.decodeString codec text p) (plan.decodeString codec text q) := by
  refine (SucceedAlike.refl _).bind fun member => ?_
  unfold decodeText
  split
  · exact .refl _
  · split
    · exact (readString_alike _ text p q).bind fun typed => .refl _
    · exact .failures _ _
    · exact .failures _ _

/-- A value is decoded alike at every place if its parts are read alike. -/
theorem decode_alike (codec : UnionCodec) {view : View} (hs : view.SteadyParts) (p q : Path) :
    SucceedAlike (plan.decode codec view p) (plan.decode codec view q) := by
  cases view with
  | null =>
    simp only [decode]
    split
    · exact .refl _
    · exact .failures _ _
  | bool b =>
    simp only [decode]
    split
    · exact .refl _
    · exact .failures _ _
  | number n => exact decodeNumber_alike codec n p q
  | string text => exact plan.decodeString_alike codec text p q
  | array readers =>
    simp only [decode]
    split
    · exact (readItems_alike _ hs p q 0).bind fun items => .refl _
    · exact .failures _ _
  | object members =>
    simp only [decode]
    split
    · exact (plan.readObject_alike _ hs p q).bind fun object => .refl _
    · exact (readEntries_alike _ hs p q).bind fun entries => .refl _
    · exact .failures _ _

/-- Reading one layer succeeds alike at all places if reading its parts does. -/
theorem readView_steady (value : Json) {view : View} (hs : view.SteadyParts) :
    Steady (plan.readView value view) := by
  intro rule p q
  induction rule with
  | copy primitive => exact readCopy_alike primitive value view p q
  | transformed kind =>
    cases view with
    | string text => exact readTransformed_alike kind text p q
    | _ => exact .failures _ _
  | enumRef id =>
    refine (SucceedAlike.refl _).bind fun converter => ?_
    cases view with
    | string tag =>
      dsimp only
      split
      · exact .refl _
      · exact .failures _ _
    | _ => exact .failures _ _
  | classRef id => exact (plan.readObject_alike id hs p q).map _
  | array items _ =>
    cases view with
    | array readers => exact (readItems_alike items hs p q 0).map _
    | _ => exact .failures _ _
  | map values _ =>
    cases view with
    | object members => exact (readEntries_alike values hs p q).map _
    | _ => exact .failures _ _
  | nullable inner ih =>
    cases view with
    | null => exact .refl _
    | _ => exact ih
  | unionRef id =>
    exact (SucceedAlike.refl _).bind fun codec =>
      (plan.decode_alike codec hs p q).bind fun typed => .refl _

/-- The readers of elements are their dehydrations. -/
theorem itemReaders_eq (items : List Json) :
    plan.itemReaders items = items.map plan.dehydrateRule := by
  induction items with
  | nil => rfl
  | cons item rest ih => rw [itemReaders, ih, List.map_cons, dehydrateRule]

/-- The source of a member. -/
def sourceOf (value : Json) : Source := ⟨value.isNull, plan.dehydrateRule value⟩

/-- The sources of members are the sources of their values. -/
theorem memberSources_eq (members : List (String × Json)) :
    plan.memberSources members = members.map fun member => (member.1, plan.sourceOf member.2) := by
  induction members with
  | nil => rfl
  | cons member rest ih =>
    obtain ⟨key, value⟩ := member
    rw [memberSources, ih, List.map_cons]
    rfl

/-- Dehydrating succeeds alike at all places. -/
theorem dehydrateRule_steady (value : Json) : Steady (plan.dehydrateRule value) := by
  induction value using Json.inductParts with
  | step value ih =>
    refine plan.readView_steady value ?_
    cases value with
    | array items =>
      rw [view, itemReaders_eq]
      intro read hr
      obtain ⟨item, hi, rfl⟩ := List.mem_map.mp hr
      exact ih item hi
    | object members =>
      rw [view, memberSources_eq]
      intro source hs
      obtain ⟨member, hm, rfl⟩ := List.mem_map.mp hs
      exact ih member.2 (List.mem_map_of_mem hm)
    | _ => trivial

end Converters

end Hydration
