import Hydration.Proofs.Json.Keys
import Hydration.Proofs.Plan.Mirror
import Hydration.Proofs.Typed.Reads

/-!
# Where dehydrating comes

Reading a value by a rule reads its parts by other rules. `Enters` is one step from
a value to a part, `Visits` any number of them, with the steps into the document.
What has to hold of the fields, elements and entries that come before is a
parameter: without a condition all places are visited, and with the condition that
these are read, those are that the reading comes to.
-/

namespace Hydration

/-- The place at the end of further steps. -/
def Path.extend (path : Path) (steps : List Json.Step) : Path :=
  { path with steps := path.steps ++ steps }

theorem Path.extend_nil (path : Path) : path.extend [] = path := by
  rw [extend, List.append_nil]

/-- A path is extended by steps one after the other. -/
theorem Path.extend_append (path : Path) (front back : List Json.Step) :
    path.extend (front ++ back) = (path.extend front).extend back := by
  rw [extend, extend, extend, List.append_assoc]

/-- How many rules are followed at one value before a part of it is read. -/
def Rule.rank : Rule → Nat
  | nullable inner => inner.rank + 1
  | unionRef _ => 1
  | _ => 0

namespace Converters

/-- What has to hold of what comes before. -/
structure Before where
  /-- Of a field of an object with members. -/
  field : List (String × Json) → FieldConverter → Prop
  /-- Of a value by a rule. -/
  value : Rule → Json → Prop

/-- Nothing has to hold. -/
def Before.free : Before := ⟨fun _ _ => True, fun _ _ => True⟩

variable (plan : Converters)

/-- What comes before is read. -/
def Before.read : Before where
  field members field := ∃ typed, plan.FieldLayer plan.Reads members field typed
  value rule value := ∃ typed, plan.Reads rule value typed

/-- Reading a value by a rule goes on by another rule, at the same value or a part. -/
inductive Enters (before : Before) : Rule → Json → List Json.Step → Rule → Json → Prop where
  /-- To the value of a field that does not mark absence. -/
  | field {id : TypeId} {converter : ClassConverter} {members : List (String × Json)}
      {front back : List FieldConverter} {field : FieldConverter} {value : Json}
      (hc : plan.classes.get? id = some converter) (hs : converter.fields = front ++ field :: back)
      (hb : ∀ other ∈ front, before.field members other)
      (hg : Entries.get? field.key members = some value)
      (hd : value = .null → plan.dropsNull field = false) :
      Enters before (.classRef id) (.object members) [.key field.key] field.rule value
  /-- To an element of an array. -/
  | item {rule : Rule} {front back : List Json} {item : Json}
      (hb : ∀ other ∈ front, before.value rule other) :
      Enters before (.array rule) (.array (front ++ item :: back)) [.index front.length] rule item
  /-- To the value of an entry of a map. -/
  | entry {rule : Rule} {front back : List (String × Json)} {member : String × Json}
      (hb : ∀ other ∈ front, before.value rule other.2) :
      Enters before (.map rule) (.object (front ++ member :: back)) [.key member.1] rule member.2
  /-- To what is made nullable. -/
  | present {rule : Rule} {value : Json} (hv : value ≠ .null) :
      Enters before (.nullable rule) value [] rule value
  /-- To the string member of a union, with a text that is no case. -/
  | unionString {id : TypeId} {codec : UnionCodec} {rule : StringRule} {text : String}
      (hu : plan.unions.get? id = some codec) (hc : plan.isCaseOf codec text = false)
      (hs : codec.string = some rule) :
      Enters before (.unionRef id) (.string text) [] rule.rule (.string text)
  /-- To the array member of a union. -/
  | unionArray {id : TypeId} {codec : UnionCodec} {rule : Rule} {items : List Json}
      (hu : plan.unions.get? id = some codec) (ha : codec.array = some rule) :
      Enters before (.unionRef id) (.array items) [] (.array rule) (.array items)
  /-- To the class member of a union. -/
  | unionObject {id member : TypeId} {codec : UnionCodec} {members : List (String × Json)}
      (hu : plan.unions.get? id = some codec) (hm : codec.classMember = some member) :
      Enters before (.unionRef id) (.object members) [] (.classRef member) (.object members)
  /-- To the map member of a union without a class member. -/
  | unionMap {id : TypeId} {codec : UnionCodec} {rule : Rule} {members : List (String × Json)}
      (hu : plan.unions.get? id = some codec) (hn : codec.classMember = none)
      (hm : codec.map = some rule) :
      Enters before (.unionRef id) (.object members) [] (.map rule) (.object members)

/-- Reading a value by a rule leads to reading another one by a rule. -/
inductive Visits (before : Before) : Rule → Json → List Json.Step → Rule → Json → Prop where
  /-- The value itself. -/
  | here (rule : Rule) (value : Json) : Visits before rule value [] rule value
  /-- What is visited from where the reading goes on. -/
  | enter {rule next last : Rule} {value part inner : Json} {front back : List Json.Step}
      (he : plan.Enters before rule value front next part)
      (hv : Visits before next part back last inner) :
      Visits before rule value (front ++ back) last inner

variable {plan} {before : Before}

/-- The reading goes on at a part, or by a rule of smaller rank. -/
theorem Enters.part_or_rank {rule next : Rule} {value part : Json} {steps : List Json.Step}
    (h : plan.Enters before rule value steps next part) :
    part ∈ value.parts ∨ part = value ∧ next.rank < rule.rank := by
  cases h with
  | field _ _ _ hg => exact Or.inl (List.mem_map_of_mem (Entries.mem_of_get? hg))
  | item => exact Or.inl (by simp [Json.parts])
  | entry => exact Or.inl (by simp [Json.parts])
  | present => exact Or.inr ⟨rfl, Nat.lt_succ_self _⟩
  | @unionString _ _ rule =>
    refine Or.inr ⟨rfl, ?_⟩
    cases rule <;> exact Nat.one_pos
  | unionArray => exact Or.inr ⟨rfl, Nat.one_pos⟩
  | unionObject => exact Or.inr ⟨rfl, Nat.one_pos⟩
  | unionMap => exact Or.inr ⟨rfl, Nat.one_pos⟩

/-- The reading stays at a value without parts, whatever rules are followed. -/
theorem Visits.eq_of_parts_eq_nil {rule last : Rule} {value inner : Json}
    {steps : List Json.Step} (h : plan.Visits before rule value steps last inner)
    (hparts : value.parts = []) : inner = value := by
  induction h with
  | here => rfl
  | enter he _ ih =>
    rcases he.part_or_rank with hp | ⟨rfl, -⟩
    · rw [hparts] at hp
      cases hp
    · exact ih hparts

/-- What holds of a value and a rule whenever it holds wherever the reading goes on
holds always. -/
theorem enters_induct (before : Before) {motive : Rule → Json → Prop}
    (step : ∀ rule value, (∀ steps next part, plan.Enters before rule value steps next part →
      motive next part) → motive rule value) (rule : Rule) (value : Json) : motive rule value := by
  induction value using Json.inductParts generalizing rule with
  | step value ihv =>
    induction hrank : rule.rank using Nat.strongRecOn generalizing rule with
    | ind rank ihr =>
      refine step rule value fun steps next part he => ?_
      rcases he.part_or_rank with hp | ⟨rfl, hlt⟩
      · exact ihv part hp next
      · exact ihr next.rank (hrank ▸ hlt) next rfl

/-- A step leads to the part, if the keys are distinct. -/
theorem Enters.at?_eq {rule next : Rule} {value part : Json} {steps : List Json.Step}
    (h : plan.Enters before rule value steps next part) (hw : value.WellKeyed) :
    value.at? steps = some part ∧ part.WellKeyed := by
  obtain ⟨hk, hp⟩ := hw
  cases h with
  | field _ _ _ hg =>
    have hm := Entries.mem_of_get? hg
    exact ⟨Json.at?_key hk hm, hp _ (List.mem_map_of_mem hm)⟩
  | item => exact ⟨Json.at?_index _ _ _, hp _ (by simp [Json.parts])⟩
  | entry => exact ⟨Json.at?_key hk (by simp), hp _ (by simp [Json.parts])⟩
  | _ => exact ⟨rfl, .intro hk hp⟩

/-- The steps of a visit lead to what is visited, if the keys are distinct. -/
theorem Visits.at?_eq {rule last : Rule} {value inner : Json} {steps : List Json.Step}
    (h : plan.Visits before rule value steps last inner) (hw : value.WellKeyed) :
    value.at? steps = some inner := by
  induction h with
  | here => rfl
  | enter he _ ih =>
    obtain ⟨hat, hpart⟩ := he.at?_eq hw
    rw [Json.at?_append, hat]
    exact ih hpart

/-- What is visited in a value with distinct keys has distinct keys. -/
theorem Visits.wellKeyed {rule last : Rule} {value inner : Json} {steps : List Json.Step}
    (h : plan.Visits before rule value steps last inner) (hw : value.WellKeyed) :
    inner.WellKeyed := by
  induction h with
  | here => exact hw
  | enter he _ ih => exact ih (he.at?_eq hw).2

/-- In a closed plan the reading goes on by a rule whose references have converters. -/
theorem Enters.resolves (hp : plan.Closed) {rule next : Rule} {value part : Json}
    {steps : List Json.Step} (h : plan.Enters before rule value steps next part)
    (hr : plan.Resolves rule) : plan.Resolves next := by
  cases h with
  | field hc hs => exact hp.fields _ _ hc _ (hs ▸ by simp)
  | item => exact hr
  | entry => exact hr
  | present => exact hr
  | @unionString _ _ rule => cases rule <;> trivial
  | unionArray hu ha =>
    have hrule := hp.arrays _ _ hu _ ha
    exact hrule
  | unionObject hu hm => exact hp.classMembers _ _ hu _ hm
  | unionMap hu _ hm =>
    have hrule := hp.maps _ _ hu _ hm
    exact hrule

end Converters

end Hydration
