import Hydration.Proofs.Typed.Places

/-!
# One layer of dehydrating

What dehydrating does to a value by each rule with parts, and what a codec does to a
value with parts, in terms of the readings of the parts.
-/

namespace Hydration.Converters

variable {plan : Converters} {path : Path}

/-- An array is read element by element. -/
theorem dehydrateRule_array (rule : Rule) (path : Path) (items : List Json) :
    plan.dehydrateRule (.array items) (.array rule) path
      = (readItems rule path 0 (items.map plan.dehydrateRule)).map .array := by
  rw [dehydrateRule, view, itemReaders_eq, readView]

/-- A map is read entry by entry. -/
theorem dehydrateRule_map (rule : Rule) (path : Path) (members : List (String × Json)) :
    plan.dehydrateRule (.object members) (.map rule) path
      = (readEntries rule path (plan.memberSources members)).map .map := rfl

/-- A value is read by the converter of a class. -/
theorem dehydrateRule_class (id : TypeId) (value : Json) (path : Path) :
    plan.dehydrateRule value (.classRef id) path
      = (plan.readObject id (plan.view value) path).map .object := rfl

/-- An instance is read field by field. -/
theorem dehydrateRule_object {id : TypeId} {converter : ClassConverter}
    (hc : plan.classes.get? id = some converter) (path : Path)
    (members : List (String × Json)) :
    plan.dehydrateRule (.object members) (.classRef id) path
      = (plan.readFields converter.name (plan.memberSources members) path converter.fields).map
        fun fields => .object ⟨id, fields⟩ := by
  rw [dehydrateRule_class, view, readObject, classConverter, hc]
  dsimp only [bind, Except.bind, pure, Except.pure]
  cases plan.readFields converter.name (plan.memberSources members) path converter.fields <;> rfl

/-- What a nullable rule reads besides null it reads as its inner rule does. -/
theorem dehydrateRule_nullable {value : Json} (hv : value.kind ≠ .null) (rule : Rule)
    (path : Path) :
    plan.dehydrateRule value (.nullable rule) path = plan.dehydrateRule value rule path := by
  cases value <;> first | rfl | exact absurd rfl hv

/-- A union value is what the codec decodes. -/
theorem dehydrateRule_union {id : TypeId} {codec : UnionCodec}
    (hu : plan.unions.get? id = some codec) (value : Json) (path : Path) :
    plan.dehydrateRule value (.unionRef id) path
      = (plan.decode codec (plan.view value) path).map .union := by
  rw [dehydrateRule, readView, unionCodec, hu]
  rfl

section Codec

variable {codec : UnionCodec}

/-- A codec reads an array as the elements of its array member. -/
theorem decode_array {rule : Rule} (ha : codec.array = some rule) (values : List Json) :
    plan.decode codec (plan.view (.array values)) path
      = (readItems rule path 0 (values.map plan.dehydrateRule)).map
        fun typed => { UnionSlots.null with array := some typed } := by
  rw [view, itemReaders_eq]
  simp only [decode, ha]
  cases readItems rule path 0 (values.map plan.dehydrateRule) <;> rfl

/-- A codec reads an object as an instance of its class member. -/
theorem decode_object {member : TypeId} (hm : codec.classMember = some member)
    (entries : List (String × Json)) :
    plan.decode codec (plan.view (.object entries)) path
      = (plan.readObject member (plan.view (.object entries)) path).map
        fun typed => { UnionSlots.null with object := some typed } := by
  simp only [view, decode, hm]
  cases plan.readObject member (.object (plan.memberSources entries)) path <;> rfl

/-- A codec without a class member reads an object as the values of its map member. -/
theorem decode_map {rule : Rule} (hn : codec.classMember = none) (hm : codec.map = some rule)
    (entries : List (String × Json)) :
    plan.decode codec (plan.view (.object entries)) path
      = (readEntries rule path (plan.memberSources entries)).map
        fun typed => { UnionSlots.null with map := some typed } := by
  simp only [view, decode, hn, hm]
  cases readEntries rule path (plan.memberSources entries) <;> rfl

end Codec

end Hydration.Converters
