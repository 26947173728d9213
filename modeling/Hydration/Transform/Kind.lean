/-!
# Kinds of transformed strings

The interpretations of a string that the library converts, and the names
under which schemas refer to them. A schema may use other names; such a kind
is kept and refused when a converter is planned.
-/

namespace Hydration

/-- An interpretation of a string that can be converted. -/
inductive TransformKind where
  /-- A date and time with an offset. -/
  | dateTime
  /-- A calendar date. -/
  | date
  /-- A time of day. -/
  | time
  /-- A universally unique identifier. -/
  | uuid
  /-- A uniform resource identifier. -/
  | uri
  /-- A signed sixty-four-bit integer. -/
  | integerString
  /-- A truth value. -/
  | boolString
  deriving DecidableEq

/-- The name of an interpretation. -/
def TransformKind.name : TransformKind → String
  | dateTime => "date-time"
  | date => "date"
  | time => "time"
  | uuid => "uuid"
  | uri => "uri"
  | integerString => "integer-string"
  | boolString => "bool-string"

/-- The interpretation with a name. -/
def TransformKind.ofName? : String → Option TransformKind
  | "date-time" => some dateTime
  | "date" => some date
  | "time" => some time
  | "uuid" => some uuid
  | "uri" => some uri
  | "integer-string" => some integerString
  | "bool-string" => some boolString
  | _ => none

/-- An interpretation is found under its name. -/
theorem TransformKind.ofName?_name (kind : TransformKind) : ofName? kind.name = some kind := by
  cases kind <;> rfl

/-- The interpretation that a schema asks for. -/
inductive StringKind where
  /-- One that can be converted. -/
  | known (kind : TransformKind)
  /-- Any other name. -/
  | other (name : String)
  deriving DecidableEq

/-- The name in a schema. -/
def StringKind.name : StringKind → String
  | known kind => kind.name
  | other name => name

/-- The kind that a name in a schema stands for. -/
def StringKind.ofName (name : String) : StringKind :=
  match TransformKind.ofName? name with
  | some kind => known kind
  | none => other name

end Hydration
