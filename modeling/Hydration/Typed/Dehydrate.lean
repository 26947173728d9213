import Hydration.Plan.Basic
import Hydration.Typed.Error
import Hydration.Typed.Value

/-!
# Dehydrating

From JSON values to typed values. A JSON value is seen as one layer whose
parts are readers, functions from a rule and a place to a typed value; the
view of a document is built by recursion over the document alone, and a layer
is read by recursion over the rule alone. Fields are read in declared order,
elements and entries in document order, and the first error wins.
-/

namespace Hydration

/-- A conversion of one JSON value by any rule at any place. -/
abbrev Reader := Rule → Path → Except DataError TypedValue

/-- A member of an object: whether it is null, and how it is read. -/
structure Source where
  /-- Whether the member's value is null. -/
  isNull : Bool
  /-- The conversion of the member's value. -/
  read : Reader

/-- One layer of a JSON value with readers for its parts. -/
inductive View where
  /-- The null value. -/
  | null
  /-- A truth value. -/
  | bool (value : Bool)
  /-- A number. -/
  | number (value : Json.Number)
  /-- A string. -/
  | string (value : String)
  /-- An array. -/
  | array (items : List Reader)
  /-- An object. -/
  | object (members : List (String × Source))

/-- The kind of the viewed value. -/
def View.kind : View → Json.Kind
  | null => .null
  | bool _ => .bool
  | number _ => .number
  | string _ => .string
  | array _ => .array
  | object _ => .object

/-- The error of a value of another shape than expected. -/
def View.mismatch (view : View) (path : Path) (expected : String) : DataError :=
  .typeMismatch path expected view.kind.name

/-- Whether a rule is that of a nullable type. -/
def Rule.isNullable : Rule → Bool
  | nullable _ => true
  | _ => false

namespace Converters

/-- Whether a rule converts null. -/
def acceptsNull (plan : Converters) : Rule → Bool
  | .copy .any => true
  | .copy .null => true
  | .nullable _ => true
  | .unionRef id =>
    match plan.unions.get? id with
    | some codec => codec.nullable
    | none => false
  | _ => false

/-- The converter of a class. -/
def classConverter (plan : Converters) (id : TypeId) : Except DataError ClassConverter :=
  match plan.classes.get? id with
  | some converter => .ok converter
  | none => .error (.missingConverter id)

/-- The converter of an enum. -/
def enumConverter (plan : Converters) (id : TypeId) : Except DataError EnumConverter :=
  match plan.enums.get? id with
  | some converter => .ok converter
  | none => .error (.missingConverter id)

/-- The codec of a union. -/
def unionCodec (plan : Converters) (id : TypeId) : Except DataError UnionCodec :=
  match plan.unions.get? id with
  | some codec => .ok codec
  | none => .error (.missingConverter id)

/-- A number as an integer: an integer token above the range is out of range,
any other number that is no integer is of another shape. -/
def readInteger (number : Json.Number) (path : Path) : Except DataError Int64 :=
  match number.toInt64? with
  | some value => .ok value
  | none =>
    if number.isNonNegativeInteger then .error (.outOfRange path number.text)
    else .error (.typeMismatch path "integer" "number")

/-- A value copied after a check of its shape. -/
def readCopy (primitive : Primitive) (value : Json) (view : View) (path : Path) :
    Except DataError TypedValue :=
  match primitive, view with
  | .any, _ => .ok (.any value)
  | .null, .null => .ok .null
  | .bool, .bool b => .ok (.bool b)
  | .integer, .number n => (readInteger n path).map .integer
  | .double, .number n => .ok (.double n)
  | .string, .string s => .ok (.string s)
  | primitive, view => .error (view.mismatch path primitive.name)

/-- A text under an interpretation. -/
def readTransformed (kind : TransformKind) (text : String) (path : Path) :
    Except DataError TypedValue :=
  match kind.parse text with
  | .ok value => .ok (.transformed value)
  | .error fault => .error (.invalidString path kind text fault)

/-- A text by the rule of a string member. -/
def readString (rule : StringRule) (text : String) (path : Path) : Except DataError TypedValue :=
  match rule with
  | .plain => .ok (.string text)
  | .transformed kind => readTransformed kind text path

/-- A field: null for a nullable field, and for an optional field whose rule
does not convert null, marks absence. -/
def readField (plan : Converters) (className : String) (members : List (String × Source))
    (field : FieldConverter) (path : Path) : Except DataError (Option TypedValue) :=
  match Entries.get? field.key members with
  | none => if field.optional then .ok none else .error (.missingField className field.key)
  | some source =>
    if source.isNull && field.rule.isNullable then .ok none
    else if source.isNull && field.optional && !plan.acceptsNull field.rule then .ok none
    else (source.read field.rule (path.child field.key)).map some

/-- The fields of a class in declared order. -/
def readFields (plan : Converters) (className : String) (members : List (String × Source))
    (path : Path) : List FieldConverter → Except DataError (List (String × Option TypedValue))
  | [] => .ok []
  | field :: rest => do
    let value ← plan.readField className members field path
    return (field.key, value) :: (← plan.readFields className members path rest)

/-- An instance of a class. -/
def readObject (plan : Converters) (id : TypeId) (view : View) (path : Path) :
    Except DataError TypedObject := do
  let converter ← plan.classConverter id
  match view with
  | .object members =>
    return ⟨id, ← plan.readFields converter.name members path converter.fields⟩
  | view => throw (view.mismatch path ("object " ++ converter.name))

/-- Elements, counted from an index. -/
def readItems (rule : Rule) (path : Path) : Nat → List Reader → Except DataError (List TypedValue)
  | _, [] => .ok []
  | index, read :: rest => do
    let value ← read rule (path.item index)
    return value :: (← readItems rule path (index + 1) rest)

/-- The entries of a map. -/
def readEntries (rule : Rule) (path : Path) :
    List (String × Source) → Except DataError (List (String × TypedValue))
  | [] => .ok []
  | (key, source) :: rest => do
    let value ← source.read rule (path.child key)
    return (key, value) :: (← readEntries rule path rest)

/-- A number as a value of a union. -/
def decodeNumber (codec : UnionCodec) (number : Json.Number) (path : Path) :
    Except DataError UnionValue :=
  match codec.integer, number.toInt64? with
  | true, some i => .ok { UnionSlots.null with integer := some i }
  | _, _ =>
    if codec.double then .ok { UnionSlots.null with double := some number }
    else if codec.integer && number.isNonNegativeInteger then
      .error (.outOfRange path number.text)
    else .error (.unionMismatch path "number")

/-- The converter of a codec's enum member, if it has one. -/
def enumMember (plan : Converters) (codec : UnionCodec) :
    Except DataError (Option EnumConverter) :=
  match codec.enumeration with
  | some id => (plan.enumConverter id).map some
  | none => .ok none

/-- Whether a text is a case of an enum member. -/
def isMemberCase (member : Option EnumConverter) (text : String) : Bool :=
  match member with
  | some converter => converter.cases.contains text
  | none => false

/-- A string as a value of a union, given its enum member: a case of the enum
goes first. -/
def decodeText (codec : UnionCodec) (member : Option EnumConverter) (text : String)
    (path : Path) : Except DataError UnionValue :=
  if isMemberCase member text then .ok { UnionSlots.null with enumCase := some text }
  else
    match codec.string, member with
    | some rule, _ => do
      return { UnionSlots.null with string := some (← readString rule text path) }
    | none, some converter => .error (.unknownEnumCase path converter.name text)
    | none, none => .error (.unionMismatch path "string")

/-- A string as a value of a union. -/
def decodeString (plan : Converters) (codec : UnionCodec) (text : String) (path : Path) :
    Except DataError UnionValue := do
  decodeText codec (← plan.enumMember codec) text path

/-- A value as one of a union: the shape of the value selects the member, and
an object goes to the class member before the map member. -/
def decode (plan : Converters) (codec : UnionCodec) (view : View) (path : Path) :
    Except DataError UnionValue :=
  match view with
  | .number n => decodeNumber codec n path
  | .bool b =>
    if codec.boolean then .ok { UnionSlots.null with bool := some b }
    else .error (.unionMismatch path "bool")
  | .string text => plan.decodeString codec text path
  | .null => if codec.nullable then .ok UnionSlots.null else .error (.unionMismatch path "null")
  | .object members =>
    match codec.classMember, codec.map with
    | some id, _ => do
      return { UnionSlots.null with object := some (← plan.readObject id (.object members) path) }
    | none, some rule => do
      return { UnionSlots.null with map := some (← readEntries rule path members) }
    | none, none => .error (.unionMismatch path "object")
  | .array items =>
    match codec.array with
    | some rule => do
      return { UnionSlots.null with array := some (← readItems rule path 0 items) }
    | none => .error (.unionMismatch path "array")

/-- A value by a rule, given its view. -/
def readView (plan : Converters) (value : Json) (view : View) : Reader
  | .copy primitive, path => readCopy primitive value view path
  | .transformed kind, path =>
    match view with
    | .string text => readTransformed kind text path
    | view => .error (view.mismatch path (Rule.transformed kind).describe)
  | .enumRef id, path => do
    let converter ← plan.enumConverter id
    match view with
    | .string tag =>
      if converter.cases.contains tag then return .enumCase tag
      else throw (.unknownEnumCase path converter.name tag)
    | view => throw (view.mismatch path (converter.name ++ " case"))
  | .classRef id, path => (plan.readObject id view path).map .object
  | .array items, path =>
    match view with
    | .array readers => (readItems items path 0 readers).map .array
    | view => .error (view.mismatch path "array")
  | .map values, path =>
    match view with
    | .object members => (readEntries values path members).map .map
    | view => .error (view.mismatch path "map")
  | .nullable inner, path =>
    match view with
    | .null => .ok .null
    | view => readView plan value view inner path
  | .unionRef id, path => do
    let codec ← plan.unionCodec id
    return .union (← plan.decode codec view path)

mutual

/-- The view of a JSON value. -/
def view (plan : Converters) : Json → View
  | .null => .null
  | .bool b => .bool b
  | .number n => .number n
  | .string s => .string s
  | .array items => .array (itemReaders plan items)
  | .object members => .object (memberSources plan members)

/-- The readers of elements. -/
def itemReaders (plan : Converters) : List Json → List Reader
  | [] => []
  | item :: rest => plan.readView item (view plan item) :: itemReaders plan rest

/-- The sources of members. -/
def memberSources (plan : Converters) : List (String × Json) → List (String × Source)
  | [] => []
  | (key, value) :: rest =>
    (key, ⟨value.isNull, plan.readView value (view plan value)⟩) :: memberSources plan rest

end

/-- A JSON value by a rule. -/
def dehydrateRule (plan : Converters) (value : Json) : Reader :=
  plan.readView value (plan.view value)

/-- An instance of a class from a JSON value. -/
def dehydrate (plan : Converters) (id : TypeId) (value : Json) : Except DataError TypedObject :=
  plan.readObject id (plan.view value) Path.top

/-- A union value from a JSON value. -/
def decodeValue (plan : Converters) (codec : UnionCodec) (value : Json) (path : Path) :
    Except DataError UnionValue :=
  plan.decode codec (plan.view value) path

end Converters

end Hydration
