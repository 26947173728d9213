import Hydration.Typed.Dehydrate

/-!
# Hydrating

From typed values to JSON values. A typed value is seen as one layer whose
parts are writers; the layers are built by recursion over the value alone, and
a layer is written by recursion over the rule alone. Fields are written in
declared order; the first filled slot of a union value is written.
-/

namespace Hydration

/-- A conversion of one typed value by any rule at any place. -/
abbrev Writer := Rule → Path → Except DataError Json

/-- One layer of a typed value with writers for its parts. -/
inductive Layer where
  /-- A JSON value of no particular type. -/
  | any (value : Json)
  /-- The null value. -/
  | null
  /-- A truth value. -/
  | bool (value : Bool)
  /-- An integer. -/
  | integer (value : Int64)
  /-- A number. -/
  | double (value : Json.Number)
  /-- A plain string. -/
  | string (value : String)
  /-- A string under an interpretation. -/
  | transformed (value : Transformed)
  /-- An array. -/
  | array (items : List Writer)
  /-- A map. -/
  | map (entries : List (String × Writer))
  /-- An instance of a class. -/
  | object (value : Instance Writer)
  /-- A case of an enum. -/
  | enumCase (tag : String)
  /-- A value of a union. -/
  | union (value : UnionSlots Writer)

/-- What a typed value is called in error texts. -/
def Layer.kindName : Layer → String
  | any _ => "any"
  | null => "null"
  | bool _ => "bool"
  | integer _ => "integer"
  | double _ => "double"
  | string _ => "string"
  | transformed value => value.kind.name
  | array _ => "array"
  | map _ => "map"
  | object _ => "object"
  | enumCase _ => "enum case"
  | union _ => "union"

namespace Converters

/-- The value of a copied primitive, if the layer is of its kind. -/
def writeCopy? : Primitive → Layer → Option Json
  | .any, .any value => some value
  | .null, .null => some .null
  | .bool, .bool b => some (.bool b)
  | .integer, .integer i => some (.number (.ofInt64 i))
  | .double, .double n => some (.number n)
  | .string, .string s => some (.string s)
  | _, _ => none

/-- A case of an enum, which has to be one of its cases. -/
def writeCase (plan : Converters) (id : TypeId) (tag : String) (path : Path) :
    Except DataError Json := do
  let converter ← plan.enumConverter id
  if converter.cases.contains tag then return .string tag
  else throw (.unknownEnumCase path converter.name tag)

/-- A field: an absent one is left out if it is optional and null if its rule
converts null. -/
def writeField (plan : Converters) (className : String) (object : Instance Writer)
    (field : FieldConverter) (path : Path) : Except DataError (Option Json) :=
  match object.get? field.key with
  | some write => (write field.rule (path.child field.key)).map some
  | none =>
    if field.optional then .ok none
    else if plan.acceptsNull field.rule then .ok (some .null)
    else .error (.missingField className field.key)

/-- The fields of a class in declared order. -/
def writeFields (plan : Converters) (className : String) (object : Instance Writer)
    (path : Path) : List FieldConverter → Except DataError (List (String × Json))
  | [] => .ok []
  | field :: rest => do
    let value ← plan.writeField className object field path
    let members ← plan.writeFields className object path rest
    match value with
    | some value => return (field.key, value) :: members
    | none => return members

/-- An instance, which has to be of the given class. -/
def writeObject (plan : Converters) (id : TypeId) (object : Instance Writer) (path : Path) :
    Except DataError Json := do
  let converter ← plan.classConverter id
  if object.classId = id then
    return .object (← plan.writeFields converter.name object path converter.fields)
  else
    let found := match plan.classes.get? object.classId with
      | some other => other.name
      | none => object.classId.text
    throw (.wrongClass path converter.name found)

/-- Elements, counted from an index. -/
def writeItems (rule : Rule) (path : Path) : Nat → List Writer → Except DataError (List Json)
  | _, [] => .ok []
  | index, write :: rest => do
    let value ← write rule (path.item index)
    return value :: (← writeItems rule path (index + 1) rest)

/-- The entries of a map. -/
def writeEntries (rule : Rule) (path : Path) :
    List (String × Writer) → Except DataError (List (String × Json))
  | [] => .ok []
  | (key, write) :: rest => do
    let value ← write rule (path.child key)
    return (key, value) :: (← writeEntries rule path rest)

/-- A member that a codec has to have. -/
def memberOf {α : Type} (path : Path) (kind : String) : Option α → Except DataError α
  | some member => .ok member
  | none => .error (.unionMismatch path kind)

/-- A flag that a codec has to have set. -/
def flagOf (path : Path) (kind : String) (flag : Bool) (value : Json) : Except DataError Json :=
  if flag then .ok value else .error (.unionMismatch path kind)

/-- A union value: its first filled slot, or null. -/
def encode (plan : Converters) (codec : UnionCodec) (slots : UnionSlots Writer) (path : Path) :
    Except DataError Json :=
  if let some b := slots.bool then flagOf path "bool" codec.boolean (.bool b)
  else if let some i := slots.integer then
    flagOf path "integer" codec.integer (.number (.ofInt64 i))
  else if let some n := slots.double then flagOf path "double" codec.double (.number n)
  else if let some write := slots.string then do
    let rule ← memberOf path "string" codec.string
    write rule.rule path
  else if let some items := slots.array then do
    let rule ← memberOf path "array" codec.array
    return .array (← writeItems rule path 0 items)
  else if let some object := slots.object then do
    let id ← memberOf path "object" codec.classMember
    plan.writeObject id object path
  else if let some entries := slots.map then do
    let rule ← memberOf path "map" codec.map
    return .object (← writeEntries rule path entries)
  else if let some tag := slots.enumCase then do
    let id ← memberOf path "enum" codec.enumeration
    plan.writeCase id tag path
  else if codec.nullable then .ok .null
  else .error (.nullUnion path)

/-- A typed value by a rule, given its layer. -/
def writeLayer (plan : Converters) (layer : Layer) : Writer
  | .nullable inner, path =>
    match layer with
    | .null => .ok .null
    | layer => writeLayer plan layer inner path
  | rule, path =>
    let mismatch : DataError := .typeMismatch path rule.describe layer.kindName
    match rule, layer with
    | .copy primitive, layer =>
      match writeCopy? primitive layer with
      | some value => .ok value
      | none => .error mismatch
    | .transformed kind, .transformed value =>
      match kind.format value with
      | some text => .ok (.string text)
      | none => .error mismatch
    | .enumRef id, .enumCase tag => plan.writeCase id tag path
    | .classRef id, .object object => plan.writeObject id object path
    | .array items, .array writers => (writeItems items path 0 writers).map .array
    | .map values, .map entries => (writeEntries values path entries).map .object
    | .unionRef id, .union slots => do
      let codec ← plan.unionCodec id
      plan.encode codec slots path
    | _, _ => .error mismatch

mutual

/-- The layer of a typed value. -/
def layer (plan : Converters) : TypedValue → Layer
  | .any value => .any value
  | .null => .null
  | .bool b => .bool b
  | .integer i => .integer i
  | .double n => .double n
  | .string s => .string s
  | .transformed value => .transformed value
  | .array items => .array (itemWriters plan items)
  | .map entries => .map (entryWriters plan entries)
  | .object value => .object (instanceWriters plan value)
  | .enumCase tag => .enumCase tag
  | .union value => .union (slotWriters plan value)

/-- The writers of elements. -/
def itemWriters (plan : Converters) : List TypedValue → List Writer
  | [] => []
  | item :: rest => plan.writeLayer (layer plan item) :: itemWriters plan rest

/-- The writers of entries. -/
def entryWriters (plan : Converters) : List (String × TypedValue) → List (String × Writer)
  | [] => []
  | (key, value) :: rest => (key, plan.writeLayer (layer plan value)) :: entryWriters plan rest

/-- The writer of a value that may be absent. -/
def optionWriter (plan : Converters) : Option TypedValue → Option Writer
  | none => none
  | some value => some (plan.writeLayer (layer plan value))

/-- The writers of fields. -/
def fieldWriters (plan : Converters) :
    List (String × Option TypedValue) → List (String × Option Writer)
  | [] => []
  | (key, value) :: rest => (key, optionWriter plan value) :: fieldWriters plan rest

/-- An instance with writers for its fields. -/
def instanceWriters (plan : Converters) : Instance TypedValue → Instance Writer
  | ⟨id, fields⟩ => ⟨id, fieldWriters plan fields⟩

/-- The writers of a slot of elements. -/
def arrayWriters (plan : Converters) : Option (List TypedValue) → Option (List Writer)
  | none => none
  | some items => some (itemWriters plan items)

/-- The writers of a slot of an instance. -/
def objectWriters (plan : Converters) : Option (Instance TypedValue) → Option (Instance Writer)
  | none => none
  | some value => some (instanceWriters plan value)

/-- The writers of a slot of entries. -/
def mapWriters (plan : Converters) :
    Option (List (String × TypedValue)) → Option (List (String × Writer))
  | none => none
  | some entries => some (entryWriters plan entries)

/-- A union value with writers in its slots. -/
def slotWriters (plan : Converters) : UnionSlots TypedValue → UnionSlots Writer
  | ⟨b, i, d, s, a, o, m, e⟩ =>
    ⟨b, i, d, optionWriter plan s, arrayWriters plan a, objectWriters plan o,
      mapWriters plan m, e⟩

end

/-- A typed value by a rule. -/
def hydrateRule (plan : Converters) (value : TypedValue) : Writer :=
  plan.writeLayer (plan.layer value)

/-- The JSON value of an instance, by the converter of its class. -/
def hydrate (plan : Converters) (object : TypedObject) : Except DataError Json :=
  plan.writeObject object.classId (plan.instanceWriters object) Path.top

/-- The JSON value of a union value. -/
def encodeValue (plan : Converters) (codec : UnionCodec) (value : UnionValue) (path : Path) :
    Except DataError Json :=
  plan.encode codec (plan.slotWriters value) path

end Converters

end Hydration
