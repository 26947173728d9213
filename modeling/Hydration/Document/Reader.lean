import Hydration.Document.Basic
import Hydration.Json.Scan
import Hydration.Text.Quoted

/-!
# Reading graph documents

A document is read from the scan of its text in text order, and the first
fault wins, be it one of syntax or of content. A fault carries its place in
the document: keys and indices from the root, and a mark where the key itself
could not be read. Named types and type expressions are first read as a whole;
after that, faults of their content carry the place of the whole.
-/

namespace Hydration.Document

/-- One step to the place of a fault. -/
inductive Segment where
  /-- To the member with a key. -/
  | key (name : String)
  /-- To the element with an index. -/
  | index (position : Nat)
  /-- To a member whose key could not be read. -/
  | unknown
  deriving DecidableEq

/-- The rest of a place: keys are joined by points. -/
def segmentsText : Bool → List Segment → String
  | _, [] => ""
  | isFirst, .key name :: rest => (if isFirst then "" else ".") ++ name ++ segmentsText false rest
  | isFirst, .unknown :: rest => (if isFirst then "" else ".") ++ "?" ++ segmentsText false rest
  | _, .index position :: rest => "[" ++ toString position ++ "]" ++ segmentsText false rest

/-- The text of a place; the root is a point. -/
def placeText : List Segment → String
  | [] => "."
  | segments => segmentsText true segments

/-- A value where another was expected. -/
inductive Found where
  /-- The null value. -/
  | null
  /-- A truth value. -/
  | bool (value : Bool)
  /-- A number. -/
  | number (value : Json.Number)
  /-- A string. -/
  | string (value : String)
  /-- An array. -/
  | sequence
  /-- An object. -/
  | map
  deriving DecidableEq

/-- The text of a value that was not expected. -/
def Found.text : Found → String
  | null => "null"
  | bool value => "boolean `" ++ (if value then "true" else "false") ++ "`"
  | number (.integer token) => "integer `" ++ toString token.value ++ "`"
  | number (.double value) => "floating point `" ++ Json.Number.layout.write value ++ "`"
  | string value => "string " ++ Text.Quoted.encode value
  | sequence => "sequence"
  | map => "map"

/-- What was expected at a place. -/
inductive Expected where
  /-- The whole document. -/
  | document
  /-- An object with arbitrary keys. -/
  | map
  /-- An array. -/
  | sequence
  /-- A string. -/
  | string
  /-- A truth value. -/
  | boolean
  /-- A named type. -/
  | namedType
  /-- The kind of a named type. -/
  | kind
  /-- A field. -/
  | field
  /-- An enum. -/
  | enumDoc
  deriving DecidableEq

/-- The text of an expectation. -/
def Expected.text : Expected → String
  | document => "struct GraphDocument"
  | map => "a map"
  | sequence => "a sequence"
  | string => "a string"
  | boolean => "a boolean"
  | namedType => "internally tagged enum NamedType"
  | kind => "variant identifier"
  | field => "struct FieldDoc with 2 elements"
  | enumDoc => "struct variant NamedType::Enum with 1 element"

/-- What is wrong at a place of a document. -/
inductive Fault where
  /-- The text is not JSON. -/
  | text (fault : Json.SyntaxFault)
  /-- A value of another type than expected. -/
  | unexpected (found : Found) (expected : Expected)
  /-- An array that is too short. -/
  | tooShort (length : Nat) (expected : Expected)
  /-- An array that is too long. -/
  | tooLong (length limit : Nat)
  /-- A required key is missing. -/
  | missingField (name : String)
  /-- A key occurs twice. -/
  | duplicateField (name : String)
  /-- A key that is not known, with the known ones. -/
  | unknownField (name : String) (known : List String)
  /-- A kind that is not known. -/
  | unknownKind (name : String)
  /-- A type expression of none of the forms. -/
  | noExpression
  deriving DecidableEq

/-- The text of a fault. -/
def Fault.message : Fault → String
  | text fault => fault.message
  | unexpected found .field => "invalid type: " ++ found.text ++ ", expected struct FieldDoc"
  | unexpected found expected => "invalid type: " ++ found.text ++ ", expected " ++ expected.text
  | tooShort length expected =>
    "invalid length " ++ toString length ++ ", expected " ++ expected.text
  | tooLong length limit =>
    "invalid length " ++ toString length ++ ", expected " ++ toString limit
      ++ (if limit = 1 then " element" else " elements") ++ " in sequence"
  | missingField name => "missing field `" ++ name ++ "`"
  | duplicateField name => "duplicate field `" ++ name ++ "`"
  | unknownField name known =>
    "unknown field `" ++ name ++ "`, expected "
      ++ " or ".intercalate (known.map fun word => "`" ++ word ++ "`")
  | unknownKind name => "unknown variant `" ++ name ++ "`, expected `class` or `enum`"
  | noExpression => "data did not match any variant of untagged enum TypeExpr"

/-- A fault and its place. -/
structure ParseError where
  /-- The place, outermost step first. -/
  place : List Segment
  /-- What is wrong there. -/
  fault : Fault
  deriving DecidableEq

/-- The place of a parse error as text. -/
def ParseError.path (error : ParseError) : String := placeText error.place

/-- The text of a parse error. -/
def ParseError.message (error : ParseError) : String :=
  "at JSON path " ++ error.path ++ " → " ++ error.fault.message

open Json (Scan ObjectEnd)

/-- The fault of a scan that is not what was expected. -/
def mismatch (expected : Expected) : Scan → Fault
  | .null => .unexpected .null expected
  | .bool b => .unexpected (.bool b) expected
  | .number n => .unexpected (.number n) expected
  | .string s => .unexpected (.string s) expected
  | .array _ _ => .unexpected .sequence expected
  | .object _ _ => .unexpected .map expected
  | .broken fault => .text fault

/-- The fault at the end of an object, with its place below the object's. -/
def endFault? : ObjectEnd → Option (List Segment × Json.SyntaxFault)
  | .closed => none
  | .keyFault fault => some ([.unknown], fault)
  | .colonFault _ fault => some ([], fault)

mutual

/-- The first syntax fault of a scan, with its place below the scan's. -/
def syntaxFault? : Scan → Option (List Segment × Json.SyntaxFault)
  | .array items fault =>
    match itemsFault? 0 items with
    | some found => some found
    | none => fault.map fun fault => ([], fault)
  | .object members ending =>
    match membersFault? members with
    | some found => some found
    | none => endFault? ending
  | .broken fault => some ([], fault)
  | _ => none

/-- The first syntax fault of elements, counted from an index. -/
def itemsFault? (index : Nat) : List Scan → Option (List Segment × Json.SyntaxFault)
  | [] => none
  | item :: rest =>
    match syntaxFault? item with
    | some (place, fault) => some (.index index :: place, fault)
    | none => itemsFault? (index + 1) rest

/-- The first syntax fault of members. -/
def membersFault? : List (String × Scan) → Option (List Segment × Json.SyntaxFault)
  | [] => none
  | (key, member) :: rest =>
    match syntaxFault? member with
    | some (place, fault) => some (.key key :: place, fault)
    | none => membersFault? rest

end

/-- The value of the only member with a key. -/
def only? {α : Type} (key : String) (members : List (String × α)) : Option α :=
  match members.filter fun member => member.1 == key with
  | [member] => some member.2
  | _ => none

mutual

/-- The type expression of a scan: a name, or the first of the forms `array`,
`map`, `union` and `transformed` whose key occurs once with a fitting value.
Other keys are ignored. -/
def expr? : Scan → Option TypeExpr
  | .string name => some (.name name)
  | .object members _ =>
    let forms := memberExprs members
    ((only? "array" forms).bind (·.1)).map .array
      <|> ((only? "map" forms).bind (·.1)).map .map
      <|> ((only? "union" forms).bind (·.2.1)).map .union
      <|> ((only? "transformed" forms).bind (·.2.2)).map .transformed
  | _ => none

/-- The type expressions of the elements of a scan. -/
def exprs? : List Scan → Option (List TypeExpr)
  | [] => some []
  | item :: rest =>
    match expr? item, exprs? rest with
    | some first, some more => some (first :: more)
    | _, _ => none

/-- For each member the expression, the list of expressions and the string
that its value stands for. -/
def memberExprs : List (String × Scan) →
    List (String × Option TypeExpr × Option (List TypeExpr) × Option String)
  | [] => []
  | (key, .array items _) :: rest => (key, none, exprs? items, none) :: memberExprs rest
  | (key, .string text) :: rest => (key, some (.name text), none, some text) :: memberExprs rest
  | (key, value) :: rest => (key, expr? value, none, none) :: memberExprs rest

end

/-- The type expression at a place. -/
def readExpr (place : List Segment) (scan : Scan) : Except ParseError TypeExpr :=
  match syntaxFault? scan with
  | some (below, fault) => .error ⟨place ++ below, .text fault⟩
  | none =>
    match expr? scan with
    | some expr => .ok expr
    | none => .error ⟨place, .noExpression⟩

/-- A string, or the fault of another value. -/
def stringOf : Scan → Except Fault String
  | .string text => .ok text
  | scan => .error (mismatch .string scan)

/-- A truth value, or the fault of another value. -/
def boolOf : Scan → Except Fault Bool
  | .bool value => .ok value
  | scan => .error (mismatch .boolean scan)

/-- A type expression, or the fault of another value. -/
def exprOf (scan : Scan) : Except Fault TypeExpr :=
  match expr? scan with
  | some expr => .ok expr
  | none => .error .noExpression

/-- The members of a field object, read in order. -/
def fieldMembers : List (String × Scan) → Option TypeExpr → Option Bool → Except Fault FieldDoc
  | [], some type, optional => .ok ⟨type, optional.getD false⟩
  | [], none, _ => .error (.missingField "type")
  | (key, value) :: rest, type, optional =>
    match key with
    | "type" =>
      match type with
      | some _ => .error (.duplicateField "type")
      | none => do fieldMembers rest (some (← exprOf value)) optional
    | "optional" =>
      match optional with
      | some _ => .error (.duplicateField "optional")
      | none => do fieldMembers rest type (some (← boolOf value))
    | key => .error (.unknownField key ["type", "optional"])

/-- A field as an object, or as an array of the type and the flag. -/
def fieldOf : Scan → Except Fault FieldDoc
  | .object members _ => fieldMembers members none none
  | .array [] _ => .error (.tooShort 0 .field)
  | .array [type] _ => do return ⟨← exprOf type, false⟩
  | .array (type :: optional :: rest) _ => do
    let field : FieldDoc := ⟨← exprOf type, ← boolOf optional⟩
    if rest.isEmpty then return field else throw (.tooLong (rest.length + 2) 2)
  | scan => .error (mismatch .field scan)

/-- The fields of a class. -/
def fieldsOf : Scan → Except Fault (OrderedMap String FieldDoc)
  | .object members _ => do
    let fields ← members.mapM fun member => do return (member.1, ← fieldOf member.2)
    return OrderedMap.ofList fields
  | scan => .error (mismatch .map scan)

/-- The cases of an enum. -/
def casesOf : Scan → Except Fault (List String)
  | .array items _ => items.mapM stringOf
  | scan => .error (mismatch .sequence scan)

/-- The value of the only known key of a named type, read in order. -/
def singleMember {α : Type} (name : String) (read : Scan → Except Fault α) :
    List (String × Scan) → Option α → Except Fault (Option α)
  | [], found => .ok found
  | (key, value) :: rest, found =>
    if key = name then
      match found with
      | some _ => .error (.duplicateField name)
      | none => do singleMember name read rest (some (← read value))
    else singleMember name read rest found

/-- The two kinds of named types. -/
inductive NamedKind where
  /-- A class. -/
  | classDoc
  /-- An enum. -/
  | enumDoc

/-- The kind of a named type, or the fault of another value. -/
def kindOf : Scan → Except Fault NamedKind
  | .string "class" => .ok .classDoc
  | .string "enum" => .ok .enumDoc
  | .string name => .error (.unknownKind name)
  | scan => .error (mismatch .kind scan)

/-- A named type from the members other than its kind. -/
def namedOfMembers (members : List (String × Scan)) : NamedKind → Except Fault NamedType
  | .classDoc => do
    return .classDoc ((← singleMember "fields" fieldsOf members none).getD OrderedMap.empty)
  | .enumDoc => do
    match ← singleMember "cases" casesOf members none with
    | some cases => return .enumDoc cases
    | none => throw (.missingField "cases")

/-- A named type from the elements after its kind. -/
def namedOfItems (items : List Scan) : NamedKind → Except Fault NamedType
  | .classDoc =>
    match items with
    | [] => .ok (.classDoc OrderedMap.empty)
    | fields :: rest => do
      let fields ← fieldsOf fields
      if rest.isEmpty then return .classDoc fields else throw (.tooLong items.length 1)
  | .enumDoc =>
    match items with
    | [] => .error (.tooShort 0 .enumDoc)
    | cases :: rest => do
      let cases ← casesOf cases
      if rest.isEmpty then return .enumDoc cases else throw (.tooLong items.length 1)

/-- Put a fault at a place. -/
def located {α : Type} (place : List Segment) : Except Fault α → Except ParseError α
  | .ok value => .ok value
  | .error fault => .error ⟨place, fault⟩

/-- The members of a named type: its kind, and the others unread but free of
syntax faults. -/
def taggedMembers (place : List Segment) :
    List (String × Scan) → Option NamedKind → List (String × Scan) →
    Except ParseError (Option NamedKind × List (String × Scan))
  | [], kind, others => .ok (kind, others.reverse)
  | (key, value) :: rest, kind, others =>
    if key = "kind" then
      match kind with
      | some _ => .error ⟨place, .duplicateField "kind"⟩
      | none => do
        let kind ← located (place ++ [.key "kind"]) (kindOf value)
        taggedMembers place rest (some kind) others
    else
      match syntaxFault? value with
      | some (below, fault) => .error ⟨place ++ .key key :: below, .text fault⟩
      | none => taggedMembers place rest kind ((key, value) :: others)

/-- The named type at a place. -/
def readNamed (place : List Segment) : Scan → Except ParseError NamedType
  | .object members ending => do
    let (kind, others) ← taggedMembers place members none []
    match kind, ending with
    | none, .closed => throw ⟨place, .missingField "kind"⟩
    | some kind, .closed => located place (namedOfMembers others kind)
    | some _, .colonFault "kind" _ => throw ⟨place, .duplicateField "kind"⟩
    | _, .keyFault fault => throw ⟨place ++ [.unknown], .text fault⟩
    | _, .colonFault _ fault => throw ⟨place, .text fault⟩
  | .array [] fault =>
    match fault with
    | some fault => .error ⟨place, .text fault⟩
    | none => .error ⟨place, .missingField "kind"⟩
  | .array (kind :: rest) fault => do
    let kind ← located (place ++ [.index 0]) (kindOf kind)
    match itemsFault? 1 rest with
    | some (below, fault) => throw ⟨place ++ below, .text fault⟩
    | none =>
      match fault with
      | some fault => throw ⟨place, .text fault⟩
      | none => located place (namedOfItems rest kind)
  | scan => .error ⟨place, mismatch .namedType scan⟩

/-- The members of an object with arbitrary keys, each value read in its place. -/
def readMembers {α : Type} (place : List Segment)
    (read : List Segment → Scan → Except ParseError α) :
    List (String × Scan) → Except ParseError (List (String × α))
  | [] => .ok []
  | (key, value) :: rest => do
    let first ← read (place ++ [.key key]) value
    return (key, first) :: (← readMembers place read rest)

/-- An object with arbitrary keys. -/
def readMap {α : Type} (place : List Segment)
    (read : List Segment → Scan → Except ParseError α) :
    Scan → Except ParseError (OrderedMap String α)
  | .object members ending => do
    let values ← readMembers place read members
    match endFault? ending with
    | some (below, fault) => throw ⟨place ++ below, .text fault⟩
    | none => return OrderedMap.ofList values
  | scan => .error ⟨place, mismatch .map scan⟩

/-- What has been read of a document. -/
structure Partial where
  /-- The entry points, once read. -/
  topLevels : Option (OrderedMap String TypeExpr)
  /-- The named types, once read. -/
  types : Option (OrderedMap String NamedType)

/-- The fault of a document key before its value is looked at. -/
def keyFault? (read : Partial) (key : String) : Option ParseError :=
  match key with
  | "top_levels" =>
    if read.topLevels.isSome then some ⟨[], .duplicateField "top_levels"⟩ else none
  | "types" => if read.types.isSome then some ⟨[], .duplicateField "types"⟩ else none
  | key => some ⟨[.key key], .unknownField key ["top_levels", "types"]⟩

/-- The members of a document, read in order. -/
def documentMembers : List (String × Scan) → Partial → Except ParseError Partial
  | [], read => .ok read
  | (key, value) :: rest, read =>
    match keyFault? read key with
    | some error => .error error
    | none =>
      if key = "types" then do
        let types ← readMap [.key "types"] readNamed value
        documentMembers rest { read with types := some types }
      else do
        let topLevels ← readMap [.key "top_levels"] readExpr value
        documentMembers rest { read with topLevels := some topLevels }

/-- The document of what has been read; both parts may be left out. -/
def Partial.document (read : Partial) : GraphDocument :=
  ⟨read.topLevels.getD OrderedMap.empty, read.types.getD OrderedMap.empty⟩

/-- The fault at the end of an array of which all wanted elements were read. -/
def surplusFault? (rest : List Scan) (fault : Option Json.SyntaxFault) :
    Option Json.SyntaxFault :=
  match rest, fault with
  | _ :: _, _ => some .trailingText
  | [], some .endInArray => some .endInArray
  | [], some .trailingComma => some .trailingComma
  | [], some _ => some .trailingText
  | [], none => none

/-- The document of a scan: an object, or an array of its two parts. -/
def ofScan : Scan → Except ParseError GraphDocument
  | .object members ending => do
    let read ← documentMembers members ⟨none, none⟩
    match ending with
    | .closed => return read.document
    | .keyFault fault => throw ⟨[.unknown], .text fault⟩
    | .colonFault key fault =>
      match keyFault? read key with
      | some error => throw error
      | none => throw ⟨[], .text fault⟩
  | .array items fault => do
    let ended (read : Partial) : Except ParseError GraphDocument :=
      match fault with
      | some fault => throw ⟨[], .text fault⟩
      | none => return read.document
    match items with
    | [] => ended ⟨none, none⟩
    | [topLevels] =>
      let topLevels ← readMap [.index 0] readExpr topLevels
      ended ⟨some topLevels, none⟩
    | topLevels :: types :: rest =>
      let topLevels ← readMap [.index 0] readExpr topLevels
      let types ← readMap [.index 1] readNamed types
      match surplusFault? rest fault with
      | some fault => throw ⟨[], .text fault⟩
      | none => return (⟨some topLevels, some types⟩ : Partial).document
  | scan => .error ⟨[], mismatch .document scan⟩

end Hydration.Document

namespace Hydration

/-- Why a text is not a graph. -/
inductive DocumentError where
  /-- The text is not a graph document. -/
  | parse (error : Document.ParseError)
  /-- The document is not a graph. -/
  | lowering (error : LoweringError)
  deriving DecidableEq

/-- The text of a document error. -/
def DocumentError.message : DocumentError → String
  | parse error => error.message
  | lowering error => error.message

/-- The graph of a text. What follows the first value is not looked at. -/
def TypeGraph.ofText (text : String) : Except DocumentError TypeGraph :=
  match Document.ofScan (Json.Scan.ofText text).1 with
  | .error error => .error (.parse error)
  | .ok doc =>
    match doc.toGraph with
    | .error error => .error (.lowering error)
    | .ok graph => .ok graph

end Hydration
