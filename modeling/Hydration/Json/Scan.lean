import Hydration.Json.Basic
import Hydration.Json.Token

/-!
# Scanning JSON

A scan is what has been read of a JSON text up to its end or its first fault:
a tree in which repeated keys are still repeated and in which the fault has
the place at which it was met. The scanner is a machine that takes one token
at a time and keeps the open arrays and objects on a stack. Readers that know
what they expect walk a scan in text order, so that the first of several
faults wins; `Scan.toJson` is the reader that expects nothing.
-/

namespace Hydration.Json

/-- How the text of an object ends. -/
inductive ObjectEnd where
  /-- With a closing brace, or inside the last member's value. -/
  | closed
  /-- With a fault where a key or the closing brace should stand. -/
  | keyFault (fault : SyntaxFault)
  /-- With a fault after a key. -/
  | colonFault (key : String) (fault : SyntaxFault)
  deriving DecidableEq

/-- What has been read of a JSON text. -/
inductive Scan where
  /-- The null value. -/
  | null
  /-- A truth value. -/
  | bool (value : Bool)
  /-- A number. -/
  | number (value : Number)
  /-- A string. -/
  | string (value : String)
  /-- An array with the fault between its elements, if there is one. -/
  | array (items : List Scan) (fault : Option SyntaxFault)
  /-- An object with all its members and the way its text ends. -/
  | object (members : List (String × Scan)) (ending : ObjectEnd)
  /-- A value that could not be read. -/
  | broken (fault : SyntaxFault)

namespace Scan

instance : Inhabited Scan := ⟨null⟩

/-- An array or object that waits for a value. -/
inductive Frame where
  /-- An array with the elements before that value, newest first. -/
  | array (items : List Scan)
  /-- An object with the members before that value, newest first, and its key. -/
  | member (members : List (String × Scan)) (key : String)

/-- What may follow in the text. -/
inductive Mode where
  /-- A value. -/
  | value
  /-- An element, or at the start of an array its end. -/
  | item (items : List Scan)
  /-- A comma or the end of an array. -/
  | afterItem (items : List Scan)
  /-- A key, or at the start of an object its end. -/
  | key (members : List (String × Scan))
  /-- The colon after a key. -/
  | colon (members : List (String × Scan)) (key : String)
  /-- A comma or the end of an object. -/
  | afterMember (members : List (String × Scan))

/-- The most brackets that may be open at once. -/
def depthLimit : Nat := 127

/-- The whole scan when reading ends with `inner` in the innermost open place. -/
def close : List Frame → Scan → Scan
  | [], inner => inner
  | .array items :: outer, inner => close outer (array (inner :: items).reverse none)
  | .member members key :: outer, inner =>
    close outer (object ((key, inner) :: members).reverse .closed)

/-- What follows a finished value in the innermost open place, or nothing if
the document is complete. -/
def resume : List Frame → Scan → Option (Mode × List Frame)
  | [], _ => none
  | .array items :: outer, value => some (.afterItem (value :: items), outer)
  | .member members key :: outer, value => some (.afterMember ((key, value) :: members), outer)

/-- What the next token makes of the machine. -/
inductive Step where
  /-- Reading goes on. -/
  | next (mode : Mode) (frames : List Frame)
  /-- A value is finished. -/
  | finished (value : Scan) (frames : List Frame)
  /-- Reading stops with a fault in the innermost open place. -/
  | stop (inner : Scan) (frames : List Frame)

/-- The step at a place where a value has to follow. -/
def valueStep (frames : List Frame) : Token → Step
  | .null => .finished null frames
  | .bool b => .finished (bool b) frames
  | .number n => .finished (number n) frames
  | .string s => .finished (string s) frames
  | .openArray =>
    if frames.length < depthLimit then .next (.item []) frames else .stop (broken .tooDeep) frames
  | .openObject =>
    if frames.length < depthLimit then .next (.key []) frames else .stop (broken .tooDeep) frames
  | .broken _ fault => .stop (broken fault) frames
  | .closeArray | .closeObject | .colon | .comma => .stop (broken .valueExpected) frames

/-- The step of the machine at a token. -/
def step (mode : Mode) (frames : List Frame) (token : Token) : Step :=
  match mode with
  | .value => valueStep frames token
  | .item items =>
    match items, token with
    | [], .closeArray => .finished (array [] none) frames
    | _ :: _, .closeArray => .stop (array items.reverse (some .trailingComma)) frames
    | _, token => valueStep (.array items :: frames) token
  | .afterItem items =>
    match token with
    | .comma => .next (.item items) frames
    | .closeArray => .finished (array items.reverse none) frames
    | _ => .stop (array items.reverse (some .itemSeparatorExpected)) frames
  | .key members =>
    match members, token with
    | _, .string key => .next (.colon members key) frames
    | _, .broken true fault => .stop (object members.reverse (.keyFault fault)) frames
    | [], .closeObject => .finished (object [] .closed) frames
    | _ :: _, .closeObject => .stop (object members.reverse (.keyFault .trailingComma)) frames
    | _, _ => .stop (object members.reverse (.keyFault .keyNotString)) frames
  | .colon members key =>
    match token with
    | .colon => .next .value (.member members key :: frames)
    | _ => .stop (object members.reverse (.colonFault key .colonExpected)) frames
  | .afterMember members =>
    match token with
    | .comma => .next (.key members) frames
    | .closeObject => .finished (object members.reverse .closed) frames
    | _ => .stop (object members.reverse (.keyFault .memberSeparatorExpected)) frames

/-- What is in the innermost open place when the text ends. -/
def atEnd : Mode → Scan
  | .value => broken .endInValue
  | .item [] => array [] (some .endInArray)
  | .item items => array items.reverse (some .endInValue)
  | .afterItem items => array items.reverse (some .endInArray)
  | .key [] => object [] (.keyFault .endInObject)
  | .key members => object members.reverse (.keyFault .endInValue)
  | .colon members key => object members.reverse (.colonFault key .endInObject)
  | .afterMember members => object members.reverse (.keyFault .endInObject)

/-- Read one value; the second part is the tokens after it. -/
def run (mode : Mode) (frames : List Frame) : List Token → Scan × List Token
  | [] => (close frames (atEnd mode), [])
  | token :: rest =>
    match step mode frames token with
    | .next mode frames => run mode frames rest
    | .finished value frames =>
      match resume frames value with
      | none => (value, rest)
      | some (mode, frames) => run mode frames rest
    | .stop inner frames => (close frames inner, [])

/-- The scan of the first value of a text, with the tokens after it. -/
def ofText (text : String) : Scan × List Token := run .value [] (Token.ofChars text.toList)

mutual

/-- The value of a scan, or its fault. A repeated key keeps its first place
and takes its last value. -/
def toJson : Scan → Except SyntaxFault Json
  | null => .ok .null
  | bool b => .ok (.bool b)
  | number n => .ok (.number n)
  | string s => .ok (.string s)
  | array items fault => do
    let values ← itemsToJson items
    match fault with
    | some fault => throw fault
    | none => return .array values
  | object members ending => do
    let values ← membersToJson members
    match ending with
    | .closed => return .object (Entries.ofList values)
    | .keyFault fault => throw fault
    | .colonFault _ fault => throw fault
  | broken fault => .error fault

/-- The values of elements, or the first fault. -/
def itemsToJson : List Scan → Except SyntaxFault (List Json)
  | [] => .ok []
  | item :: rest => do
    let value ← toJson item
    return value :: (← itemsToJson rest)

/-- The values of members, or the first fault. -/
def membersToJson : List (String × Scan) → Except SyntaxFault (List (String × Json))
  | [] => .ok []
  | (key, member) :: rest => do
    let value ← toJson member
    return (key, value) :: (← membersToJson rest)

end

end Scan

/-- The value of a text that holds one value and nothing else. -/
def parse (text : String) : Except SyntaxFault Json := do
  let (scan, rest) := Scan.ofText text
  let value ← scan.toJson
  if rest.isEmpty then return value else throw .trailingText

end Hydration.Json
