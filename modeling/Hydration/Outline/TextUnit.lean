import Hydration.OrderedMap
import Hydration.Text.Lines

/-!
# Text units

A unit is text under construction in which each line that is not empty starts
with the indentation of the depth at which its first character is written. An
outline is a sequence of named finished units under an optional header; a unit
whose writing fails leaves the outline as it was, and a unit written again
keeps its place.
-/

namespace Hydration

/-- Text under construction. -/
structure TextUnit where
  /-- The text so far. -/
  buffer : String
  /-- The number of enclosing indented blocks. -/
  depth : Nat
  /-- Whether the next character is the first of its line. -/
  atLineStart : Bool
  deriving DecidableEq

namespace TextUnit

/-- The unit without text. -/
def empty : TextUnit := ⟨"", 0, true⟩

/-- The indentation of a depth. -/
def indentation (depth : Nat) : List Char := List.replicate (4 * depth) ' '

/-- Write a piece that has a line feed at most as its last character. -/
def writePiece (u : TextUnit) (piece : List Char) : TextUnit where
  buffer :=
    if u.atLineStart && piece != ['\n'] then
      u.buffer ++ String.ofList (indentation u.depth) ++ String.ofList piece
    else u.buffer ++ String.ofList piece
  depth := u.depth
  atLineStart := piece.getLast? == some '\n'

/-- Write a text piece by piece. -/
def write (u : TextUnit) (text : String) : TextUnit :=
  (Text.pieces text.toList).foldl writePiece u

end TextUnit

/-- Something that writes to a unit and has a result. -/
abbrev Writing (α : Type) := StateM TextUnit α

namespace Writing

/-- Write a text. -/
def text (s : String) : Writing Unit := modify fun u => u.write s

/-- Write a text and end the line. -/
def line (s : String) : Writing Unit := text (s ++ "\n")

/-- Write one level deeper; the depth is restored whatever the result is. -/
def indented {α : Type} (body : Writing α) : Writing α := do
  modify fun u => { u with depth := u.depth + 1 }
  let result ← body
  modify fun u => { u with depth := u.depth - 1 }
  return result

/-- Write for each element in order. -/
def each {α : Type} (body : α → Writing Unit) : List α → Writing Unit
  | [] => return ()
  | a :: rest => do
    body a
    each body rest

end Writing

/-- An instruction to write to a unit. -/
inductive WriteStep where
  /-- Write a text. -/
  | text (s : String)
  /-- Follow instructions one level deeper. -/
  | indented (steps : List WriteStep)
  /-- Fail with a message. -/
  | fail (message : String)

namespace WriteStep

mutual

/-- Follow an instruction. -/
def perform : WriteStep → Writing (Except String Unit)
  | text s => do
    Writing.text s
    return .ok ()
  | indented steps => Writing.indented (performAll steps)
  | fail message => return .error message

/-- Follow instructions up to the first that fails. -/
def performAll : List WriteStep → Writing (Except String Unit)
  | [] => return .ok ()
  | step :: rest => do
    match ← perform step with
    | .ok () => performAll rest
    | .error message => return .error message

end

end WriteStep

/-- Named units under an optional header. -/
structure Outline where
  /-- The text above the units. -/
  header : Option String
  /-- The units by name, in the order of their first success. -/
  units : OrderedMap String String
  deriving DecidableEq

namespace Outline

/-- The outline without units. -/
def empty : Outline := ⟨none, OrderedMap.empty⟩

/-- Set the header. -/
def setHeader (outline : Outline) (text : String) : Outline := { outline with header := some text }

/-- Write a unit; its text is recorded if the writing succeeds. -/
def unit {ε : Type} (outline : Outline) (name : String) (body : Writing (Except ε Unit)) :
    Except ε Unit × Outline :=
  match body.run TextUnit.empty with
  | (.ok (), u) => (.ok (), { outline with units := outline.units.insert name u.buffer })
  | (.error e, _) => (.error e, outline)

/-- Write a unit that cannot fail. -/
def record (outline : Outline) (name : String) (body : Writing Unit) : Outline :=
  (outline.unit name (do
    body
    return (.ok () : Except Empty Unit))).2

/-- The header block: each line marked, then an empty line. -/
def headerText : Option String → String
  | some header =>
    String.join ((Text.lines header).map fun line => "// " ++ line ++ "\n") ++ "\n"
  | none => ""

/-- The header and the units in order, with a line feed between units. -/
def render (outline : Outline) : String :=
  headerText outline.header ++ "\n".intercalate outline.units.values

end Outline

end Hydration
