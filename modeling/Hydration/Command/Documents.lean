import Hydration.Command.Arguments
import Hydration.Files.Search
import Hydration.Json.Pointer
import Hydration.Json.Scan
import Hydration.Text.Blank
import Hydration.Text.Lines

/-!
# Input documents

From the inputs of a command line to labelled documents. Patterns become
paths before anything is read. A source is one text, or one text for each line
that is not blank, labelled with its number among all lines. A text is one
document, or the documents that a filter makes of it, labelled with their
indexes. What a filter makes of a document is for an `Interpreter` to say, which
everything here takes as it is given.
-/

namespace Hydration

/-- Why inputs are no paths. -/
inductive InputError where
  /-- A pattern is malformed. -/
  | malformedPattern (error : PatternError)
  /-- A pattern stands for no path. -/
  | nothingMatched (pattern : String)
  deriving DecidableEq

/-- The text of an input error. -/
def InputError.message : InputError → String
  | malformedPattern error => error.message
  | nothingMatched pattern => "glob pattern matched no files: " ++ pattern

/-- Why a source has no further documents. -/
inductive SourceError where
  /-- The source cannot be read. -/
  | unreadable (label : String) (fault : FileFault)
  /-- A text is not JSON. -/
  | malformed (label : String) (fault : Json.SyntaxFault)
  /-- The pointer selects nothing. -/
  | nothingSelected (label pointer : String)
  /-- The filter makes no documents, for a reason that its interpreter has put into words. -/
  | notFiltered (label reason : String)

/-- The text of a source error. -/
def SourceError.message : SourceError → String
  | unreadable label fault => "failed to read " ++ label ++ ": " ++ fault.message
  | malformed label fault => "failed to parse JSON source (" ++ label ++ "): " ++ fault.message
  | nothingSelected label pointer =>
    "JSON pointer " ++ pointer ++ " matched nothing in " ++ label
  | notFiltered label reason => "failed to apply jq expression to " ++ label ++ ": " ++ reason

/-- An interpreter of filters: the documents that a filter makes of a document, all of them, or
the reason why it makes none. -/
abbrev Interpreter : Type := String → Json → Except String (List Json)

/-- Something with the label that error texts call it by. -/
structure Labelled (α : Type) where
  /-- The label. -/
  label : String
  /-- What is labelled. -/
  content : α

namespace InputOptions

/-- The paths that an input stands for. -/
def pathsOf (workspace : Workspace) (input : String) : Except InputError (List String) :=
  if Pattern.isPattern input then
    match FileSearch.paths workspace input with
    | .error error => .error (.malformedPattern error)
    | .ok [] => .error (.nothingMatched input)
    | .ok paths => .ok paths
  else .ok [input]

/-- The inputs that are patterns. -/
def patterns (options : InputOptions) : List String := options.inputs.filter Pattern.isPattern

/-- The path of the standard input. -/
def standardInput : String := "-"

/-- Whether a path is that of the standard input; slashes and points after it make no
difference. -/
def isStandardInput (path : String) : Bool :=
  !Workspace.isAbsolute path && Workspace.properComponents path == [standardInput]

/-- Whether the standard input is one of the inputs. -/
def usesStandardInput (options : InputOptions) : Bool := options.inputs.any isStandardInput

/-- The paths that inputs stand for, in order. -/
def resolve (workspace : Workspace) : List String → Except InputError (List String)
  | [] => .ok []
  | input :: rest => do
    let paths ← pathsOf workspace input
    return paths ++ (← resolve workspace rest)

/-- An input that is not a pattern is its own path. -/
theorem pathsOf_of_not_isPattern {input : String} (h : Pattern.isPattern input = false)
    (workspace : Workspace) : pathsOf workspace input = .ok [input] := by
  simp [pathsOf, h]

/-- Inputs that are not patterns are their own paths. -/
theorem resolve_of_not_isPattern (workspace : Workspace) {inputs : List String}
    (h : ∀ input ∈ inputs, Pattern.isPattern input = false) :
    resolve workspace inputs = .ok inputs := by
  induction inputs with
  | nil => rfl
  | cons input rest ih =>
    rw [resolve, pathsOf_of_not_isPattern (h input (by simp)),
      ih fun other hother => h other (by simp [hother])]
    rfl

/-- Whether a line has nothing but white space. -/
def isBlankLine (line : String) : Bool := line.toList.all Text.isBlank

/-- Lines that are not blank, labelled with their numbers from a number on. -/
def numbered (label : String) : Nat → List String → List (Labelled String)
  | _, [] => []
  | number, line :: rest =>
    if isBlankLine line then numbered label (number + 1) rest
    else ⟨label ++ ":" ++ toString number, line⟩ :: numbered label (number + 1) rest

/-- The texts of a source. -/
def texts (options : InputOptions) (source : Labelled String) : List (Labelled String) :=
  if options.perLine then numbered source.label 1 (Text.lines source.content) else [source]

/-- Documents labelled with their indexes from an index on. -/
def indexed (label : String) : Nat → List Json → List (Labelled Json)
  | _, [] => []
  | place, document :: rest =>
    ⟨label ++ "#" ++ toString place, document⟩ :: indexed label (place + 1) rest

/-- The part of a document that the pointer selects. -/
def selected (options : InputOptions) (document : Labelled Json) : Except SourceError Json :=
  match options.pointer with
  | none => .ok document.content
  | some pointer =>
    match Json.Pointer.resolve? pointer document.content with
    | some part => .ok part
    | none => .error (.nothingSelected document.label pointer)

/-- The documents that the filter makes of a document. -/
def filtered (interpreter : Interpreter) (options : InputOptions) (document : Labelled Json) :
    Except SourceError (List (Labelled Json)) :=
  match options.filter with
  | none => .ok [document]
  | some filter =>
    match interpreter filter document.content with
    | .ok documents => .ok (indexed document.label 0 documents)
    | .error reason => .error (.notFiltered document.label reason)

/-- The documents of a text. -/
def documents (interpreter : Interpreter) (options : InputOptions) (text : Labelled String) :
    Except SourceError (List (Labelled Json)) :=
  match Json.parse text.content with
  | .error fault => .error (.malformed text.label fault)
  | .ok value => do
    let part ← options.selected ⟨text.label, value⟩
    options.filtered interpreter ⟨text.label, part⟩

end InputOptions

end Hydration
