import Hydration.Command.Documents
import Hydration.Json.Printer
import Hydration.Typed.Dehydrate
import Hydration.Typed.Hydrate

/-!
# Converting documents

Every document is read into a class and written back. A document that the
class does not admit is reported and the next one follows; a source that
cannot be read or made into documents ends the conversion, and everything
converted or reported before it stands.
-/

namespace Hydration

/-- What the documents are converted with. -/
structure Conversion where
  /-- The converters. -/
  plan : Converters
  /-- The class that the documents are read into. -/
  classId : TypeId
  /-- How inputs become documents. -/
  options : InputOptions
  /-- What their filter makes of a document. -/
  interpreter : Interpreter

/-- The lines of output so far. -/
structure Journal where
  /-- The converted documents, in order. -/
  converted : List String
  /-- The reports on documents that the class does not admit, in order. -/
  invalid : List String
  deriving DecidableEq

/-- The journal without lines. -/
def Journal.empty : Journal := ⟨[], []⟩

namespace Conversion

/-- A document read into the class and written back. -/
def convert (conversion : Conversion) (document : Json) : Except DataError Json := do
  conversion.plan.hydrate (← conversion.plan.dehydrate conversion.classId document)

/-- The report on a document. -/
def report (label : String) (error : DataError) : String :=
  "invalid " ++ label ++ ": " ++ error.message

/-- Convert a document. -/
def onDocument (conversion : Conversion) (journal : Journal) (document : Labelled Json) :
    Journal :=
  match conversion.convert document.content with
  | .ok value => { journal with converted := journal.converted ++ [value.compact] }
  | .error error => { journal with invalid := journal.invalid ++ [report document.label error] }

/-- Convert the documents of texts, up to the first text that has none. -/
def onTexts (conversion : Conversion) :
    List (Labelled String) → Journal → Journal × Option SourceError
  | [], journal => (journal, none)
  | text :: rest, journal =>
    match conversion.options.documents conversion.interpreter text with
    | .ok documents => onTexts conversion rest (documents.foldl conversion.onDocument journal)
    | .error error => (journal, some error)

/-- Convert the documents of paths, up to the first fault. The standard input
has its text only once. -/
def onPaths (conversion : Conversion) (workspace : Workspace) :
    List String → String → Journal → Journal × Option SourceError
  | [], _, journal => (journal, none)
  | path :: rest, stdin, journal =>
    let read := if InputOptions.isStandardInput path then .ok stdin else workspace.read path
    let remaining := if InputOptions.isStandardInput path then "" else stdin
    match read with
    | .error fault => (journal, some (.unreadable path fault))
    | .ok text =>
      match onTexts conversion (conversion.options.texts ⟨path, text⟩) journal with
      | (journal, none) => onPaths conversion workspace rest remaining journal
      | (journal, some error) => (journal, some error)

end Conversion

end Hydration
