import Hydration.Command.Convert
import Hydration.Document.Reader
import Hydration.Json.Printer
import Hydration.Naming.Written
import Hydration.Outline.Plan
import Hydration.Plan.Builder
import Hydration.Plan.Written

/-!
# Performing commands

What a command writes and where, as a function of the files that it finds, of the
standard input and of an interpreter of filters. An error ends a command with one
line on the standard error, in which each circumstance stands before its cause.
-/

namespace Hydration

/-- Why a graph document cannot be loaded. -/
inductive LoadError where
  /-- The file cannot be read. -/
  | unreadable (path : String) (fault : FileFault)
  /-- The text is not a graph. -/
  | document (error : DocumentError)
  deriving DecidableEq

/-- The text of a load error; the cause of an unreadable file is stated again. -/
def LoadError.message : LoadError → String
  | unreadable path fault =>
    "failed to read " ++ path ++ ": " ++ fault.message ++ ": " ++ fault.message
  | document error => error.message

/-- Why a command fails. -/
inductive CommandError where
  /-- The graph document cannot be loaded. -/
  | graph (path : String) (error : LoadError)
  /-- The graph has no identifiers. -/
  | naming (error : NamingError)
  /-- The graph has no plan. -/
  | plan (error : PlanError)
  /-- The graph has no such class. -/
  | noClass (name : String)
  /-- The inputs are no paths. -/
  | inputs (error : InputError)
  /-- A source has no further documents. -/
  | source (error : SourceError)
  /-- The directory of the output file cannot be made. -/
  | directory (fault : FileFault)
  /-- The output file cannot be written. -/
  | output (path : String) (fault : FileFault)

/-- The text of a command error. -/
def CommandError.message : CommandError → String
  | graph path error => "invalid graph document " ++ path ++ ": " ++ error.message
  | naming error => error.message
  | plan error => error.message
  | noClass name => "no class or top-level class named `" ++ name ++ "`"
  | inputs error => "failed to resolve input file paths: " ++ error.message
  | source error => error.message
  | directory fault => fault.message
  | output path fault => "failed to write " ++ path ++ ": " ++ fault.message

/-- What a command leaves behind. -/
structure Report where
  /-- The exit status. -/
  exitStatus : Nat
  /-- The text on the standard output. -/
  stdout : String
  /-- The text on the standard error. -/
  stderr : String
  /-- The files. -/
  workspace : Workspace

/-- Lines as text. -/
def linesText (lines : List String) : String := String.join (lines.map (· ++ "\n"))

namespace Report

/-- A command that succeeds with a text on the standard output. -/
def printed (workspace : Workspace) (text : String) : Report := ⟨0, text, "", workspace⟩

/-- A command that fails before it writes anything. -/
def failed (workspace : Workspace) (error : CommandError) : Report :=
  ⟨1, "", linesText ["error: " ++ error.message], workspace⟩

/-- The report of a result. -/
def ofResult (workspace : Workspace) : Except CommandError Report → Report
  | .ok report => report
  | .error error => failed workspace error

end Report

namespace TypeGraph

/-- The graph of a document in a file. -/
def load (workspace : Workspace) (path : String) : Except CommandError TypeGraph :=
  match workspace.read path with
  | .error fault => .error (.graph path (.unreadable path fault))
  | .ok text => (TypeGraph.ofText text).mapError fun error => .graph path (.document error)

/-- The classes that entry points name, or every class if none does. -/
def entryClasses (graph : TypeGraph) : List TypeId :=
  let named := graph.topLevels.values.filter fun id => (graph.class? id).isSome
  if named.isEmpty then graph.classes.map Prod.fst else named

/-- The class of an entry point's name or, failing that, of its own name. -/
def findClass? (graph : TypeGraph) (name : String) : Option TypeId :=
  ((graph.topLevel? name).filter fun id => (graph.class? id).isSome).or (graph.classNamed? name)

end TypeGraph

namespace Command

/-- Write a JSON value to a file, or with a line end to the standard output. -/
def deliverJson (workspace : Workspace) (out : Option String) (value : Json) :
    Except CommandError Report :=
  match out with
  | none => .ok (.printed workspace (value.pretty ++ "\n"))
  | some path =>
    match workspace.prepare path, workspace.write path value.pretty with
    | .error fault, _ => .error (.directory fault)
    | .ok _, .error fault => .error (.output path fault)
    | .ok _, .ok workspace => .ok (.printed workspace "")

/-- Write a text to a file or to the standard output. -/
def deliverText (workspace : Workspace) (out : Option String) (text : String) :
    Except CommandError Report :=
  match out with
  | none => .ok (.printed workspace text)
  | some path =>
    match workspace.write path text with
    | .error fault => .error (.output path fault)
    | .ok workspace => .ok (.printed workspace "")

/-- The header of an outline. -/
def outlineHeader (graph : GraphOptions) : String :=
  "converter plan for " ++ graph.path ++ " (target: " ++ graph.target.name ++ ")"

/-- Write the identifiers of a graph. -/
def runNames (workspace : Workspace) (options : GraphOptions) (out : Option String) :
    Except CommandError Report := do
  let graph ← TypeGraph.load workspace options.path
  let names ← (GraphNames.resolve graph options.target.policy).mapError .naming
  deliverJson workspace out names.toJson

/-- Write the plan of a graph. -/
def runPlan (workspace : Workspace) (options : GraphOptions) (asJson : Bool) (out : Option String) :
    Except CommandError Report := do
  let graph ← TypeGraph.load workspace options.path
  let plan ← (Converters.build graph graph.entryClasses options.target.routing).mapError .plan
  if asJson then deliverJson workspace out plan.toJson
  else
    let names ← (GraphNames.resolve graph options.target.policy).mapError .naming
    let outline := (Outline.ofPlan names plan).setHeader (outlineHeader options)
    deliverText workspace out outline.render

/-- The conversion that a command asks for. -/
def prepareConversion (interpreter : Interpreter) (workspace : Workspace) (options : GraphOptions)
    (inputs : InputOptions) (className : String) : Except CommandError Conversion := do
  let graph ← TypeGraph.load workspace options.path
  let classId ← match graph.findClass? className with
    | some id => .ok id
    | none => .error (.noClass className)
  let plan ← (Converters.build graph [classId] options.target.routing).mapError .plan
  return ⟨plan, classId, inputs, interpreter⟩

/-- What a conversion leaves behind: it succeeds if every document is
converted and no source has a fault. -/
def conversionReport (workspace : Workspace) (journal : Journal) (error : Option SourceError) : Report :=
  let fatal := error.toList.map fun error => "error: " ++ (CommandError.source error).message
  { exitStatus := if journal.invalid.isEmpty && fatal.isEmpty then 0 else 1
    stdout := linesText journal.converted
    stderr := linesText (journal.invalid ++ fatal)
    workspace := workspace }

/-- Convert documents into a class and back. -/
def runConvert (interpreter : Interpreter) (workspace : Workspace) (stdin : String)
    (options : GraphOptions) (inputs : InputOptions) (className : String) :
    Except CommandError Report := do
  let conversion ← prepareConversion interpreter workspace options inputs className
  let paths ← (InputOptions.resolve workspace inputs.inputs).mapError .inputs
  let (journal, error) := conversion.onPaths workspace paths stdin Journal.empty
  return conversionReport workspace journal error

/-- What a command leaves behind. -/
def perform (interpreter : Interpreter) (command : Command) (workspace : Workspace)
    (stdin : String) : Report :=
  Report.ofResult workspace
    (match command with
      | names graph out => runNames workspace graph out
      | plan graph asJson out => runPlan workspace graph asJson out
      | convert graph inputs className =>
        runConvert interpreter workspace stdin graph inputs className)

end Command

end Hydration
