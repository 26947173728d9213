import Hydration.Command.Target

/-!
# Command lines

The commands of the program and how a list of arguments becomes one. The
first argument selects the command; the others are options, each with the
values that follow it or that are attached to it. Values are held back until
the next option settles them, so that of two faults in a command line the one
that is settled first is reported.
-/

namespace Hydration

/-- The graph document to work with, and the target. -/
structure GraphOptions where
  /-- The path of the graph document. -/
  path : String
  /-- The target. -/
  target : Target
  deriving DecidableEq

/-- The documents to convert. -/
structure InputOptions where
  /-- Whether every line of an input is a document. -/
  perLine : Bool
  /-- A pointer to the part of each document that is converted. -/
  pointer : Option String
  /-- A filter that makes documents of each document. -/
  filter : Option String
  /-- Paths and patterns, or a hyphen for the standard input. -/
  inputs : List String
  deriving DecidableEq

/-- What the program is asked to do. -/
inductive Command where
  /-- Write the identifiers of a graph. -/
  | names (graph : GraphOptions) (out : Option String)
  /-- Write the plan of a graph, as an outline or as JSON. -/
  | plan (graph : GraphOptions) (asJson : Bool) (out : Option String)
  /-- Convert documents into a class and back. -/
  | convert (graph : GraphOptions) (inputs : InputOptions) (className : String)
  deriving DecidableEq

/-- Why a command line is not a command. -/
inductive Refusal where
  /-- A value is missing or not among the possible ones. -/
  | invalidValue
  /-- A value is attached to an option that takes none. -/
  | tooManyValues
  /-- A required option is missing. -/
  | missingRequiredArgument
  /-- An argument that is not known. -/
  | unknownArgument
  /-- A command that is not known. -/
  | invalidSubcommand
  /-- An option that is given twice. -/
  | argumentConflict
  /-- The help text is asked for. -/
  | help
  /-- The version is asked for. -/
  | version
  /-- No command is given. -/
  | helpOnMissingCommand
  deriving DecidableEq

/-- The exit status of a refusal: only help and version are successes. -/
def Refusal.exitStatus : Refusal → Nat
  | help | version => 0
  | _ => 2

namespace Command

/-- The graph that a command works with. -/
def graphOptions : Command → GraphOptions
  | names graph _ | plan graph _ _ | convert graph _ _ => graph

/-- The file that a command writes. -/
def out? : Command → Option String
  | names _ out | plan _ _ out => out
  | convert _ _ _ => none

/-- The documents that a command converts. -/
def inputs? : Command → Option InputOptions
  | convert _ inputs _ => some inputs
  | names _ _ | plan _ _ _ => none

/-- The options of the commands. -/
inductive Opt where
  /-- The graph document. -/
  | graph
  /-- The target. -/
  | target
  /-- The output file. -/
  | out
  /-- The plan as JSON. -/
  | json
  /-- One document per line. -/
  | perLine
  /-- The pointer. -/
  | pointer
  /-- The filter. -/
  | filter
  /-- The inputs. -/
  | input
  /-- The class. -/
  | className
  /-- The help text. -/
  | help
  deriving DecidableEq

/-- How many values an option takes. -/
inductive Arity where
  /-- None: the option is a switch. -/
  | none
  /-- One. -/
  | one
  /-- One or more, and the option may be repeated. -/
  | many
  deriving DecidableEq

namespace Opt

/-- The name after two hyphens. -/
def long : Opt → String
  | graph => "graph"
  | target => "target"
  | out => "out"
  | json => "json"
  | perLine => "ndjson"
  | pointer => "json-pointer"
  | filter => "jq-expr"
  | input => "input"
  | className => "class"
  | help => "help"

/-- The letter after one hyphen. -/
def short? : Opt → Option Char
  | out => some 'o'
  | input => some 'i'
  | help => some 'h'
  | _ => none

/-- How many values an option takes. -/
def arity : Opt → Arity
  | json | perLine | help => .none
  | input => .many
  | _ => .one

/-- Whether an option admits a value: paths are not empty, and a target has a
name. -/
def admits (opt : Opt) (value : String) : Bool :=
  match opt with
  | graph | out => !value.isEmpty
  | target => (Target.ofName? value).isSome
  | _ => true

end Opt

/-- The commands by name. -/
inductive Name where
  /-- Write identifiers. -/
  | names
  /-- Write the plan. -/
  | plan
  /-- Convert documents. -/
  | convert
  deriving DecidableEq

/-- The command with a name. -/
def Name.ofText? : String → Option Name
  | "names" => some names
  | "plan" => some plan
  | "convert" => some convert
  | _ => none

/-- The options of a command. -/
def Name.options : Name → List Opt
  | names => [.graph, .target, .out, .help]
  | plan => [.graph, .target, .json, .out, .help]
  | convert => [.graph, .target, .perLine, .pointer, .filter, .input, .className, .help]

/-- The options that a command requires. -/
def Name.required : Name → List Opt
  | names | plan => [.graph]
  | convert => [.graph, .input, .className]

/-- What has been read of the options of a command. -/
structure Reading where
  /-- The settled options with their values, in order. -/
  given : List (Opt × List String)
  /-- An option whose values are held back. -/
  pending : Option (Opt × List String)
  /-- Whether the next argument may be a value of that option. -/
  collecting : Bool
  /-- Whether no further options follow. -/
  escaped : Bool

namespace Reading

/-- Nothing read. -/
def start : Reading := ⟨[], none, false, false⟩

/-- Whether an option is settled. -/
def has (reading : Reading) (opt : Opt) : Bool := reading.given.any fun entry => entry.1 == opt

/-- Settle an option with its values. -/
def settle (reading : Reading) (opt : Opt) (values : List String) : Except Refusal Reading :=
  if opt = .help then .error .help
  else if opt.arity ≠ .none ∧ values = [] then .error .invalidValue
  else if opt.arity ≠ .many ∧ reading.has opt then .error .argumentConflict
  else if values.all opt.admits then
    .ok { reading with given := reading.given ++ [(opt, values)] }
  else .error .invalidValue

/-- Settle the option whose values are held back. -/
def settlePending (reading : Reading) : Except Refusal Reading :=
  let rest := { reading with pending := none, collecting := false }
  match reading.pending with
  | none => .ok rest
  | some (opt, values) => rest.settle opt values

/-- Meet an option, with a value if one is attached. -/
def meet (reading : Reading) (opt : Opt) (attached : Option String) : Except Refusal Reading := do
  let settled ← reading.settlePending
  match opt.arity, attached with
  | .none, _ => settled.settle opt []
  | _, some value => settled.settle opt [value]
  | _, none => return { settled with pending := some (opt, []), collecting := true }

/-- Read an argument with two hyphens, without them. -/
def readLong (options : List Opt) (reading : Reading) (text : String) :
    Except Refusal Reading :=
  let name := String.ofList (text.toList.takeWhile (· != '='))
  let attached : Option String := match text.toList.dropWhile (· != '=') with
    | _ :: value => some (String.ofList value)
    | [] => none
  match options.find? fun opt => opt.long == name with
  | none => .error .unknownArgument
  | some opt =>
    if opt.arity = .none ∧ attached.isSome then .error .tooManyValues
    else reading.meet opt attached

/-- The value that is attached to a letter. -/
def attachedValue? : List Char → Option String
  | [] => none
  | '=' :: value => some (String.ofList value)
  | value => some (String.ofList value)

/-- Read an argument with one hyphen, without it: letters of switches, and at
last a letter with its value. -/
def readShort (options : List Opt) (reading : Reading) : List Char → Except Refusal Reading
  | [] => .ok reading
  | c :: rest =>
    match options.find? fun opt => opt.short? == some c with
    | none => .error .unknownArgument
    | some opt =>
      if opt.arity = .none then do readShort options (← reading.meet opt none) rest
      else reading.meet opt (attachedValue? rest)

/-- Read an argument that is not an option: a value of the pending option. -/
def readValue (reading : Reading) (text : String) : Except Refusal Reading :=
  match reading.collecting, reading.pending with
  | true, some (opt, values) =>
    .ok { reading with
      pending := some (opt, values ++ [text])
      collecting := opt.arity == .many }
  | _, _ => .error .unknownArgument

/-- Read one argument. -/
def read (options : List Opt) (reading : Reading) (argument : String) : Except Refusal Reading :=
  if reading.escaped then .error .unknownArgument
  else
    match argument.toList with
    | ['-', '-'] => .ok { reading with escaped := true }
    | '-' :: '-' :: text => readLong options reading (String.ofList text)
    | ['-'] => readValue reading argument
    | '-' :: text => readShort options reading text
    | _ => readValue reading argument

/-- The values of an option, from all its occurrences. -/
def values (reading : Reading) (opt : Opt) : List String :=
  (reading.given.filter fun entry => entry.1 == opt).flatMap Prod.snd

/-- The value of an option. -/
def value? (reading : Reading) (opt : Opt) : Option String := (reading.values opt).head?

/-- The graph and the target of a command. -/
def graphOptions? (reading : Reading) : Option GraphOptions := do
  let path ← reading.value? .graph
  return ⟨path, ((reading.value? .target).bind Target.ofName?).getD .rust⟩

/-- The command of a name with the options read. -/
def command? (reading : Reading) : Name → Option Command
  | .names => do return .names (← reading.graphOptions?) (reading.value? .out)
  | .plan => do
    return .plan (← reading.graphOptions?) (reading.has .json) (reading.value? .out)
  | .convert => do
    let inputs : InputOptions := {
      perLine := reading.has .perLine
      pointer := reading.value? .pointer
      filter := reading.value? .filter
      inputs := reading.values .input }
    return .convert (← reading.graphOptions?) inputs (← reading.value? .className)

end Reading

/-- The command of a name with its arguments. -/
def ofOptions (name : Name) (arguments : List String) : Except Refusal Command := do
  let reading ← arguments.foldlM (Reading.read name.options) Reading.start
  let reading ← reading.settlePending
  if name.required.all reading.has then
    match reading.command? name with
    | some command => return command
    | none => throw .missingRequiredArgument
  else throw .missingRequiredArgument

/-- The outcome of asking for help on commands by name: only a command, or
help itself, has a help text, and neither has commands of its own. -/
def helpOn : List String → Refusal
  | [] => .help
  | [name] =>
    if name = "help" ∨ (Name.ofText? name).isSome then .help else .invalidSubcommand
  | _ => .invalidSubcommand

/-- The outcome of arguments after two hyphens. -/
def escaped : List String → Refusal
  | [] => .helpOnMissingCommand
  | name :: _ =>
    if name = "help" ∨ (Name.ofText? name).isSome then .unknownArgument else .invalidSubcommand

/-- The outcome of an argument that is neither a command nor a text. -/
def refusalOf (argument : String) : Refusal :=
  match argument.toList with
  | ['-'] => .invalidSubcommand
  | '-' :: '-' :: text =>
    let name := String.ofList (text.takeWhile (· != '='))
    if name = "help" ∨ name = "version" then
      if '=' ∈ text then .tooManyValues else if name = "help" then .help else .version
    else .unknownArgument
  | '-' :: 'h' :: _ => .help
  | '-' :: 'V' :: _ => .version
  | '-' :: _ => .unknownArgument
  | _ => .invalidSubcommand

/-- The command of a command line. -/
def ofArguments : List String → Except Refusal Command
  | [] => .error .helpOnMissingCommand
  | first :: rest =>
    match Name.ofText? first with
    | some name => ofOptions name rest
    | none =>
      if first = "help" then .error (helpOn rest)
      else if first = "--" then .error (escaped rest)
      else .error (refusalOf first)

end Command

end Hydration
