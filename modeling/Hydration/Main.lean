import Hydration.Command.Run

/-!
# The program

Reading what a command needs from the machine, and putting what the command
leaves behind back. Nothing is decided here: the files that the paths and
patterns of a command line can mean are copied into a workspace, in which the
command runs.
-/

namespace Hydration.Program

/-- The text of a path from the root of the machine to a place. -/
def absolute (place : List String) : String := "/" ++ "/".intercalate place

/-- What stands at a path, without the entries of a directory. -/
def lookAt (path : String) : IO (Option FileTree) := do
  let entry := (← IO.currentDir) / path
  if ← entry.isDir then return some .empty
  else if ← entry.pathExists then return some (.file (← IO.FS.readFile entry))
  else return none

/-- Copy what stands along components from a place on. -/
def copyAlong (place : List String) : List String → FileTree → IO FileTree
  | [], tree => return tree
  | name :: rest, tree => do
    if name = "" ∨ name = "." then copyAlong place rest tree
    else if name = ".." then copyAlong place.dropLast rest tree
    else
      let next := place ++ [name]
      match ← lookAt (absolute next) with
      | none => return tree
      | some (.file text) => return .put (.file text) next tree
      | some (.directory _) =>
        let known := tree.isDirectoryAt next
        copyAlong next rest (if known then tree else .put .empty next tree)

/-- Copy what stands along a path. -/
def copyPath (workspace : Workspace) (path : String) : IO Workspace := do
  let components := Workspace.components path
  return { workspace with
    tree := ← copyAlong (workspace.origin path) components workspace.tree }

/-- Copy the names of everything below a place down to a depth. -/
def copyNames : Nat → List String → FileTree → IO FileTree
  | 0, _, tree => return tree
  | depth + 1, place, tree => do
    let directory := (← IO.currentDir) / absolute place
    if !(← directory.isDir) then return tree
    let mut copied := if tree.isDirectoryAt place then tree else .put .empty place tree
    for entry in ← directory.readDir do
      let next := place ++ [entry.fileName]
      if ← entry.path.isDir then copied ← copyNames depth next copied
      else if (copied.get? next).isNone then copied := .put (.file "") next copied
    return copied

/-- How deep a component of two stars is followed. -/
def depthLimit : Nat := 64

/-- Copy the names that a pattern can mean. -/
def copyPattern (workspace : Workspace) (pattern : String) : IO Workspace := do
  let components := Workspace.components pattern
  let fixed := components.takeWhile fun name => !Pattern.isPattern name
  let workspace ← copyPath workspace ("/".intercalate fixed)
  let depth := if components.contains "**" then depthLimit else components.length
  match workspace.walk (workspace.origin pattern) fixed with
  | .ok place => return { workspace with tree := ← copyNames depth place workspace.tree }
  | .error _ => return workspace

/-- The part of the machine that a command can look at. -/
def observe (command : Command) : IO Workspace := do
  let here := ((← IO.currentDir).toString.splitOn "/").filter (· ≠ "")
  let mut workspace : Workspace := ⟨FileTree.put .empty here .empty, here⟩
  workspace ← copyPath workspace command.graphOptions.path
  for path in command.out? do
    workspace ← copyPath workspace path
  for options in command.inputs? do
    for pattern in options.patterns do
      workspace ← copyPattern workspace pattern
    match InputOptions.resolve workspace options.inputs with
    | .ok paths =>
      for path in paths do
        workspace ← copyPath workspace path
    | .error _ => pure ()
  return workspace

/-- The text of a stream from here to its end. -/
partial def readAll (stream : IO.FS.Stream) (text : String) : IO String := do
  let line ← stream.getLine
  if line.isEmpty then return text else readAll stream (text ++ line)

/-- Write the file that a command has written in its workspace. -/
def putBack (path : String) (workspace : Workspace) : IO Unit := do
  match workspace.locate path, workspace.read path with
  | .ok place, .ok text =>
    IO.FS.createDirAll (absolute place.dropLast)
    IO.FS.writeFile (absolute place) text
  | _, _ => pure ()

/-- The text that a refused command line is answered with. -/
def usage : String :=
  "usage: names   --graph FILE [--target rust|typescript] [-o FILE]\n" ++
  "       plan    --graph FILE [--target rust|typescript] [--json] [-o FILE]\n" ++
  "       convert --graph FILE [--target rust|typescript] --class NAME -i INPUT...\n" ++
  "               [--ndjson] [--json-pointer POINTER] [--jq-expr FILTER]\n"

end Hydration.Program

open Hydration in
/-- Run the command of a command line on the machine's files. -/
def main (arguments : List String) : IO UInt32 := do
  match Command.ofArguments arguments with
  | .error refusal =>
    if refusal.exitStatus = 0 then IO.print Program.usage else IO.eprint Program.usage
    return refusal.exitStatus.toUInt32
  | .ok command =>
    let workspace ← Program.observe command
    let waits := command.inputs?.any InputOptions.usesStandardInput
    let stdin ← if waits then Program.readAll (← IO.getStdin) "" else pure ""
    let report := command.run workspace stdin
    IO.print report.stdout
    IO.eprint report.stderr
    if report.exitStatus = 0 then
      for path in command.out? do
        Program.putBack path report.workspace
    return report.exitStatus.toUInt32
