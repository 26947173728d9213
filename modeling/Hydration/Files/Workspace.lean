import Hydration.Files.Tree

/-!
# Workspaces

A file tree with a working directory in it, and what happens to a path. A path
is a text with slashes that starts at the root or in the working directory. An
empty component and a single point stay where they are, two points go to the
parent, and the root is its own parent. Every component but the last has to be
a directory.
-/

namespace Hydration

/-- Why a path cannot be used. -/
inductive FileFault where
  /-- Nothing has this path. -/
  | notFound
  /-- A directory is needed where something is already. -/
  | alreadyExists
  /-- A component other than the last is a file. -/
  | notADirectory
  /-- A file is needed and a directory is there. -/
  | isADirectory
  deriving DecidableEq

/-- The text of a fault. -/
def FileFault.message : FileFault → String
  | notFound => "No such file or directory (os error 2)"
  | alreadyExists => "File exists (os error 17)"
  | notADirectory => "Not a directory (os error 20)"
  | isADirectory => "Is a directory (os error 21)"

/-- A file tree and the directory in which paths start. -/
structure Workspace where
  /-- The tree from its root. -/
  tree : FileTree
  /-- The place of the working directory. -/
  here : List String

namespace Workspace

/-- The components of a path. -/
def components (path : String) : List String := (path.toList.splitOn '/').map String.ofList

/-- Whether a path starts at the root. -/
def isAbsolute (path : String) : Bool := path.toList.head? == some '/'

/-- The place in which a path starts. -/
def origin (workspace : Workspace) (path : String) : List String :=
  if isAbsolute path then [] else workspace.here

/-- The place that components lead to from a place. -/
def walk (workspace : Workspace) (place : List String) :
    List String → Except FileFault (List String)
  | [] => if (workspace.tree.get? place).isSome then .ok place else .error .notFound
  | name :: rest =>
    match workspace.tree.get? place with
    | none => .error .notFound
    | some (.file _) => .error .notADirectory
    | some (.directory _) =>
      if name = "" ∨ name = "." then walk workspace place rest
      else if name = ".." then walk workspace place.dropLast rest
      else walk workspace (place ++ [name]) rest

/-- The place of a path. -/
def locate (workspace : Workspace) (path : String) : Except FileFault (List String) :=
  if path.isEmpty then .error .notFound
  else workspace.walk (workspace.origin path) (components path)

/-- Whether a path leads to a directory. -/
def isDirectory (workspace : Workspace) (path : String) : Bool :=
  match workspace.locate path with
  | .ok place => workspace.tree.isDirectoryAt place
  | .error _ => false

/-- The text of a file. -/
def read (workspace : Workspace) (path : String) : Except FileFault String := do
  match workspace.tree.get? (← workspace.locate path) with
  | some (.file text) => return text
  | some (.directory _) => throw .isADirectory
  | none => throw .notFound

/-- The components that name something: a single point does so only at the
start of a path. -/
def properComponents (path : String) : List String :=
  match components path with
  | [] => []
  | first :: rest =>
    (if first = "" then [] else [first]) ++ rest.filter fun name => name != "" && name != "."

/-- The components of the directory in which a path lies. -/
def parentComponents (path : String) : List String := (properComponents path).dropLast

/-- The place of the directories that components name from a place on, if they
are directories or can be made. -/
def makeDirectories (workspace : Workspace) (place : List String) :
    List String → Except FileFault (List String)
  | [] => .ok place
  | name :: rest =>
    if name = "" ∨ name = "." then makeDirectories workspace place rest
    else if name = ".." then makeDirectories workspace place.dropLast rest
    else
      match workspace.tree.get? (place ++ [name]) with
      | some (.file _) => .error (if rest.isEmpty then .alreadyExists else .notADirectory)
      | some (.directory _) | none => makeDirectories workspace (place ++ [name]) rest

/-- The place of the directory in which a path lies, made if need be. -/
def prepare (workspace : Workspace) (path : String) : Except FileFault (List String) :=
  makeDirectories workspace (workspace.origin path) (parentComponents path)

/-- Write a file, with the directory in which it lies. -/
def write (workspace : Workspace) (path text : String) : Except FileFault Workspace := do
  let parent ← workspace.prepare path
  if workspace.isDirectory path then throw .isADirectory
  match (components path).getLast? with
  | none | some "" | some "." | some ".." => throw .isADirectory
  | some name =>
    return { workspace with tree := FileTree.put (.file text) (parent ++ [name]) workspace.tree }

/-- A workspace with files given by their paths in the working directory. -/
def ofFiles (here : List String) (files : List (String × String)) : Workspace where
  tree := files.foldl
    (fun tree (path, text) => FileTree.put (.file text) (here ++ properComponents path) tree)
    (FileTree.put FileTree.empty here FileTree.empty)
  here := here

/-- The files below the working directory, with their places from there. -/
def files (workspace : Workspace) : List (List String × String) :=
  match workspace.tree.get? workspace.here with
  | some tree => tree.files
  | none => []

end Workspace

end Hydration
