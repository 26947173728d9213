import Hydration.Files.Pattern
import Hydration.Files.Workspace

/-!
# Searching a workspace

The paths that a pattern stands for, in the order of their names. A pattern is
applied component by component: a component without special characters is
followed without looking at the directory, any other one selects among the
entries, and a component of two stars selects everything below. A point and
two points are entries only for a component that starts with a point.
-/

namespace Hydration.FileSearch

/-- A found entry: the path as it is shown, and its place. -/
structure Entry where
  /-- The path as it is shown. -/
  path : String
  /-- The names from the root. -/
  place : List String
  deriving DecidableEq

/-- Where a search for a pattern starts: at the root, or in the working
directory. -/
def start (workspace : Workspace) (pattern : String) : Entry :=
  if Workspace.isAbsolute pattern then ⟨"/", []⟩ else ⟨".", workspace.here⟩

/-- A path with one more component. -/
def extend (path name : String) : String :=
  if path.toList.getLast? == some '/' then path ++ name else path ++ "/" ++ name

/-- A path with one more component; the working directory is not shown. -/
def join (path name : String) : String := if path = "." then name else extend path name

/-- The entry that a component leads to. -/
def follow? (workspace : Workspace) (entry : Entry) (name : String) : Option Entry :=
  match workspace.walk entry.place [name] with
  | .ok place => some ⟨join entry.path name, place⟩
  | .error _ => none

/-- The names of the entries of a directory in order. -/
def names (workspace : Workspace) (entry : Entry) : List String :=
  match workspace.tree.get? entry.place with
  | some (.directory entries) => (entries.map Prod.fst).mergeSort fun a b => decide (a ≤ b)
  | _ => []

/-- The entries of a directory in order. -/
def children (workspace : Workspace) (entry : Entry) : List Entry :=
  (names workspace entry).map fun name => ⟨join entry.path name, entry.place ++ [name]⟩

/-- Whether a place is another one or comes before it, name by name. -/
def notAfter : List String → List String → Bool
  | [], _ => true
  | _ :: _, [] => false
  | a :: as, b :: bs => decide (a < b) || (a == b && notAfter as bs)

/-- Everything below a directory, each entry before what is below it. -/
def below (workspace : Workspace) (entry : Entry) : List Entry :=
  match workspace.tree.get? entry.place with
  | some (.directory entries) =>
    let places := FileTree.placesOfEntries [] entries
    let ordered := places.mergeSort notAfter
    ordered.map fun place => ⟨place.foldl join entry.path, entry.place ++ place⟩
  | _ => []

/-- The special entries of a directory that a component selects. -/
def specials (workspace : Workspace) (entry : Entry) (pieces : List Pattern.Piece) : List Entry :=
  if workspace.tree.isDirectoryAt entry.place && pieces.head? == some (.literal '.') then
    let selected := ["..", "."].filter fun name => Pattern.stands pieces name.toList
    selected.filterMap fun name =>
      match workspace.walk entry.place [name] with
      | .ok place => some ⟨extend entry.path name, place⟩
      | .error _ => none
  else []

/-- The last name of a place. -/
def lastName (entry : Entry) : List Char := (entry.place.getLast?.getD "").toList

/-- The entries that components select from an entry on. -/
def select (workspace : Workspace) : List (List Pattern.Piece) → Entry → List Entry
  | [], entry => [entry]
  | pieces :: rest, entry =>
    match Pattern.name? pieces with
    | some name => (follow? workspace entry name).toList.flatMap (select workspace rest)
    | none =>
      if Pattern.isDeep pieces then
        match rest with
        | [] =>
          (below workspace entry).filter fun found => workspace.tree.isDirectoryAt found.place
        | next :: more =>
          ((below workspace entry).filter fun found => Pattern.stands next (lastName found)).flatMap
            (select workspace more)
      else
        let selected := (children workspace entry).filter fun found =>
          Pattern.stands pieces (lastName found)
        (specials workspace entry pieces ++ selected).flatMap (select workspace rest)

/-- The components of a pattern; a slash at either end adds none. -/
def patternComponents (pattern : String) : List String :=
  let parts := Workspace.components pattern
  let parts := if Workspace.isAbsolute pattern then parts.drop 1 else parts
  if parts.getLast? = some "" then parts.dropLast else parts

/-- Components in which depths that follow one another are one. -/
def mergeDepths : List (List Pattern.Piece) → List (List Pattern.Piece)
  | [] => []
  | pieces :: rest =>
    match mergeDepths rest with
    | [] => [pieces]
    | next :: more =>
      if Pattern.isDeep pieces && Pattern.isDeep next then next :: more
      else pieces :: next :: more

/-- The paths that a pattern stands for. -/
def paths (workspace : Workspace) (pattern : String) : Except PatternError (List String) := do
  let _ ← Pattern.ofText pattern
  let components ← (patternComponents pattern).mapM Pattern.ofText
  let found := select workspace (mergeDepths components) (start workspace pattern)
  let onlyDirectories := pattern.toList.getLast? == some '/'
  let kept :=
    if onlyDirectories then found.filter fun entry => workspace.tree.isDirectoryAt entry.place
    else found
  return kept.map Entry.path

end Hydration.FileSearch
