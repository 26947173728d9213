import Hydration.OrderedMap

/-!
# File trees

A tree of directories and text files. A place in it is a list of names from
the root. `get?_put` says that what is put at a place is found there.
-/

namespace Hydration

/-- A file with its text, or a directory with its entries. -/
inductive FileTree where
  /-- A file. -/
  | file (text : String)
  /-- A directory. -/
  | directory (entries : List (String × FileTree))

namespace FileTree

instance : Inhabited FileTree := ⟨directory []⟩

/-- The tree without files. -/
def empty : FileTree := directory []

/-- What stands at a place, which is a list of names from the root. -/
def get? : FileTree → List String → Option FileTree
  | tree, [] => some tree
  | directory entries, name :: rest => (Entries.get? name entries).bind fun tree => tree.get? rest
  | file _, _ :: _ => none

/-- Put a tree at a place; directories on the way are made, and a file on the
way is replaced. -/
def put (node : FileTree) : List String → FileTree → FileTree
  | [], _ => node
  | name :: rest, directory entries =>
    directory (Entries.insert name
      (put node rest ((Entries.get? name entries).getD empty)) entries)
  | name :: rest, file _ => directory [(name, put node rest empty)]

/-- A tree that is put at a place is found there. -/
theorem get?_put (node : FileTree) (place : List String) (tree : FileTree) :
    (put node place tree).get? place = some node := by
  induction place generalizing tree with
  | nil => simp [put, get?]
  | cons name rest ih =>
    cases tree with
    | file _ => simp [put, get?, Entries.get?, ih]
    | directory entries => simp [put, get?, Entries.get?_insert, ih]

/-- Whether a directory stands at a place. -/
def isDirectoryAt (tree : FileTree) (place : List String) : Bool :=
  match tree.get? place with
  | some (directory _) => true
  | _ => false

mutual

/-- The files below a place with their places. -/
def filesAt (place : List String) : FileTree → List (List String × String)
  | file text => [(place, text)]
  | directory entries => filesOfEntries place entries

/-- The files of directory entries with their places. -/
def filesOfEntries (place : List String) : List (String × FileTree) → List (List String × String)
  | [] => []
  | (name, tree) :: rest => filesAt (place ++ [name]) tree ++ filesOfEntries place rest

end

/-- All files with their places. -/
def files (tree : FileTree) : List (List String × String) := filesAt [] tree

mutual

/-- Everything at and below a place: the places. -/
def placesAt (place : List String) : FileTree → List (List String)
  | file _ => [place]
  | directory entries => place :: placesOfEntries place entries

/-- The places of directory entries and of everything below them. -/
def placesOfEntries (place : List String) : List (String × FileTree) → List (List String)
  | [] => []
  | (name, tree) :: rest => placesAt (place ++ [name]) tree ++ placesOfEntries place rest

end

end FileTree

end Hydration
