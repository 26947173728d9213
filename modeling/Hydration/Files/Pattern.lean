/-!
# File name patterns

A pattern stands for names: a question mark for any character, a star for any
text, two stars as a whole component for any depth, and a bracket for a class
of characters or, after an exclamation mark, for all others. A pattern that
is malformed is refused with the position of the fault.
-/

namespace Hydration

/-- What can be wrong with a pattern. -/
inductive PatternFault where
  /-- More than two stars in a row. -/
  | wildcards
  /-- Two stars that are not a whole component. -/
  | partialDepth
  /-- A bracket that is not closed. -/
  | range
  deriving DecidableEq

/-- The text of a pattern fault. -/
def PatternFault.text : PatternFault → String
  | wildcards => "wildcards are either regular `*` or recursive `**`"
  | partialDepth => "recursive wildcards must form a single path component"
  | range => "invalid range pattern"

/-- A fault with its position in the pattern. -/
structure PatternError where
  /-- The number of characters before the fault. -/
  position : Nat
  /-- The fault. -/
  fault : PatternFault
  deriving DecidableEq

/-- The text of a pattern error. -/
def PatternError.message (error : PatternError) : String :=
  "Pattern syntax error near position " ++ toString error.position ++ ": " ++ error.fault.text

namespace Pattern

/-- The characters from one to another. -/
structure Span where
  /-- The first character. -/
  first : Char
  /-- The last character. -/
  last : Char
  deriving DecidableEq

/-- Whether a span has a character. -/
def Span.contains (span : Span) (c : Char) : Bool := decide (span.first ≤ c ∧ c ≤ span.last)

/-- A piece of a pattern. -/
inductive Piece where
  /-- This character. -/
  | literal (c : Char)
  /-- Any character. -/
  | one
  /-- Any text. -/
  | many
  /-- Any depth. -/
  | depth
  /-- A character of a class. -/
  | within (spans : List Span)
  /-- A character outside a class. -/
  | outside (spans : List Span)
  deriving DecidableEq

/-- The spans that a bracket lists. -/
def spans : List Char → List Span
  | a :: '-' :: b :: rest => ⟨a, b⟩ :: spans rest
  | a :: rest => ⟨a, a⟩ :: spans rest
  | [] => []

/-- The content of a bracket that holds at least one character, and the text
after it. -/
def bracket? : List Char → Option (List Char × List Char)
  | first :: rest =>
    if ']' ∈ rest then
      some (first :: rest.takeWhile (· != ']'), (rest.dropWhile (· != ']')).drop 1)
    else none
  | [] => none

/-- The text after a bracket is shorter than the text from its content on. -/
theorem length_lt_of_bracket? {text content after : List Char}
    (h : bracket? text = some (content, after)) : after.length < text.length := by
  unfold bracket? at h
  split at h
  · rename_i first rest
    split at h
    · cases h
      have := (List.dropWhile_sublist (fun x => x != ']') (l := rest)).length_le
      simp only [List.length_drop, List.length_cons]
      omega
    · cases h
  · cases h

/-- The pieces of a pattern from a position on; `atStart` says that a
component starts here. -/
def read (position : Nat) (atStart : Bool) (text : List Char) :
    Except PatternError (List Piece) :=
  match text with
  | [] => .ok []
  | '?' :: rest => do return .one :: (← read (position + 1) false rest)
  | '*' :: '*' :: '*' :: _ => .error ⟨position + 2, .wildcards⟩
  | '*' :: '*' :: rest =>
    if atStart then
      match rest with
      | [] => .ok [.depth]
      | '/' :: rest => do return .depth :: (← read (position + 3) true rest)
      | _ => .error ⟨position + 2, .partialDepth⟩
    else .error ⟨position - 1, .partialDepth⟩
  | '*' :: rest => do return .many :: (← read (position + 1) false rest)
  | '[' :: '!' :: rest =>
    match h : bracket? rest with
    | some (content, after) => do
      have shorter := length_lt_of_bracket? h
      let next := position + 3 + content.length
      return .outside (spans content) :: (← read next false after)
    | none => .error ⟨position, .range⟩
  | '[' :: rest =>
    match h : bracket? rest with
    | some (content, after) => do
      have shorter := length_lt_of_bracket? h
      let next := position + 2 + content.length
      return .within (spans content) :: (← read next false after)
    | none => .error ⟨position, .range⟩
  | c :: rest => do return .literal c :: (← read (position + 1) (c == '/') rest)
termination_by text.length
decreasing_by
  all_goals
    simp only [List.length_cons]
    omega

/-- The pieces of a pattern. -/
def ofText (text : String) : Except PatternError (List Piece) := read 0 true text.toList

/-- Whether a piece stands for a character. -/
def Piece.admits (piece : Piece) (c : Char) : Bool :=
  match piece with
  | literal d => c == d
  | one => true
  | many | depth => false
  | within spans => spans.any (·.contains c)
  | outside spans => !spans.any (·.contains c)

/-- Whether pieces stand for a name. -/
def stands (pieces : List Piece) (name : List Char) : Bool :=
  match pieces, name with
  | [], [] => true
  | [], _ :: _ => false
  | .many :: more, [] => stands more []
  | .many :: more, c :: rest => stands more (c :: rest) || stands (.many :: more) rest
  | .depth :: more, [] => stands more []
  | .depth :: more, c :: rest => stands more (c :: rest) || stands (.depth :: more) rest
  | _ :: _, [] => false
  | piece :: more, c :: rest => piece.admits c && stands more rest
termination_by pieces.length + name.length

/-- Whether a pattern has no character with a meaning: the name that it is. -/
def name? (pieces : List Piece) : Option String :=
  (pieces.mapM fun
    | Piece.literal c => some c
    | _ => none).map String.ofList

/-- Whether a pattern stands for any depth. -/
def isDeep (pieces : List Piece) : Bool := pieces.contains .depth

/-- Whether a text is meant as a pattern and not as a path. -/
def isPattern (text : String) : Bool :=
  text.toList.any fun c => c == '*' || c == '?' || c == '[' || c == '\x7b'

end Pattern

end Hydration
