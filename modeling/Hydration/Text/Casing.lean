import Hydration.Text.Alphabetic
import Hydration.Text.LetterCase

/-!
# Words and casing

A text is split into words: at every character that is not alphanumeric,
between a lower-case letter and a following upper-case letter, and before the
last capital of a run of capitals that a lower-case letter follows. Characters
without case keep the case of what stands before them. The words are then put
together in snake, upper camel or lower camel case.
-/

namespace Hydration.Text.Casing

/-- The case of the latest cased character of a word. -/
inductive Run where
  /-- No cased character yet. -/
  | start
  /-- A lower-case character. -/
  | lower
  /-- An upper-case character. -/
  | upper
  deriving DecidableEq

/-- The run after a character that continues a word. -/
def Run.after (run : Run) (c : Char) : Run :=
  if isLowercase c then lower else if isUppercase c then upper else run

/-- The words of a piece without separators; `word` holds the characters of
the current word, newest first. -/
def cutPiece (run : Run) (word : List Char) : List Char → List (List Char)
  | [] => []
  | [c] => [(c :: word).reverse]
  | c :: next :: rest =>
    let after := run.after c
    if after = .lower && isUppercase next then
      (c :: word).reverse :: cutPiece .start [] (next :: rest)
    else if run = .upper && isUppercase c && isLowercase next then
      word.reverse :: cutPiece .start [c] (next :: rest)
    else cutPiece after (c :: word) (next :: rest)

/-- The pieces of a text between characters that are not alphanumeric. -/
def splitPieces : List Char → List (List Char)
  | [] => [[]]
  | c :: rest =>
    match splitPieces rest with
    | piece :: more => if isAlphanumeric c then (c :: piece) :: more else [] :: piece :: more
    | [] => [[c]]

/-- The words of a text. -/
def words (text : String) : List (List Char) :=
  (splitPieces text.toList).flatMap (cutPiece .start [])

/-- A word in lower case, where a final capital sigma takes its final form. -/
def lowerWord : List Char → List Char
  | [] => []
  | [c] => if c = 'Σ' then ['ς'] else toLowercase c
  | c :: rest => toLowercase c ++ lowerWord rest

/-- A word with its first character in upper and the others in lower case. -/
def capitalize : List Char → List Char
  | [] => []
  | c :: rest => toUppercase c ++ lowerWord rest

/-- The words in lower case, joined by underscores. -/
def snake (text : String) : String :=
  String.ofList (((words text).map lowerWord).intersperse ['_']).flatten

/-- The capitalized words. -/
def upperCamel (text : String) : String :=
  String.ofList ((words text).map capitalize).flatten

/-- The first word in lower case and the others capitalized. -/
def lowerCamel (text : String) : String :=
  match words text with
  | [] => ""
  | first :: rest => String.ofList (lowerWord first ++ (rest.map capitalize).flatten)

end Hydration.Text.Casing
