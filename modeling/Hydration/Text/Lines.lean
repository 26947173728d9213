/-!
# Lines

A text cut after each line feed, and the lines of a text, which are the pieces
without the line feed and without a carriage return before it. Nothing is
lost by cutting (`flatten_pieces`).
-/

namespace Hydration.Text

/-- A text cut after each line feed. -/
def pieces : List Char → List (List Char)
  | [] => []
  | c :: rest =>
    if c = '\n' then [c] :: pieces rest
    else
      match pieces rest with
      | [] => [[c]]
      | piece :: more => (c :: piece) :: more

/-- The pieces of a text in order are the text. -/
theorem flatten_pieces (text : List Char) : (pieces text).flatten = text := by
  induction text with
  | nil => rfl
  | cons c rest ih =>
    unfold pieces
    split
    · simp [ih]
    · split
      · rename_i h
        rw [h] at ih
        simp at ih
        simp [← ih]
      · rename_i piece more h
        rw [h] at ih
        simp at ih
        simp [ih]

/-- A piece without its line end. -/
def stripLineEnd (piece : List Char) : List Char :=
  match piece.reverse with
  | '\n' :: '\r' :: before => before.reverse
  | '\n' :: before => before.reverse
  | _ => piece

/-- The lines of a text. -/
def lines (text : String) : List String :=
  (pieces text.toList).map fun piece => String.ofList (stripLineEnd piece)

end Hydration.Text
