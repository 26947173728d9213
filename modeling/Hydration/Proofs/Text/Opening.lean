import Hydration.Proofs.Text.CaseMapping
import Hydration.Text.Casing

/-!
# What a cased text opens with

The first word of a text begins with the first alphanumeric character, and a
change of case keeps what it opens with: a text without alphanumeric characters
becomes empty, and any other one begins as its first alphanumeric character does.
-/

namespace Hydration.Text

/-- Whether the first alphanumeric character of a text is a numeral beyond ASCII. -/
def opensForeign (text : String) : Bool :=
  (text.toList.find? isAlphanumeric).any isForeignNumeral

namespace Casing

/-- The first word that is cut begins with the characters held back. -/
theorem exists_cutPiece (run : Run) (word : List Char) {piece : List Char} (h : piece ≠ []) :
    ∃ tail more, cutPiece run word piece = (word.reverse ++ tail) :: more := by
  fun_induction cutPiece run word piece with
  | case1 => exact absurd rfl h
  | case2 run word c => exact ⟨[c], [], by rw [List.reverse_cons]⟩
  | case3 run word c next rest after hcut ih =>
    exact ⟨[c], _, by rw [List.reverse_cons]⟩
  | case4 run word c next rest after hcut hcapital ih =>
    exact ⟨[], _, by rw [List.append_nil]⟩
  | case5 run word c next rest after hcut hcapital ih =>
    obtain ⟨tail, more, heq⟩ := ih (List.cons_ne_nil _ _)
    exact ⟨c :: tail, more, by rw [heq, List.reverse_cons, List.append_assoc]; rfl⟩

/-- The first word of a piece begins with the first character. -/
theorem exists_cutPiece_start (c : Char) (rest : List Char) :
    ∃ tail more, cutPiece .start [] (c :: rest) = (c :: tail) :: more := by
  cases rest with
  | nil => exact ⟨[], [], rfl⟩
  | cons next rest =>
    unfold cutPiece
    dsimp only
    split
    · exact ⟨[], _, rfl⟩
    · rw [if_neg (by simp)]
      exact exists_cutPiece _ [c] (List.cons_ne_nil next rest)

/-- A text has at least one piece. -/
theorem exists_splitPieces (chars : List Char) :
    ∃ piece more, splitPieces chars = piece :: more := by
  cases chars with
  | nil => exact ⟨[], [], rfl⟩
  | cons c rest =>
    unfold splitPieces
    split
    · split
      · exact ⟨_, _, rfl⟩
      · exact ⟨_, _, rfl⟩
    · exact ⟨_, _, rfl⟩

/-- The words of a text: there are none, or the first begins with the first alphanumeric
character. -/
theorem words_eq_or (text : String) :
    (text.toList.find? isAlphanumeric = none ∧ words text = [])
      ∨ ∃ c tail more, text.toList.find? isAlphanumeric = some c
        ∧ words text = (c :: tail) :: more := by
  unfold words
  induction text.toList with
  | nil => exact Or.inl ⟨rfl, rfl⟩
  | cons c rest ih =>
    obtain ⟨piece, more, hpieces⟩ := exists_splitPieces rest
    rw [hpieces] at ih
    rw [splitPieces, hpieces]
    dsimp only
    by_cases hc : isAlphanumeric c = true
    · obtain ⟨tail, others, hcut⟩ := exists_cutPiece_start c piece
      rw [if_pos hc, List.find?_cons_of_pos hc, List.flatMap_cons, hcut]
      exact Or.inr ⟨c, tail, _, rfl, rfl⟩
    · rw [if_neg hc, List.find?_cons_of_neg hc, List.flatMap_cons]
      exact ih

/-- A word in lower case begins like its first character. -/
theorem beginsLike_lowerWord {c : Char} (h : isAlphanumeric c = true) (tail : List Char) :
    BeginsLike c (lowerWord (c :: tail)) := by
  cases tail with
  | nil =>
    rw [lowerWord]
    split
    · rename_i hsigma
      subst hsigma
      exact ⟨'ς', [], rfl, by decide +kernel, by decide +kernel⟩
    · exact beginsLike_toLowercase h
  | cons next rest => exact (beginsLike_toLowercase h).append _

/-- So does a capitalized word. -/
theorem beginsLike_capitalize {c : Char} (h : isAlphanumeric c = true) (tail : List Char) :
    BeginsLike c (capitalize (c :: tail)) := (beginsLike_toUppercase h).append _

/-- A change of case that keeps what a text opens with. -/
def KeepsOpening (casing : String → String) : Prop :=
  ∀ text, (text.toList.find? isAlphanumeric = none ∧ casing text = "")
    ∨ ∃ c, text.toList.find? isAlphanumeric = some c ∧ BeginsLike c (casing text).toList

/-- A casing that joins the words of a text keeps what it opens with if the joined words
begin as the first word does. -/
theorem keepsOpening_of_join {casing : String → String} (join : List (List Char) → List Char)
    (hcasing : ∀ text, casing text = String.ofList (join (words text))) (hnil : join [] = [])
    (hcons : ∀ (c : Char) (tail : List Char) (more : List (List Char)), isAlphanumeric c = true →
      BeginsLike c (join ((c :: tail) :: more))) : KeepsOpening casing := by
  intro text
  rw [hcasing]
  rcases words_eq_or text with ⟨hnone, hwords⟩ | ⟨c, tail, more, hfind, hwords⟩
  · rw [hwords, hnil]
    exact Or.inl ⟨hnone, rfl⟩
  · rw [hwords, String.toList_ofList]
    exact Or.inr ⟨c, hfind, hcons c tail more (List.find?_some hfind)⟩

/-- Words joined by underscores open as the text does. -/
theorem snake_keepsOpening : KeepsOpening snake := by
  refine keepsOpening_of_join (fun words => ((words.map lowerWord).intersperse ['_']).flatten)
    (fun _ => rfl) rfl fun c tail more hc => ?_
  have hword := beginsLike_lowerWord hc tail
  cases more with
  | nil =>
    rw [List.map_singleton, List.intersperse_singleton, List.flatten_cons]
    exact hword.append _
  | cons next more =>
    rw [List.map_cons, List.map_cons, List.intersperse_cons_cons, List.flatten_cons]
    exact hword.append _

/-- Capitalized words open as the text does. -/
theorem upperCamel_keepsOpening : KeepsOpening upperCamel := by
  refine keepsOpening_of_join (fun words => (words.map capitalize).flatten)
    (fun _ => rfl) rfl fun c tail more hc => ?_
  rw [List.map_cons, List.flatten_cons]
  exact (beginsLike_capitalize hc tail).append _

/-- The words with all but the first capitalized. -/
def camelWords : List (List Char) → List Char
  | [] => []
  | first :: rest => lowerWord first ++ (rest.map capitalize).flatten

/-- The first word is in lower case, and the others are capitalized. -/
theorem lowerCamel_eq (text : String) : lowerCamel text = String.ofList (camelWords (words text)) := by
  unfold lowerCamel
  split
  · rename_i hwords
    rw [hwords]
    rfl
  · rename_i hwords
    rw [hwords]
    rfl

/-- Words that are capitalized but for the first one open as the text does. -/
theorem lowerCamel_keepsOpening : KeepsOpening lowerCamel :=
  keepsOpening_of_join camelWords lowerCamel_eq rfl fun _ tail _ hc => (beginsLike_lowerWord hc tail).append _

end Casing

end Hydration.Text
