import Hydration.Text.Lines

/-!
# The lines of a text

A text with a line feed after it has one line more than line feeds. Texts without
control characters stay on a line: written with a line feed after each, they are the
lines that are read.
-/

namespace Hydration.Text

/-- Whether a text has no control characters, of which the line ends are two. -/
def isInline (text : String) : Bool := text.toList.all fun c => decide (32 ≤ c.toNat)

variable {a b : String}

/-- A text stays on a line exactly if none of its characters is a control character. -/
theorem isInline_iff {text : String} :
    isInline text = true ↔ ∀ c ∈ text.toList, 32 ≤ c.toNat := by
  simp only [isInline, List.all_eq_true, decide_eq_true_eq]

/-- Two texts that stay on a line do so together. -/
theorem isInline_append (ha : isInline a = true) (hb : isInline b = true) :
    isInline (a ++ b) = true := by
  rw [isInline, String.toList_append, List.all_append, Bool.and_eq_true]
  exact ⟨ha, hb⟩

/-- Texts that stay on a line do so together. -/
theorem isInline_join {texts : List String} (h : ∀ text ∈ texts, isInline text = true) :
    isInline (String.join texts) = true := by
  induction texts with
  | nil => rw [String.join_nil]; rfl
  | cons text rest ih =>
    rw [String.join_cons]
    exact isInline_append (h text List.mem_cons_self)
      (ih fun other hm => h other (List.mem_cons_of_mem _ hm))

/-- Characters from the space on stay on a line. -/
theorem isInline_ofList {chars : List Char} (h : ∀ c ∈ chars, 32 ≤ c.toNat) :
    isInline (String.ofList chars) = true := by
  rw [isInline_iff, String.toList_ofList]
  exact h

theorem isInline_replicate (n : Nat) {c : Char} (h : 32 ≤ c.toNat) :
    isInline (String.ofList (List.replicate n c)) = true :=
  isInline_ofList fun _ hd => List.eq_of_mem_replicate hd ▸ h

/-! ## Lines -/

/-- A text with a line feed after it has a piece. -/
theorem exists_pieces_eq_cons (line : List Char) :
    ∃ piece more, pieces (line ++ ['\n']) = piece :: more := by
  refine List.exists_cons_of_ne_nil fun h => ?_
  have hflat := flatten_pieces (line ++ ['\n'])
  rw [h] at hflat
  exact List.append_ne_nil_of_right_ne_nil _ (List.cons_ne_nil _ _) hflat.symm

/-- A text is cut after the line feed that ends a line of it. -/
theorem pieces_append_lineFeed (line rest : List Char) :
    pieces (line ++ '\n' :: rest) = pieces (line ++ ['\n']) ++ pieces rest := by
  induction line with
  | nil => rfl
  | cons c line ih =>
    obtain ⟨piece, more, hpieces⟩ := exists_pieces_eq_cons line
    rw [List.cons_append, List.cons_append, pieces, pieces, ih, hpieces]
    split <;> rfl

/-- A text with a line feed after it is cut once more than it has line feeds. -/
theorem length_pieces (line : List Char) :
    (pieces (line ++ ['\n'])).length = line.count '\n' + 1 := by
  induction line with
  | nil => rfl
  | cons c line ih =>
    obtain ⟨piece, more, hpieces⟩ := exists_pieces_eq_cons line
    rw [List.cons_append, pieces]
    split
    · rename_i hc
      rw [List.length_cons, ih, hc, List.count_cons_self]
    · rename_i hc
      rw [List.count_cons_of_ne hc, ← ih, hpieces]
      rfl

/-- A text without line feeds is one line. -/
theorem pieces_of_notMem {line : List Char} (h : '\n' ∉ line) :
    pieces (line ++ ['\n']) = [line ++ ['\n']] := by
  have hlength := length_pieces line
  rw [List.count_eq_zero.mpr h, List.length_eq_one_iff] at hlength
  obtain ⟨piece, hpiece⟩ := hlength
  have hflat := flatten_pieces (line ++ ['\n'])
  rw [hpiece, List.flatten_singleton] at hflat
  rw [hpiece, hflat]

/-- A line without carriage returns ends at its line feed. -/
theorem stripLineEnd_append_lineFeed {line : List Char} (h : '\r' ∉ line) :
    stripLineEnd (line ++ ['\n']) = line := by
  unfold stripLineEnd
  rw [List.reverse_append, List.reverse_singleton, List.singleton_append]
  split
  · rename_i before hbefore
    have hmem : '\r' ∈ line.reverse := by
      rw [(List.cons.inj hbefore).2]
      exact List.mem_cons_self
    exact absurd (List.mem_reverse.mp hmem) h
  · rename_i before _ hbefore
    rw [← (List.cons.inj hbefore).2, List.reverse_reverse]
  · rename_i hno
    exact absurd rfl (hno line.reverse)

/-- A text with a line feed after it has one line more than line feeds. -/
theorem length_lines (text : String) :
    (lines (text ++ "\n")).length = text.toList.count '\n' + 1 := by
  rw [lines, List.length_map, String.toList_append]
  exact length_pieces text.toList

/-- A text without control characters is one line. -/
theorem lines_of_isInline {text : String} (h : isInline text = true) :
    lines (text ++ "\n") = [text] := by
  have hinline := isInline_iff.mp h
  have hfeed : '\n' ∉ text.toList := fun hm => absurd (hinline _ hm) (by decide)
  have hreturn : '\r' ∉ text.toList := fun hm => absurd (hinline _ hm) (by decide)
  have hpieces : pieces (text ++ "\n").toList = [text.toList ++ ['\n']] := by
    rw [String.toList_append]
    exact pieces_of_notMem hfeed
  rw [lines, hpieces, List.map_singleton, stripLineEnd_append_lineFeed hreturn,
    String.ofList_toList]

end Hydration.Text
