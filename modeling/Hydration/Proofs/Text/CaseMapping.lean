import Hydration.Text.Alphabetic
import Hydration.Text.LetterCase
import Mathlib.Data.List.Chain

/-!
# Numerals and letters under a change of case

A change of case keeps apart what may begin a word: the first character that a
case mapping gives for an alphanumeric character is alphanumeric again, and it
is a numeral beyond ASCII exactly if the mapped character is one. The tables
are compared by the ends of their ranges.
-/

namespace Hydration.Text

/-- Whether a character is a numeral, but none of the ASCII digits. -/
def isForeignNumeral (c : Char) : Bool := isNumeric c && !c.isDigit

/-- Characters that begin as another one does: with an alphanumeric character that is a
foreign numeral exactly if the other one is. -/
def BeginsLike (c : Char) (chars : List Char) : Prop :=
  ∃ first rest, chars = first :: rest ∧ isAlphanumeric first = true
    ∧ isForeignNumeral first = isForeignNumeral c

/-- What comes after the beginning does not matter. -/
theorem BeginsLike.append {c : Char} {chars : List Char} (h : BeginsLike c chars)
    (more : List Char) : BeginsLike c (chars ++ more) := by
  obtain ⟨first, rest, rfl, hfirst⟩ := h
  exact ⟨first, rest ++ more, rfl, hfirst⟩

/-! ## Ranges -/

/-- Whether the first range that reaches a code has all codes down to another one. The
comparisons are those that evaluate fast on literals. -/
def covered (ranges : List CharRange) (low high : Nat) : Bool :=
  match ranges.find? fun range => Nat.ble high range.last with
  | some range => Nat.ble range.first low && Nat.beq range.step 1
  | none => false

/-- Whether a code belongs to one of the ranges, found by the fast comparisons. -/
def holds (ranges : List CharRange) (code : Nat) : Bool :=
  ranges.any fun range => Nat.ble range.first code && Nat.ble code range.last
    && Nat.beq ((code - range.first) % range.step) 0

/-- Whether the first range that does not end before a code starts after another one. -/
def avoided (ranges : List CharRange) (low high : Nat) : Bool :=
  match ranges.find? fun range => Nat.ble low range.last with
  | some range => Nat.ble (high + 1) range.first
  | none => true

/-- Whether a range starts no later than another one. -/
def CharRange.Before (range later : CharRange) : Prop := range.first ≤ later.first

instance : Trans CharRange.Before CharRange.Before CharRange.Before := ⟨Nat.le_trans⟩

instance : DecidableRel CharRange.Before := fun range later =>
  inferInstanceAs (Decidable (range.first ≤ later.first))

section Ranges

variable {ranges : List CharRange} {low high code : Nat}

/-- A code among covered ones belongs to the ranges. -/
theorem inRanges_of_covered (h : covered ranges low high = true) (hlow : low ≤ code)
    (hhigh : code ≤ high) : inRanges ranges code = true := by
  unfold covered at h
  split at h
  · rename_i range hfind
    have hlast := List.find?_some hfind
    simp only [Bool.and_eq_true, Nat.ble_eq, Nat.beq_eq] at h hlast
    refine List.any_eq_true.mpr ⟨range, List.mem_of_find?_eq_some hfind, ?_⟩
    simp only [CharRange.contains, h.2, Nat.mod_one, beq_self_eq_true, Bool.and_true,
      Bool.and_eq_true, decide_eq_true_eq]
    omega
  · cases h

/-- A code that is found by fast comparisons belongs to the ranges. -/
theorem inRanges_of_holds (h : holds ranges code = true) : inRanges ranges code = true := by
  obtain ⟨range, hm, hrange⟩ := List.any_eq_true.mp h
  simp only [Bool.and_eq_true, Nat.ble_eq, Nat.beq_eq] at hrange
  refine List.any_eq_true.mpr ⟨range, hm, ?_⟩
  simpa [CharRange.contains] using hrange

/-- A code among avoided ones does not: earlier ranges end before it, and later ones start
after the one that was found. -/
theorem inRanges_of_avoided (ha : ranges.IsChain CharRange.Before) (h : avoided ranges low high = true)
    (hlow : low ≤ code) (hhigh : code ≤ high) : inRanges ranges code = false := by
  have hout : ∀ range ∈ ranges, range.last < low ∨ high < range.first := by
    intro range hm
    unfold avoided at h
    split at h
    · rename_i found hfind
      obtain ⟨-, before, after, rfl, hbefore⟩ := List.find?_eq_some_iff_append.mp hfind
      rw [Nat.ble_eq] at h
      rcases List.mem_append.mp hm with hm | hm
      · have hends := hbefore range hm
        simp only [Bool.not_eq_true', ← Bool.not_eq_true, Nat.ble_eq] at hends
        omega
      · rcases List.mem_cons.mp hm with rfl | hm
        · exact Or.inr h
        · have hafter := (List.pairwise_append.mp ha.pairwise).2.1
          have hlater : found.first ≤ range.first := (List.pairwise_cons.mp hafter).1 range hm
          omega
    · rename_i hfind
      have hends := List.find?_eq_none.mp hfind range hm
      rw [Nat.ble_eq] at hends
      omega
  refine List.any_eq_false.mpr fun range hm => ?_
  have hrange := hout range hm
  simp only [CharRange.contains, Bool.and_eq_true, decide_eq_true_eq]
  omega

/-- A code before all ranges belongs to none. -/
theorem inRanges_of_lt (h : ∀ range ∈ ranges, low ≤ range.first) (hcode : code < low) :
    inRanges ranges code = false := by
  refine List.any_eq_false.mpr fun range hm => ?_
  have hfirst := h range hm
  simp only [CharRange.contains, Bool.and_eq_true, decide_eq_true_eq]
  omega

end Ranges

/-! ## Characters beyond ASCII -/

/-- The decimal digits are ASCII characters. -/
theorem toNat_lt_of_isDigit {c : Char} (h : c.isDigit = true) : c.toNat < 128 := by
  have hnine : c.toNat ≤ 57 := (Char.isDigit_iff_toNat.mp h).2
  omega

/-- The ranges of numerals ascend. -/
theorem numericRanges_ascending : numericRanges.IsChain CharRange.Before := by decide +kernel

/-- The foreign numerals are those of the table. -/
theorem isForeignNumeral_eq (c : Char) : isForeignNumeral c = inRanges numericRanges c.toNat := by
  have hascii : ∀ range ∈ numericRanges, 128 ≤ range.first := by decide +kernel
  by_cases h : c.toNat < 128
  · rw [inRanges_of_lt hascii h, isForeignNumeral, isNumeric,
      if_pos h, Bool.and_not_self]
  · have hdigit : c.isDigit = false := Bool.eq_false_iff.mpr fun hd => h (toNat_lt_of_isDigit hd)
    rw [isForeignNumeral, isNumeric, if_neg h, hdigit, Bool.not_false, Bool.and_true]

/-- The characters of the alphabetic table are alphabetic. -/
theorem isAlphabetic_of_inRanges {c : Char} (h : inRanges alphabeticRanges c.toNat = true) :
    isAlphabetic c = true := by
  have hascii : ∀ range ∈ alphabeticRanges, 128 ≤ range.first := by decide +kernel
  by_cases hc : c.toNat < 128
  · rw [inRanges_of_lt hascii hc] at h
    cases h
  · rw [isAlphabetic, if_neg hc, h]

/-- Whether a code is the one of an alphabetic character, found by the fast comparisons. -/
def isLetterCode (code : Nat) : Bool :=
  if Nat.ble 128 code then holds alphabeticRanges code else (Char.ofNat code).isAlpha

/-- Characters in the fast table of letters are alphabetic. -/
theorem isAlphabetic_of_isLetterCode {c : Char} (h : isLetterCode c.toNat = true) :
    isAlphabetic c = true := by
  unfold isLetterCode at h
  split at h
  · exact isAlphabetic_of_inRanges (inRanges_of_holds h)
  · rename_i hc
    rw [Nat.ble_eq] at hc
    rw [isAlphabetic, if_pos (by omega), ← Char.ofNat_toNat c]
    exact h

/-- Alphabetic characters are alphanumeric. -/
theorem isAlphanumeric_of_isAlphabetic {c : Char} (h : isAlphabetic c = true) :
    isAlphanumeric c = true := by
  rw [isAlphanumeric, h, Bool.true_or]

/-! ## Shifts -/

namespace CaseShift

/-- The code that the first code of the range is shifted to. -/
def low (shift : CaseShift) : Nat := (shift.range.first + shift.shift).toNat

/-- The code that the last code of the range is shifted to. -/
def high (shift : CaseShift) : Nat := (shift.range.last + shift.shift).toNat

/-- Whether all codes of the range are shifted to codes of characters. -/
def reachesChars (shift : CaseShift) : Bool :=
  decide (shift.high < 0xD800) || (decide (0xDFFF < shift.low) && decide (shift.high < 0x110000))

/-- Whether all codes of the range are shifted to alphabetic characters. What no range of
the table covers is looked at code by code. -/
def reachesLetters (shift : CaseShift) : Bool :=
  covered alphabeticRanges shift.low shift.high
    || (List.range (shift.range.last + 1 - shift.range.first)).all fun place =>
        place % shift.range.step != 0
          || isLetterCode (shift.range.first + place + shift.shift).toNat

/-- Whether the range and what it is shifted to are both apart from the numerals, or both
within them. -/
def keepsNumerals (shift : CaseShift) : Bool :=
  (avoided numericRanges shift.range.first shift.range.last
      && avoided numericRanges shift.low shift.high)
    || (covered numericRanges shift.range.first shift.range.last
      && covered numericRanges shift.low shift.high)

/-- Whether a shift leads from letters to letters and from numerals to numerals. -/
def keepsSorts (shift : CaseShift) : Bool :=
  shift.reachesChars && shift.reachesLetters && shift.keepsNumerals

variable {shift : CaseShift} {c : Char}

/-- A shifted code lies between the shifted ends. -/
theorem between_of_contains {code : Nat} (h : shift.range.contains code = true) :
    shift.low ≤ (code + shift.shift).toNat ∧ (code + shift.shift).toNat ≤ shift.high := by
  simp only [CharRange.contains, Bool.and_eq_true, decide_eq_true_eq] at h
  rw [low, high]
  omega

/-- The character of a shifted code has this code. -/
theorem toNat_shifted (hr : shift.reachesChars = true) (h : shift.range.contains c.toNat = true) :
    (Char.ofNat (c.toNat + shift.shift).toNat).toNat = (c.toNat + shift.shift).toNat := by
  have hbetween := between_of_contains h
  simp only [reachesChars, Bool.or_eq_true, Bool.and_eq_true, decide_eq_true_eq] at hr
  have hvalid : (c.toNat + shift.shift).toNat.isValidChar := by
    unfold Nat.isValidChar
    omega
  rw [Char.ofNat, dif_pos hvalid]
  rfl

/-- A shifted character is alphabetic. -/
theorem isAlphabetic_shifted (hr : shift.reachesChars = true) (hl : shift.reachesLetters = true)
    (h : shift.range.contains c.toNat = true) :
    isAlphabetic (Char.ofNat (c.toNat + shift.shift).toNat) = true := by
  have hbetween := between_of_contains h
  have hcode := toNat_shifted hr h
  rcases Bool.or_eq_true_iff.mp hl with hcovered | hall
  · refine isAlphabetic_of_inRanges ?_
    rw [hcode]
    exact inRanges_of_covered hcovered hbetween.1 hbetween.2
  · simp only [CharRange.contains, Bool.and_eq_true, decide_eq_true_eq, beq_iff_eq] at h
    obtain ⟨⟨hfirst, hlast⟩, hstep⟩ := h
    have hplace := List.all_eq_true.mp hall (c.toNat - shift.range.first)
      (List.mem_range.mpr (by omega))
    have hsum : (shift.range.first : Int) + ((c.toNat - shift.range.first : Nat) : Int)
        = c.toNat := by omega
    rw [hstep, hsum, ← hcode] at hplace
    exact isAlphabetic_of_isLetterCode hplace

/-- A shifted character is a foreign numeral exactly if the character is one. -/
theorem isForeignNumeral_shifted (hr : shift.reachesChars = true)
    (hk : shift.keepsNumerals = true) (h : shift.range.contains c.toNat = true) :
    isForeignNumeral (Char.ofNat (c.toNat + shift.shift).toNat) = isForeignNumeral c := by
  have hbetween := between_of_contains h
  have hends : shift.range.first ≤ c.toNat ∧ c.toNat ≤ shift.range.last := by
    simp only [CharRange.contains, Bool.and_eq_true, decide_eq_true_eq] at h
    exact h.1
  rw [isForeignNumeral_eq, isForeignNumeral_eq, toNat_shifted hr h]
  rcases Bool.or_eq_true_iff.mp hk with havoided | hcovered
  · obtain ⟨hfrom, hto⟩ := Bool.and_eq_true_iff.mp havoided
    rw [inRanges_of_avoided numericRanges_ascending hfrom hends.1 hends.2, inRanges_of_avoided numericRanges_ascending hto hbetween.1 hbetween.2]
  · obtain ⟨hfrom, hto⟩ := Bool.and_eq_true_iff.mp hcovered
    rw [inRanges_of_covered hfrom hends.1 hends.2, inRanges_of_covered hto hbetween.1 hbetween.2]

/-- A shifted character begins like the character. -/
theorem beginsLike_shifted (hs : shift.keepsSorts = true)
    (h : shift.range.contains c.toNat = true) :
    BeginsLike c [Char.ofNat (c.toNat + shift.shift).toNat] := by
  simp only [keepsSorts, Bool.and_eq_true] at hs
  obtain ⟨⟨hr, hl⟩, hk⟩ := hs
  exact ⟨_, [], rfl, isAlphanumeric_of_isAlphabetic (isAlphabetic_shifted hr hl h),
    isForeignNumeral_shifted hr hk h⟩

end CaseShift

/-! ## Case mappings -/

/-- Whether an expansion leads from something else than a numeral to a letter. -/
def keepsSorts (expansion : Nat × List Nat) : Bool :=
  match expansion.2 with
  | [] => false
  | first :: _ =>
    avoided numericRanges expansion.1 expansion.1
      && isLetterCode (Char.ofNat first).toNat
      && avoided numericRanges (Char.ofNat first).toNat (Char.ofNat first).toNat

/-- What an expansion leads to begins like the character. -/
theorem beginsLike_expanded {expansion : Nat × List Nat} (hs : keepsSorts expansion = true)
    {c : Char} (h : expansion.1 = c.toNat) : BeginsLike c (expansion.2.map Char.ofNat) := by
  unfold keepsSorts at hs
  split at hs
  · cases hs
  · rename_i first rest heq
    simp only [Bool.and_eq_true] at hs
    obtain ⟨⟨hfrom, hletter⟩, hto⟩ := hs
    rw [heq]
    refine ⟨_, _, rfl, isAlphanumeric_of_isAlphabetic (isAlphabetic_of_isLetterCode hletter), ?_⟩
    rw [isForeignNumeral_eq, isForeignNumeral_eq,
      inRanges_of_avoided numericRanges_ascending hfrom (Nat.le_of_eq h) (Nat.le_of_eq h.symm),
      inRanges_of_avoided numericRanges_ascending hto (Nat.le_refl _) (Nat.le_refl _)]

/-- What a table leads to begins like the character. -/
theorem beginsLike_mapCase {expansions : List (Nat × List Nat)} {shifts : List CaseShift}
    (he : expansions.all keepsSorts = true) (hs : shifts.all CaseShift.keepsSorts = true)
    {c : Char} (h : isAlphanumeric c = true) : BeginsLike c (mapCase expansions shifts c) := by
  unfold mapCase
  split
  · rename_i entry hfind
    have hcode := List.find?_some hfind
    exact beginsLike_expanded (List.all_eq_true.mp he entry (List.mem_of_find?_eq_some hfind))
      (beq_iff_eq.mp hcode)
  · split
    · rename_i shift hfind
      have hcode := List.find?_some hfind
      exact CaseShift.beginsLike_shifted
        (List.all_eq_true.mp hs shift (List.mem_of_find?_eq_some hfind)) hcode
    · exact ⟨c, [], rfl, h, rfl⟩

/-- Where upper case has several characters, the first one is a letter, and neither it nor the
character in lower case is a numeral. -/
theorem upperExpansions_keepSorts : upperExpansions.all keepsSorts = true := by decide +kernel

theorem upperShifts_keepSorts : upperShifts.all CaseShift.keepsSorts = true := by decide +kernel

theorem lowerExpansions_keepSorts : lowerExpansions.all keepsSorts = true := by decide +kernel

theorem lowerShifts_keepSorts : lowerShifts.all CaseShift.keepsSorts = true := by decide +kernel

/-- In ASCII a change of case leads from letters to letters and leaves digits alone. -/
theorem beginsLike_ascii {c : Char} (hc : c.toNat < 128) (h : isAlphanumeric c = true) :
    BeginsLike c [c.toUpper] ∧ BeginsLike c [c.toLower] := by
  have hall : ∀ code : Fin 128, isAlphanumeric (Char.ofNat code) = true →
      (isAlphanumeric (Char.ofNat code).toUpper = true
        ∧ isForeignNumeral (Char.ofNat code).toUpper = isForeignNumeral (Char.ofNat code))
      ∧ isAlphanumeric (Char.ofNat code).toLower = true
        ∧ isForeignNumeral (Char.ofNat code).toLower = isForeignNumeral (Char.ofNat code) := by
    decide +kernel
  have hchar := hall ⟨c.toNat, hc⟩
  rw [Char.ofNat_toNat] at hchar
  obtain ⟨hupper, hlower⟩ := hchar h
  exact ⟨⟨_, [], rfl, hupper⟩, ⟨_, [], rfl, hlower⟩⟩

/-- The upper-case form of an alphanumeric character begins like it. -/
theorem beginsLike_toUppercase {c : Char} (h : isAlphanumeric c = true) :
    BeginsLike c (toUppercase c) := by
  unfold toUppercase
  split
  · rename_i hc
    exact (beginsLike_ascii hc h).1
  · exact beginsLike_mapCase upperExpansions_keepSorts upperShifts_keepSorts h

/-- So does the lower-case form. -/
theorem beginsLike_toLowercase {c : Char} (h : isAlphanumeric c = true) :
    BeginsLike c (toLowercase c) := by
  unfold toLowercase
  split
  · rename_i hc
    exact (beginsLike_ascii hc h).2
  · exact beginsLike_mapCase lowerExpansions_keepSorts lowerShifts_keepSorts h

end Hydration.Text
