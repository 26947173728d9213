import Hydration.Proofs.Calendar.RoundTrip
import Hydration.Typed.Dehydrate

/-!
# Canonical texts

The text of a value that was read under an interpretation is read back as the
same value. `TransformKind.parse_format` says so for every interpretation, and
`TransformKind.canonical` is the text that takes the place of the one read. Taking
it again changes nothing.
-/

namespace Hydration

namespace Transformed

open Calendar (Digits digits_padded digit?_of_isDigit)

/-- A number with a sign. -/
def signed (negative : Bool) (n : Nat) : Int := if negative then -(n : Int) else n

/-- A number with a sign fits into sixty-four bits. -/
def Fits (negative : Bool) (n : Nat) : Prop :=
  -0x8000000000000000 ≤ signed negative n ∧ signed negative n < 0x8000000000000000

theorem Fits.mono {negative : Bool} {m n : Nat} (h : Fits negative n) (hle : m ≤ n) :
    Fits negative m := by
  unfold Fits signed at *
  cases negative
  · simp only [Bool.false_eq_true, if_false] at *
    omega
  · simp only [if_true] at *
    omega

/-- Digits do not make a number less. -/
theorem le_ofDigitChars (cs : List Char) (n : Nat) : n ≤ Nat.ofDigitChars 10 cs n := by
  induction cs generalizing n with
  | nil => exact Nat.le_refl n
  | cons c cs ih =>
    have hrest := ih (10 * n + (c.toNat - '0'.toNat))
    rw [Nat.ofDigitChars_cons]
    omega

/-- Digits continue an integer as long as the result fits. -/
theorem integerDigits_append {negative : Bool} {n : Nat} {cs : List Char}
    (hd : ∀ c ∈ cs, c.isDigit = true) (hf : Fits negative (Nat.ofDigitChars 10 cs n)) :
    integerDigits negative (signed negative n) cs
      = .ok (signed negative (Nat.ofDigitChars 10 cs n)) := by
  induction cs generalizing n with
  | nil => rfl
  | cons c cs ih =>
    rw [Nat.ofDigitChars_cons] at hf ⊢
    have hc := digit?_of_isDigit (hd c List.mem_cons_self)
    have hnext : (if negative then signed negative n * 10 - ((c.toNat - 48 : Nat) : Int)
        else signed negative n * 10 + ((c.toNat - 48 : Nat) : Int))
          = signed negative (10 * n + (c.toNat - '0'.toNat)) := by
      have hzero : '0'.toNat = 48 := rfl
      rw [hzero]
      unfold signed
      cases negative
      · simp only [Bool.false_eq_true, if_false]
        omega
      · simp only [if_true]
        omega
    have hrange := hf.mono (le_ofDigitChars cs _)
    rw [integerDigits, hc]
    dsimp only
    rw [hnext, if_neg (Int.not_lt.mpr hrange.1), if_neg (Int.not_le.mpr hrange.2)]
    exact ih (fun d h => hd d (List.mem_cons_of_mem _ h)) hf

/-- The digits of a number are read as the number with the sign given. -/
theorem integerDigits_repr {negative : Bool} {n : Nat} (hf : Fits negative n) :
    integerDigits negative 0 n.repr.toList = .ok (signed negative n) := by
  have hd : ∀ c ∈ n.repr.toList, c.isDigit = true := by
    intro c hc
    rw [Nat.toList_repr] at hc
    exact Nat.isDigit_of_mem_toDigits (by omega) (by omega) hc
  have hvalue : Nat.ofDigitChars 10 n.repr.toList 0 = n := ofDigitChars_repr n
  have hzero : signed negative 0 = 0 := by cases negative <;> rfl
  have hread := integerDigits_append hd (hvalue.symm ▸ hf)
  rw [hvalue, hzero] at hread
  exact hread

/-- A text without a sign is read digit by digit. -/
theorem parseInteger_digits {text : String} {c : Char} {cs : List Char}
    (ht : text.toList = c :: cs) (hc : c.isDigit = true) :
    parseInteger text = (integerDigits false 0 text.toList).map Int64.ofInt := by
  unfold parseInteger
  split
  · rename_i heq
    cases ht.symm.trans heq
  · rename_i heq
    cases ht.symm.trans heq
    cases hc
  · rename_i heq
    cases ht.symm.trans heq
    cases hc
  · rename_i heq
    cases ht.symm.trans heq
    cases hc
  · rename_i heq
    cases ht.symm.trans heq
    cases hc
  · rfl

/-- A text with a minus is read digit by digit after it. -/
theorem parseInteger_minus {text : String} {cs : List Char} (ht : text.toList = '-' :: cs)
    (hne : cs ≠ []) : parseInteger text = (integerDigits true 0 cs).map Int64.ofInt := by
  unfold parseInteger
  split
  · rename_i heq
    cases ht.symm.trans heq
  · rename_i heq
    cases ht.symm.trans heq
  · rename_i heq
    cases ht.symm.trans heq
    exact absurd rfl hne
  · rename_i heq
    cases ht.symm.trans heq
  · rename_i heq
    cases ht.symm.trans heq
    rfl
  · rename_i hminus
    exact absurd ht (hminus cs)

/-- An integer is read back from its text. -/
theorem parseInteger_toString (i : Int64) : parseInteger (toString i.toInt) = .ok i := by
  have hlow := i.le_toInt
  have hhigh := i.toInt_lt
  have hdigits : ∀ n : Nat, n.repr.toList ≠ [] := by
    intro n
    rw [Nat.toList_repr]
    exact Nat.toDigits_ne_nil
  rw [Int.toString_eq_repr, Int.repr_eq_if]
  split
  · rename_i hsign
    have hvalue : signed false i.toInt.toNat = i.toInt := by
      unfold signed
      simp only [Bool.false_eq_true, if_false]
      omega
    have hfits : Fits false i.toInt.toNat := by
      unfold Fits
      rw [hvalue]
      omega
    cases hcs : i.toInt.toNat.repr.toList with
    | nil => exact absurd hcs (hdigits _)
    | cons c cs =>
      have hc : c.isDigit = true := by
        have hm : c ∈ i.toInt.toNat.repr.toList := hcs ▸ List.mem_cons_self
        rw [Nat.toList_repr] at hm
        exact Nat.isDigit_of_mem_toDigits (by omega) (by omega) hm
      rw [parseInteger_digits hcs hc, integerDigits_repr hfits, hvalue]
      exact congrArg Except.ok i.ofInt_toInt
  · rename_i hsign
    have hvalue : signed true (-i.toInt).toNat = i.toInt := by
      unfold signed
      simp only [if_true]
      omega
    have hfits : Fits true (-i.toInt).toNat := by
      unfold Fits
      rw [hvalue]
      omega
    have htext : ("-" ++ (-i.toInt).toNat.repr).toList = '-' :: (-i.toInt).toNat.repr.toList := by
      rw [String.toList_append]
      rfl
    rw [parseInteger_minus htext (hdigits _), integerDigits_repr hfits, hvalue]
    exact congrArg Except.ok i.ofInt_toInt

end Transformed

namespace TransformKind

/-- A value that was read has a text, from which it is read again. -/
theorem parse_format {kind : TransformKind} {text : String} {value : Transformed}
    (h : kind.parse text = .ok value) :
    ∃ canonical, kind.format value = some canonical ∧ kind.parse canonical = .ok value := by
  cases kind with
  | dateTime =>
    rw [parse, mapError_eq_ok, map_eq_ok] at h
    obtain ⟨stamp, hs, rfl⟩ := h
    obtain ⟨hlow, hhigh, hoffset⟩ := Calendar.DateTime.ranges_of_parse hs
    refine ⟨stamp.text, rfl, ?_⟩
    rw [parse, mapError_eq_ok, map_eq_ok]
    exact ⟨stamp, Calendar.DateTime.parse_text hlow hhigh hoffset, rfl⟩
  | date =>
    rw [parse, mapError_eq_ok, map_eq_ok] at h
    obtain ⟨date, -, rfl⟩ := h
    refine ⟨date.text, rfl, ?_⟩
    rw [parse, mapError_eq_ok, map_eq_ok]
    exact ⟨date, date.parse_text, rfl⟩
  | time =>
    rw [parse, mapError_eq_ok, map_eq_ok] at h
    obtain ⟨time, -, rfl⟩ := h
    refine ⟨time.text, rfl, ?_⟩
    rw [parse, mapError_eq_ok, map_eq_ok]
    exact ⟨time, time.parse_text, rfl⟩
  | uuid =>
    have hread := h
    unfold parse at h
    dsimp only at h
    split at h
    · cases h
      exact ⟨text, rfl, hread⟩
    · cases h
  | uri =>
    have hread := h
    unfold parse at h
    dsimp only at h
    split at h
    · cases h
      exact ⟨text, rfl, hread⟩
    · cases h
  | integerString =>
    rw [parse, mapError_eq_ok, map_eq_ok] at h
    obtain ⟨i, -, rfl⟩ := h
    refine ⟨toString i.toInt, rfl, ?_⟩
    rw [parse, mapError_eq_ok, map_eq_ok]
    exact ⟨i, Transformed.parseInteger_toString i, rfl⟩
  | boolString =>
    unfold parse at h
    dsimp only at h
    split at h
    · cases h
      exact ⟨"true", rfl, rfl⟩
    · split at h
      · cases h
        exact ⟨"false", rfl, rfl⟩
      · cases h

/-- The canonical text of a text, which stays as it is if it has none. -/
def canonical (kind : TransformKind) (text : String) : String :=
  match kind.parse text with
  | .ok value => (kind.format value).getD text
  | .error _ => text

/-- A value that was read is written as the canonical text and read from it. -/
theorem canonical_of_parse {kind : TransformKind} {text : String} {value : Transformed}
    (h : kind.parse text = .ok value) :
    kind.format value = some (kind.canonical text)
      ∧ kind.parse (kind.canonical text) = .ok value := by
  obtain ⟨canonical, hf, hp⟩ := parse_format h
  have hc : kind.canonical text = canonical := by
    rw [TransformKind.canonical, h]
    dsimp only
    rw [hf, Option.getD_some]
  rw [hc]
  exact ⟨hf, hp⟩

/-- A text without a value stays as it is. -/
theorem canonical_of_error {kind : TransformKind} {text : String} {fault : TransformFault}
    (h : kind.parse text = .error fault) : kind.canonical text = text := by
  rw [TransformKind.canonical, h]

/-- A canonical text is its own canonical text. -/
theorem canonical_canonical (kind : TransformKind) (text : String) :
    kind.canonical (kind.canonical text) = kind.canonical text := by
  cases hp : kind.parse text with
  | error fault => rw [canonical_of_error hp, canonical_of_error hp]
  | ok value =>
    obtain ⟨hf, hread⟩ := canonical_of_parse hp
    obtain ⟨hf', -⟩ := canonical_of_parse hread
    exact (Option.some.inj (hf.symm.trans hf')).symm

open Converters (readTransformed)

/-- What is read under an interpretation, at any place, is written as the canonical text of
what was read. That text is read as the same value at every place, and it is its own
canonical text. -/
theorem canonical_stable (kind : TransformKind) {text : String} {path : Path}
    {value : Transformed} (h : readTransformed kind text path = .ok (.transformed value)) :
    kind.format value = some (kind.canonical text)
      ∧ (∀ place, readTransformed kind (kind.canonical text) place = .ok (.transformed value))
      ∧ kind.canonical (kind.canonical text) = kind.canonical text := by
  have hp : kind.parse text = .ok value := by
    unfold readTransformed at h
    split at h
    · cases h
      assumption
    · cases h
  obtain ⟨hf, hread⟩ := canonical_of_parse hp
  refine ⟨hf, fun place => ?_, canonical_canonical kind text⟩
  rw [readTransformed, hread]

/-- A leap second at the end of a year, with a part of the next one. -/
def leapSecond : Calendar.DateTime where
  date := ⟨2016, 12, 31, by decide⟩
  time := ⟨23, 59, 60, 120000000, by decide⟩
  offset := 0

/-- A leap second is read back although its fraction is cut and its offset has a sign. So is a
year before the first one, with a month and a day of one digit, and the least integer. -/
theorem canonical_stable_leapSecond :
    (readTransformed .dateTime "2016-12-31t23:59:60.12000000099-00:00" Path.top
        = .ok (.transformed (.dateTime leapSecond))
      ∧ dateTime.format (.dateTime leapSecond) = some "2016-12-31T23:59:60.120Z"
      ∧ ∀ place, readTransformed .dateTime "2016-12-31T23:59:60.120Z" place
        = .ok (.transformed (.dateTime leapSecond)))
    ∧ (readTransformed .date "-5-1- 2" Path.top
        = .ok (.transformed (.date ⟨-5, 1, 2, by decide⟩))
      ∧ date.format (.date ⟨-5, 1, 2, by decide⟩) = some "-0005-01-02"
      ∧ ∀ place, readTransformed .date "-0005-01-02" place
        = .ok (.transformed (.date ⟨-5, 1, 2, by decide⟩)))
    ∧ (readTransformed .integerString "-0009223372036854775808" Path.top
        = .ok (.transformed (.integerString Int64.minValue))
      ∧ integerString.format (.integerString Int64.minValue) = some "-9223372036854775808"
      ∧ ∀ place, readTransformed .integerString "-9223372036854775808" place
        = .ok (.transformed (.integerString Int64.minValue))) := by
  have hstamp : readTransformed .dateTime "2016-12-31t23:59:60.12000000099-00:00" Path.top
      = .ok (.transformed (.dateTime leapSecond)) := rfl
  have hdate : readTransformed .date "-5-1- 2" Path.top
      = .ok (.transformed (.date ⟨-5, 1, 2, by decide⟩)) := rfl
  have hinteger : readTransformed .integerString "-0009223372036854775808" Path.top
      = .ok (.transformed (.integerString Int64.minValue)) := by decide +kernel
  have hleast : integerString.canonical "-0009223372036854775808" = "-9223372036854775808" := by
    decide +kernel
  obtain ⟨hstampText, hstampRead, -⟩ := canonical_stable .dateTime hstamp
  obtain ⟨hdateText, hdateRead, -⟩ := canonical_stable .date hdate
  obtain ⟨hintegerText, hintegerRead, -⟩ := canonical_stable .integerString hinteger
  rw [hleast] at hintegerText hintegerRead
  exact ⟨⟨hstamp, hstampText, hstampRead⟩, ⟨hdate, hdateText, hdateRead⟩,
    hinteger, hintegerText, hintegerRead⟩

end TransformKind

end Hydration
