import Hydration.Calendar.Format
import Hydration.Calendar.Parse
import Hydration.Proofs.Structure
import Mathlib.Algebra.Group.Nat.Defs

/-!
# Decimal digits

A number with a least count of digits is read back, both where the reader takes
digits as long as there are any and where it takes a fixed count of them.
`Digits n cs` says that characters are the digits of a number, perhaps after
zeros.
-/

namespace Hydration.Calendar

/-- The characters are decimal digits with the given value. -/
structure Digits (n : Nat) (cs : List Char) : Prop where
  /-- Every character is a digit. -/
  digit : ∀ c ∈ cs, c.isDigit = true
  /-- The value of the digits. -/
  value : Nat.ofDigitChars 10 cs 0 = n

/-- The text does not start with a digit. -/
def StopsDigits (text : List Char) : Prop := ∀ c rest, text = c :: rest → digit? c = none

/-- The value of a digit is its distance from zero. -/
theorem digit?_of_isDigit {c : Char} (h : c.isDigit = true) : digit? c = some (c.toNat - 48) := by
  have hrange : 48 ≤ c.toNat ∧ c.toNat ≤ 57 := Char.isDigit_iff_toNat.mp h
  rw [digit?, if_pos hrange]

/-- Digits are not white space. -/
theorem isBlank_of_isDigit {c : Char} (h : c.isDigit = true) : Text.isBlank c = false := by
  have hrange : 48 ≤ c.toNat ∧ c.toNat ≤ 57 := Char.isDigit_iff_toNat.mp h
  have hspace : c ≠ ' ' := by
    rintro rfl
    exact absurd hrange.1 (by decide)
  have hlow : c.toNat < 128 := by omega
  have hcontrol : ¬c.toNat ≤ 13 := by omega
  simp [Text.isBlank, hlow, hspace, hcontrol]

/-- A number in padded form has its own digits. -/
theorem digits_padded (width n : Nat) : Digits n (padded width n).toList := by
  rw [padded, String.toList_ofList]
  constructor
  · intro c hc
    rcases List.mem_append.mp hc with hz | hd
    · rw [(List.mem_replicate.mp hz).2]
      rfl
    · exact Nat.isDigit_of_mem_toDigits (by omega) (by omega) hd
  · rw [Nat.ofDigitChars_append, Nat.ofDigitChars_replicate_zero, Nat.mul_zero,
      Nat.ofDigitChars_ten_toDigits]

/-- The padded form is not shorter than asked. -/
theorem le_length_padded (width n : Nat) : width ≤ (padded width n).toList.length := by
  rw [padded, String.toList_ofList, List.length_append, List.length_replicate]
  omega

/-- A number that fits has the padded form of the width asked for. -/
theorem length_padded {width n : Nat} (hw : 0 < width) (h : n < 10 ^ width) :
    (padded width n).toList.length = width := by
  have hle := (Nat.length_toDigits_le_iff (by omega : 1 < 10) hw).mpr h
  rw [padded, String.toList_ofList, List.length_append, List.length_replicate]
  omega

/-- A number in padded form has at least one digit. -/
theorem padded_ne_nil (width n : Nat) : (padded width n).toList ≠ [] := by
  rw [padded, String.toList_ofList]
  exact List.append_ne_nil_of_right_ne_nil _ Nat.toDigits_ne_nil

/-- Digits are taken up to the limit or up to what follows them. -/
theorem takeDigits_append {limit : Nat} {cs rest : List Char}
    (hd : ∀ c ∈ cs, c.isDigit = true) (hl : cs.length ≤ limit)
    (hs : cs.length = limit ∨ StopsDigits rest) :
    takeDigits limit (cs ++ rest) = (cs.map fun c => c.toNat - 48, rest) := by
  induction cs generalizing limit with
  | nil =>
    rw [List.nil_append, List.map_nil]
    cases limit with
    | zero => rfl
    | succ limit =>
      cases rest with
      | nil => rfl
      | cons c rest =>
        have hstop : StopsDigits (c :: rest) := by
          rcases hs with hs | hs
          · cases hs
          · exact hs
        rw [takeDigits, hstop c rest rfl]
  | cons c cs ih =>
    cases limit with
    | zero => cases hl
    | succ limit =>
      have hc := digit?_of_isDigit (hd c List.mem_cons_self)
      have hlimit : cs.length ≤ limit := by
        rw [List.length_cons] at hl
        omega
      have hstop : cs.length = limit ∨ StopsDigits rest := by
        rw [List.length_cons] at hs
        exact hs.imp (fun h => by omega) id
      have hrest := ih (fun d h => hd d (List.mem_cons_of_mem _ h)) hlimit hstop
      rw [List.cons_append, takeDigits, hc]
      dsimp only
      rw [hrest, List.map_cons]

/-- The value of digits, digit by digit. -/
theorem ofDigits_map (cs : List Char) :
    ofDigits (cs.map fun c => c.toNat - 48) = Nat.ofDigitChars 10 cs 0 := by
  rw [ofDigits, Nat.ofDigitChars_eq_foldl, List.foldl_map]
  congr 1
  funext n c
  rw [Nat.mul_comm]
  rfl

/-- A number is read back from its digits. -/
theorem number_append {limit n : Nat} {cs rest : List Char} (hd : Digits n cs) (hne : cs ≠ [])
    (hl : cs.length ≤ limit) (hs : cs.length = limit ∨ StopsDigits rest) :
    number limit (cs ++ rest) = .ok (n, rest) := by
  have htake := takeDigits_append hd.digit hl hs
  have hvalue := ofDigits_map cs
  rw [hd.value] at hvalue
  cases cs with
  | nil => exact absurd rfl hne
  | cons c cs =>
    unfold number
    rw [htake]
    exact congrArg (fun v => Except.ok (v, rest)) hvalue

/-- A fixed count of digits continues a number. -/
theorem fixedDigits_append {value : Nat} {cs rest : List Char}
    (hd : ∀ c ∈ cs, c.isDigit = true) :
    fixedDigits cs.length value (cs ++ rest) = .ok (Nat.ofDigitChars 10 cs value, rest) := by
  induction cs generalizing value with
  | nil => rfl
  | cons c cs ih =>
    have hc := digit?_of_isDigit (hd c List.mem_cons_self)
    rw [List.length_cons, List.cons_append, fixedDigits, hc]
    dsimp only
    rw [ih fun d h => hd d (List.mem_cons_of_mem _ h), Nat.ofDigitChars_cons, Nat.mul_comm]
    rfl

/-- A number of fixed width is read back from its padded form. -/
theorem fixedDigits_padded {width n : Nat} (hw : 0 < width) (h : n < 10 ^ width)
    (rest : List Char) :
    fixedDigits width 0 ((padded width n).toList ++ rest) = .ok (n, rest) := by
  have hd := digits_padded width n
  have happend : fixedDigits (padded width n).toList.length 0 ((padded width n).toList ++ rest)
      = .ok (Nat.ofDigitChars 10 (padded width n).toList 0, rest) := fixedDigits_append hd.digit
  rw [length_padded hw h, hd.value] at happend
  exact happend

/-- A fixed count of digits has a bounded value. -/
theorem fixedDigits_lt {count value n : Nat} {text rest : List Char}
    (h : fixedDigits count value text = .ok (n, rest)) : n < (value + 1) * 10 ^ count := by
  induction count generalizing value text with
  | zero =>
    cases h
    omega
  | succ count ih =>
    cases text with
    | nil => cases h
    | cons c text =>
      rw [fixedDigits] at h
      split at h
      · rename_i d hd
        have hlt : d < 10 := by
          unfold digit? at hd
          split at hd
          · cases hd
            omega
          · cases hd
        have hn := ih h
        have hle : (value * 10 + d + 1) * 10 ^ count ≤ ((value + 1) * 10) * 10 ^ count :=
          Nat.mul_le_mul_right _ (by omega)
        rw [Nat.pow_succ', ← Nat.mul_assoc]
        omega
      · cases h

/-- White space is not dropped where there is none. -/
theorem dropBlanks_cons {c : Char} {rest : List Char} (h : Text.isBlank c = false) :
    Text.dropBlanks (c :: rest) = c :: rest := by
  rw [Text.dropBlanks, List.dropWhile_cons_of_neg (by rw [h]; exact Bool.false_ne_true)]

/-- White space is not dropped before digits. -/
theorem dropBlanks_digits {n : Nat} {cs rest : List Char} (hd : Digits n cs) (hne : cs ≠ []) :
    Text.dropBlanks (cs ++ rest) = cs ++ rest := by
  cases cs with
  | nil => exact absurd rfl hne
  | cons c cs => exact dropBlanks_cons (isBlank_of_isDigit (hd.digit c List.mem_cons_self))

/-- A two-digit field is read back. -/
theorem readField_padded {low high n : Nat} (hl : low ≤ n) (hh : n ≤ high) (hn : n < 100)
    (rest : List Char) :
    readField low high ((padded 2 n).toList ++ rest) = .ok (n, rest) := by
  have hd := digits_padded 2 n
  have hlen : (padded 2 n).toList.length = 2 := length_padded (by omega) hn
  have hne := padded_ne_nil 2 n
  rw [readField, dropBlanks_digits hd hne]
  exact bind_eq_ok.mpr ⟨_, number_append hd hne (Nat.le_of_eq hlen) (Or.inl hlen), if_pos ⟨hl, hh⟩⟩

end Hydration.Calendar
