import Hydration.Json.Printer
import Hydration.Proofs.Text.Lines
import Mathlib.Tactic.SplitIfs

/-!
# Compact text stays on its line

The text of a JSON value without spaces has no control characters: strings
escape theirs, and numbers and punctuation have none. So it can be written as a
line of a longer text and be found there again.
-/

namespace Hydration

namespace Text

/-! ## Numbers -/

theorem le_toNat_digitChar : ∀ digit < 16, 32 ≤ (Nat.digitChar digit).toNat := by decide

/-- The digits of a number are no control characters. -/
theorem le_toNat_of_mem_toDigits {base n : Nat} (hb : 1 < base) (hmax : base ≤ 16) {c : Char}
    (h : c ∈ Nat.toDigits base n) : 32 ≤ c.toNat := by
  induction n using Nat.strongRecOn with
  | ind n ih =>
    rw [Nat.toDigits_eq_if hb] at h
    split at h
    · rename_i hn
      rw [List.mem_singleton.mp h]
      exact le_toNat_digitChar n (Nat.lt_of_lt_of_le hn hmax)
    · rcases List.mem_append.mp h with h | h
      · exact ih (n / base) (Nat.div_lt_self (by omega) hb) h
      · rw [List.mem_singleton.mp h]
        have hrest : n % base < base := Nat.mod_lt n (Nat.lt_trans Nat.zero_lt_one hb)
        exact le_toNat_digitChar (n % base) (Nat.lt_of_lt_of_le hrest hmax)

/-- A natural number stays on a line. -/
theorem isInline_repr (n : Nat) : isInline n.repr = true := by
  rw [isInline_iff, Nat.toList_repr]
  exact fun _ => le_toNat_of_mem_toDigits (by decide) (by decide)

/-- An integer stays on a line. -/
theorem isInline_toString_int (i : Int) : isInline (toString i) = true := by
  cases i with
  | ofNat n => exact isInline_repr n
  | negSucc n => exact isInline_append (by decide) (isInline_repr (n + 1))

end Text

open Text

/-- Digits are written without control characters if the layout has none. -/
theorem Decimal.Layout.isInline_format {layout : Decimal.Layout}
    (htail : isInline layout.integralTail = true) (hplus : isInline layout.plusMark = true)
    (hminus : isInline layout.minusMark = true) (digits : Decimal.Digits) :
    isInline (layout.format digits) = true := by
  have htext : isInline (String.ofList (Nat.toDigits 10 digits.coefficient)) = true :=
    isInline_ofList fun _ => le_toNat_of_mem_toDigits (by decide) (by decide)
  have hchars := isInline_iff.mp htext
  unfold Decimal.Layout.format
  dsimp only
  split
  · split
    · exact isInline_append (isInline_append htext (isInline_replicate _ (by decide))) htail
    · split
      · refine isInline_append (isInline_append (isInline_ofList ?_) (by decide))
          (isInline_ofList ?_)
        · exact fun c hc => hchars c (List.mem_of_mem_take hc)
        · exact fun c hc => hchars c (List.mem_of_mem_drop hc)
      · exact isInline_append (isInline_append (by decide) (isInline_replicate _ (by decide))) htext
  · refine isInline_append (isInline_append ?_ ?_) (isInline_repr _)
    · split
      · exact htext
      · exact htext
      · rename_i d rest _ heq
        rw [heq] at hchars
        refine isInline_ofList fun c hc => ?_
        rcases List.mem_cons.mp hc with rfl | hc
        · exact hchars c List.mem_cons_self
        · rcases List.mem_cons.mp hc with rfl | hc
          · decide
          · exact hchars c (List.mem_cons_of_mem _ hc)
    · split
      · exact hplus
      · exact hminus

namespace Json

/-- The text of a number stays on a line. -/
theorem Number.isInline_text (n : Number) : isInline n.text = true := by
  cases n with
  | integer token => exact isInline_toString_int token.value
  | double value =>
    refine isInline_append ?_ (Decimal.Layout.isInline_format (by decide) (by decide) (by decide) _)
    split <;> decide

/-! ## Strings and containers -/

/-- A hexadecimal number stays on a line. -/
theorem isInline_hexText (width n : Nat) : isInline (hexText width n) = true := by
  refine isInline_ofList fun d hd => ?_
  rcases List.mem_append.mp hd with hd | hd
  · rw [List.eq_of_mem_replicate hd]
    decide
  · exact le_toNat_of_mem_toDigits (by decide) (by decide) hd

/-- What is escaped is a control character or has a meaning in quotes. -/
theorem isInline_escapeChar (c : Char) : isInline (escapeChar c) = true := by
  unfold escapeChar
  split
  · decide
  · decide
  · decide
  · decide
  · decide
  · split_ifs with h8 h12 h32
    · decide
    · decide
    · exact isInline_append (by decide) (isInline_hexText 4 c.toNat)
    · exact isInline_ofList fun d hd => List.mem_singleton.mp hd ▸ Nat.le_of_not_lt h32

/-- A quoted string stays on a line, whatever the string. -/
theorem isInline_quote (text : String) : isInline (quote text) = true := by
  refine isInline_append (isInline_append (by decide) (isInline_join fun escaped h => ?_))
    (by decide)
  obtain ⟨c, -, rfl⟩ := List.mem_map.mp h
  exact isInline_escapeChar c

mutual

/-- The compact text of a value has no control characters. -/
theorem isInline_compact (value : Json) : isInline value.compact = true := by
  cases value with
  | null => decide
  | bool value => cases value <;> decide
  | number n => exact Number.isInline_text n
  | string text => exact isInline_quote text
  | array items =>
    exact isInline_append (isInline_append (by decide) (isInline_compactItems items)) (by decide)
  | object members =>
    exact isInline_append (isInline_append (by decide) (isInline_compactMembers members)) (by decide)

theorem isInline_compactItems (items : List Json) : isInline (compactItems items) = true := by
  match items with
  | [] => decide
  | [item] => exact isInline_compact item
  | item :: next :: rest =>
    exact isInline_append (isInline_append (isInline_compact item) (by decide))
      (isInline_compactItems (next :: rest))

theorem isInline_compactMembers (members : List (String × Json)) :
    isInline (compactMembers members) = true := by
  match members with
  | [] => decide
  | [(key, value)] =>
    exact isInline_append (isInline_append (isInline_quote key) (by decide)) (isInline_compact value)
  | (key, value) :: next :: rest =>
    exact isInline_append (isInline_append (isInline_append (isInline_append (isInline_quote key)
      (by decide)) (isInline_compact value)) (by decide)) (isInline_compactMembers (next :: rest))

end

end Json

end Hydration
