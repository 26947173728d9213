import Hydration.Proofs.Calendar.Digits

/-!
# Dates and times are read back

Every date and every time of day is read back from its own text. A stamp is
read back when its year has four digits and its offset is below a day, which
holds of every stamp that was read.
-/

namespace Hydration.Calendar

/-- The first character decides whether a text starts with a digit. -/
theorem stopsDigits_cons {c : Char} {rest : List Char} (h : digit? c = none) :
    StopsDigits (c :: rest) := by
  rintro d rest' heq
  cases heq
  exact h

theorem stopsDigits_nil : StopsDigits [] := by
  rintro c rest h
  cases h

/-- A mark is read where it stands. -/
theorem mark_cons (c : Char) (rest : List Char) : mark c (c :: rest) = .ok rest := if_pos rfl

/-- One of several marks is read where it stands. -/
theorem fixedMark_cons {c : Char} {expected : List Char} (h : c ∈ expected) (rest : List Char) :
    fixedMark expected (c :: rest) = .ok rest := if_pos h

/-- The parts of a date make the date. -/
theorem required_date (date : Date) :
    required (Date.of? date.year date.month date.day) = .ok date := by
  rw [Date.of?, dif_pos date.valid, required]

theorem required_time (time : Time) :
    required (Time.of? time.hour time.minute time.second time.nanosecond) = .ok time := by
  rw [Time.of?, dif_pos time.valid, required]

/-- The month and the day of a date are in the ranges of their fields. -/
theorem Date.ranges (date : Date) :
    1 ≤ date.month ∧ date.month ≤ 12 ∧ 1 ≤ date.day ∧ date.day ≤ 31 := by
  obtain ⟨year, month, day, -, -, hlow, hhigh⟩ := date
  have hmonth : 1 ≤ month ∧ month ≤ 12 ∧ daysIn year month ≤ 31 := by
    unfold daysIn at hhigh ⊢
    split at hhigh <;> try split at hhigh
    all_goals simp_all
  dsimp only
  omega

/-- A signed year is read back before a character that is no digit. -/
theorem yearDigits_signed {year : Int} {rest : List Char} (hs : StopsDigits rest) :
    yearDigits ((if year < 0 then "-" else "+").toList ++ (padded 4 year.natAbs).toList ++ rest)
      = .ok (year, rest) := by
  have hd := digits_padded 4 year.natAbs
  have hne := padded_ne_nil 4 year.natAbs
  have hlen : (padded 4 year.natAbs).toList.length
      ≤ ((padded 4 year.natAbs).toList ++ rest).length := by
    rw [List.length_append]
    omega
  have hnumber := number_append hd hne hlen (Or.inr hs)
  split
  · have hyear : -(year.natAbs : Int) = year := by omega
    exact bind_eq_ok.mpr ⟨_, hnumber, congrArg (fun y => Except.ok (y, rest)) hyear⟩
  · have hyear : (year.natAbs : Int) = year := by omega
    exact bind_eq_ok.mpr ⟨_, hnumber, congrArg (fun y => Except.ok (y, rest)) hyear⟩

/-- Without a sign a year has up to four digits. -/
theorem yearDigits_of_isDigit {c : Char} {cs : List Char} (h : c.isDigit = true) :
    yearDigits (c :: cs)
      = (number 4 (c :: cs)).map fun found => ((found.1 : Int), found.2) := by
  unfold yearDigits
  split
  · rename_i heq
    cases heq
    cases h
  · rename_i heq
    cases heq
    cases h
  · cases number 4 (c :: cs) <;> rfl

/-- A year of four digits is read back before anything. -/
theorem yearDigits_plain {year : Int} (hlow : 0 ≤ year) (hhigh : year ≤ 9999)
    (rest : List Char) :
    yearDigits ((padded 4 year.natAbs).toList ++ rest) = .ok (year, rest) := by
  have hd := digits_padded 4 year.natAbs
  have hne := padded_ne_nil 4 year.natAbs
  have hlen : (padded 4 year.natAbs).toList.length = 4 := length_padded (by omega) (by omega)
  have hnumber : number 4 ((padded 4 year.natAbs).toList ++ rest) = .ok (year.natAbs, rest) :=
    number_append hd hne (Nat.le_of_eq hlen) (Or.inl hlen)
  have hyear : (year.natAbs : Int) = year := by omega
  cases hcs : (padded 4 year.natAbs).toList with
  | nil => exact absurd hcs hne
  | cons c cs =>
    rw [hcs] at hd hnumber
    rw [List.cons_append] at hnumber ⊢
    rw [yearDigits_of_isDigit (hd.digit c List.mem_cons_self), hnumber]
    exact congrArg (fun y => Except.ok (y, rest)) hyear

/-- A year is read back before a character that is no digit. -/
theorem readYear_append {year : Int} (hlow : -0x80000000 ≤ year) (hhigh : year < 0x80000000)
    {rest : List Char} (hs : StopsDigits rest) :
    readYear ((yearText year).toList ++ rest) = .ok (year, rest) := by
  have hread : yearDigits (Text.dropBlanks ((yearText year).toList ++ rest))
      = .ok (year, rest) := by
    unfold yearText
    split
    · rename_i hfour
      have hd := digits_padded 4 year.natAbs
      have hne := padded_ne_nil 4 year.natAbs
      rw [dropBlanks_digits hd hne]
      exact yearDigits_plain hfour.1 hfour.2 rest
    · have hsigned : yearDigits ((if year < 0 then "-" else "+").toList
          ++ (padded 4 year.natAbs).toList ++ rest) = .ok (year, rest) := yearDigits_signed hs
      rw [String.toList_append]
      split at hsigned
      · rename_i hneg
        rw [if_pos hneg]
        exact hsigned
      · rename_i hneg
        rw [if_neg hneg]
        exact hsigned
  exact bind_eq_ok.mpr ⟨_, hread, if_pos ⟨hlow, hhigh⟩⟩

/-- A date is read back from its text. -/
theorem Date.parse_text (date : Date) : Date.parse date.text = .ok date := by
  have hvalid := date.valid
  have hranges := date.ranges
  have hyear : ∀ rest, readYear ((yearText date.year).toList ++ '-' :: rest)
      = .ok (date.year, '-' :: rest) := by
    intro rest
    refine readYear_append ?_ ?_ (stopsDigits_cons rfl)
    · have := hvalid.1
      omega
    · have := hvalid.2.1
      omega
  have hmonth : ∀ rest, readField 1 12 ((padded 2 date.month).toList ++ rest)
      = .ok (date.month, rest) := readField_padded (by omega) (by omega) (by omega)
  have hday : readField 1 31 ((padded 2 date.day).toList ++ []) = .ok (date.day, []) :=
    readField_padded (by omega) (by omega) (by omega) []
  have htext : date.text.toList = (yearText date.year).toList ++ '-' ::
      ((padded 2 date.month).toList ++ '-' :: ((padded 2 date.day).toList ++ [])) := by
    simp [Date.text]
  unfold Date.parse
  rw [htext]
  refine bind_eq_ok.mpr ⟨_, hyear _, ?_⟩
  refine bind_eq_ok.mpr ⟨_, mark_cons '-' _, ?_⟩
  refine bind_eq_ok.mpr ⟨_, hmonth _, ?_⟩
  refine bind_eq_ok.mpr ⟨_, mark_cons '-' _, ?_⟩
  refine bind_eq_ok.mpr ⟨_, hday, ?_⟩
  exact bind_eq_ok.mpr ⟨(), rfl, required_date date⟩

/-- The digits of a fraction are read back as nanoseconds. -/
theorem nanoseconds_append {width value : Nat} (hw : 0 < width) (hw' : width ≤ 9)
    (hv : value < 10 ^ width) {rest : List Char} (hs : StopsDigits rest) :
    nanoseconds ((padded width value).toList ++ rest)
      = .ok (value * 10 ^ (9 - width), rest) := by
  have hd := digits_padded width value
  have hne := padded_ne_nil width value
  have hlen := length_padded hw hv
  have hnumber : number 9 ((padded width value).toList ++ rest) = .ok (value, rest) :=
    number_append hd hne (by omega) (Or.inr hs)
  have htaken : ((padded width value).toList ++ rest).length - rest.length = width := by
    rw [List.length_append, hlen]
    omega
  have hdrop : (rest.dropWhile fun c => (digit? c).isSome) = rest := by
    cases rest with
    | nil => rfl
    | cons c tail =>
      have hc := hs c tail rfl
      exact List.dropWhile_cons_of_neg (by simp [hc])
  unfold nanoseconds
  refine bind_eq_ok.mpr ⟨_, hnumber, ?_⟩
  dsimp only
  rw [htaken, hdrop]
  rfl

/-- A fraction is read back before a character that neither is a digit nor
starts a fraction. -/
theorem readFraction_append {n : Nat} (hn : n < 1000000000) {rest : List Char}
    (hs : StopsDigits rest) (hp : ∀ tail, rest ≠ '.' :: tail) :
    readFraction ((fractionText n).toList ++ rest) = .ok (n, rest) := by
  have hfraction : ∀ {width value : Nat}, 0 < width → width ≤ 9 → value < 10 ^ width →
      readFraction (("." ++ padded width value).toList ++ rest)
        = .ok (value * 10 ^ (9 - width), rest) := by
    intro width value hw hw' hv
    rw [String.toList_append]
    exact nanoseconds_append hw hw' hv hs
  unfold fractionText
  split
  · rename_i hzero
    subst hzero
    unfold readFraction
    split
    · rename_i tail heq
      exact absurd heq (hp tail)
    · rfl
  · split
    · rename_i hmilli
      rw [hfraction (by omega) (by omega) (by omega)]
      have hvalue : n / 1000000 * 10 ^ (9 - 3) = n := by omega
      rw [hvalue]
    · split
      · rename_i hmicro
        rw [hfraction (by omega) (by omega) (by omega)]
        have hvalue : n / 1000 * 10 ^ (9 - 6) = n := by omega
        rw [hvalue]
      · rw [hfraction (by omega) (by omega) (by omega)]
        have hvalue : n * 10 ^ (9 - 9) = n := by omega
        rw [hvalue]

/-- A time of day is read back from its text. -/
theorem Time.parse_text (time : Time) : Time.parse time.text = .ok time := by
  obtain ⟨hhour, hminute, hsecond, hnano⟩ := time.valid
  have hfield : ∀ {high n : Nat}, n ≤ high → n < 100 → ∀ rest,
      readField 0 high ((padded 2 n).toList ++ rest) = .ok (n, rest) :=
    fun hh hn => readField_padded (Nat.zero_le _) hh hn
  have hfraction : readFraction ((fractionText time.nanosecond).toList ++ [])
      = .ok (time.nanosecond, []) :=
    readFraction_append hnano stopsDigits_nil (by simp)
  have htext : time.text.toList = (padded 2 time.hour).toList ++ ':' ::
      ((padded 2 time.minute).toList ++ ':' :: ((padded 2 time.second).toList
        ++ ((fractionText time.nanosecond).toList ++ []))) := by
    simp [Time.text]
  unfold Time.parse
  rw [htext]
  refine bind_eq_ok.mpr ⟨_, hfield (by omega) (by omega) _, ?_⟩
  refine bind_eq_ok.mpr ⟨_, mark_cons ':' _, ?_⟩
  refine bind_eq_ok.mpr ⟨_, hfield (by omega) (by omega) _, ?_⟩
  refine bind_eq_ok.mpr ⟨_, mark_cons ':' _, ?_⟩
  refine bind_eq_ok.mpr ⟨_, hfield (by omega) (by omega) _, ?_⟩
  refine bind_eq_ok.mpr ⟨_, hfraction, ?_⟩
  exact bind_eq_ok.mpr ⟨(), rfl, required_time time⟩

/-- The date of a stamp is read back if its year has four digits. -/
theorem fixedDate_append {date : Date} (hlow : 0 ≤ date.year) (hhigh : date.year ≤ 9999)
    (rest : List Char) : fixedDate (date.text.toList ++ rest) = .ok (date, rest) := by
  have hranges := date.ranges
  have hyear : (date.year.natAbs : Int) = date.year := by omega
  have htext : date.text.toList ++ rest = (padded 4 date.year.natAbs).toList ++ '-' ::
      ((padded 2 date.month).toList ++ '-' :: ((padded 2 date.day).toList ++ rest)) := by
    rw [Date.text, yearText, if_pos ⟨hlow, hhigh⟩]
    simp
  have hmark : '-' ∈ ['-'] := List.mem_singleton_self _
  unfold fixedDate
  rw [htext]
  refine bind_eq_ok.mpr ⟨_, fixedDigits_padded (by omega) (by omega) _, ?_⟩
  refine bind_eq_ok.mpr ⟨_, fixedMark_cons hmark _, ?_⟩
  refine bind_eq_ok.mpr ⟨_, fixedDigits_padded (by omega) (by omega) _, ?_⟩
  refine bind_eq_ok.mpr ⟨_, fixedMark_cons hmark _, ?_⟩
  refine bind_eq_ok.mpr ⟨_, fixedDigits_padded (by omega) (by omega) _, ?_⟩
  rw [hyear]
  exact bind_eq_ok.mpr ⟨_, required_date date, rfl⟩

/-- The time of a stamp is read back before its offset. -/
theorem fixedTime_append (time : Time) {rest : List Char} (hs : StopsDigits rest)
    (hp : ∀ tail, rest ≠ '.' :: tail) :
    fixedTime (time.text.toList ++ rest) = .ok (time, rest) := by
  obtain ⟨hhour, hminute, hsecond, hnano⟩ := time.valid
  have htext : time.text.toList ++ rest = (padded 2 time.hour).toList ++ ':' ::
      ((padded 2 time.minute).toList ++ ':' :: ((padded 2 time.second).toList
        ++ ((fractionText time.nanosecond).toList ++ rest))) := by
    simp [Time.text]
  have hmark : ':' ∈ [':'] := List.mem_singleton_self _
  unfold fixedTime
  rw [htext]
  refine bind_eq_ok.mpr ⟨_, fixedDigits_padded (by omega) (by omega) _, ?_⟩
  refine bind_eq_ok.mpr ⟨_, fixedMark_cons hmark _, ?_⟩
  refine bind_eq_ok.mpr ⟨_, fixedDigits_padded (by omega) (by omega) _, ?_⟩
  refine bind_eq_ok.mpr ⟨_, fixedMark_cons hmark _, ?_⟩
  refine bind_eq_ok.mpr ⟨_, fixedDigits_padded (by omega) (by omega) _, ?_⟩
  refine bind_eq_ok.mpr ⟨_, readFraction_append hnano hs hp, ?_⟩
  exact bind_eq_ok.mpr ⟨_, required_time time, rfl⟩

/-- Two digits of an offset are read back. -/
theorem offsetDigits_padded {n : Nat} (h : n < 100) (rest : List Char) :
    ∃ a b, offsetDigits ((padded 2 n).toList ++ rest) = .ok (a, b, rest) ∧ a * 10 + b = n := by
  have hd := digits_padded 2 n
  have hlen : (padded 2 n).toList.length = 2 := length_padded (by omega) h
  cases hcs : (padded 2 n).toList with
  | nil => cases hcs ▸ hlen
  | cons c cs =>
    cases cs with
    | nil => cases hcs ▸ hlen
    | cons d ds =>
      rw [hcs] at hd hlen
      obtain rfl : ds = [] := List.length_eq_zero_iff.mp (by simpa using hlen)
      have hc := digit?_of_isDigit (hd.digit c (by simp))
      have hd' := digit?_of_isDigit (hd.digit d (by simp))
      refine ⟨c.toNat - 48, d.toNat - 48, ?_, ?_⟩
      · rw [List.cons_append, List.cons_append, List.nil_append, offsetDigits, hc, hd']
      · have hvalue := hd.value
        rw [Nat.ofDigitChars_cons, Nat.ofDigitChars_cons, Nat.ofDigitChars_nil] at hvalue
        change 10 * (10 * 0 + (c.toNat - 48)) + (d.toNat - 48) = n at hvalue
        omega

/-- The hours and minutes of an offset are read back after its sign. -/
theorem readOffset_sign {sign : Char} {negative : Bool} (hz : sign ≠ 'Z') (hz' : sign ≠ 'z')
    (hs : offsetSign sign = .ok negative) {n : Nat} (h : n < 24 * 60) :
    readOffset (sign :: ((padded 2 (n / 60)).toList ++ ':' :: (padded 2 (n % 60)).toList))
      = .ok (if negative then -(n : Int) else n, []) := by
  obtain ⟨a, b, hhour, hab⟩ := offsetDigits_padded (n := n / 60) (by omega)
    (':' :: (padded 2 (n % 60)).toList)
  obtain ⟨c, d, hminute, hcd⟩ := offsetDigits_padded (n := n % 60) (by omega) []
  rw [List.append_nil] at hminute
  have hvalue : (a * 10 + b) * 60 + c * 10 + d = n := by omega
  have hlimit : c < 6 := by omega
  unfold readOffset
  split
  · rename_i heq
    cases heq
  · rename_i heq
    cases heq
    exact absurd rfl hz
  · rename_i heq
    cases heq
    exact absurd rfl hz'
  · rename_i heq
    cases heq
    refine bind_eq_ok.mpr ⟨_, hs, ?_⟩
    refine bind_eq_ok.mpr ⟨_, hhour, ?_⟩
    refine bind_eq_ok.mpr ⟨_, mark_cons ':' _, ?_⟩
    refine bind_eq_ok.mpr ⟨_, hminute, ?_⟩
    dsimp only
    rw [if_pos hlimit, hvalue]
    rfl

/-- The text of an offset that is not zero is a sign, hours and minutes. -/
theorem offsetText_toList {offset : Int} (h : offset ≠ 0) :
    (offsetText offset).toList = (if offset < 0 then '-' else '+') ::
      ((padded 2 (offset.natAbs / 60)).toList ++ ':' :: (padded 2 (offset.natAbs % 60)).toList) := by
  rw [offsetText, if_neg h]
  split <;> simp

/-- An offset below a day is read back. -/
theorem readOffset_text {offset : Int} (h : offset.natAbs < 24 * 60) :
    readOffset (offsetText offset).toList = .ok (offset, []) := by
  by_cases hzero : offset = 0
  · rw [hzero]
    rfl
  · rw [offsetText_toList hzero]
    by_cases hneg : offset < 0
    · have hsign : offsetSign '-' = .ok true := rfl
      have hvalue : -(offset.natAbs : Int) = offset := by omega
      rw [if_pos hneg, readOffset_sign (by decide) (by decide) hsign h, if_pos rfl, hvalue]
    · have hsign : offsetSign '+' = .ok false := rfl
      have hvalue : (offset.natAbs : Int) = offset := by omega
      rw [if_neg hneg, readOffset_sign (by decide) (by decide) hsign h,
        if_neg Bool.false_ne_true, hvalue]

/-- The text of an offset starts neither with a digit nor with a point. -/
theorem offsetText_start (offset : Int) :
    StopsDigits (offsetText offset).toList ∧ ∀ tail, (offsetText offset).toList ≠ '.' :: tail := by
  have hstart : ∀ c : Char, digit? c = none → c ≠ '.' → ∀ rest,
      StopsDigits (c :: rest) ∧ ∀ tail, c :: rest ≠ '.' :: tail := by
    intro c hdigit hpoint rest
    refine ⟨stopsDigits_cons hdigit, fun tail heq => hpoint ?_⟩
    exact (List.cons.inj heq).1
  by_cases hzero : offset = 0
  · rw [hzero]
    exact hstart 'Z' rfl (by decide) []
  · rw [offsetText_toList hzero]
    split
    · exact hstart '-' rfl (by decide) _
    · exact hstart '+' rfl (by decide) _

/-- A text has at least as many bytes as characters. -/
theorem length_le_utf8ByteSize (text : List Char) :
    text.length ≤ (String.ofList text).utf8ByteSize := by
  induction text with
  | nil => exact Nat.zero_le _
  | cons c rest ih =>
    have hsplit : String.ofList (c :: rest) = String.singleton c ++ String.ofList rest := by
      rw [← String.toList_inj]
      simp
    have hpos := c.utf8Size_pos
    rw [hsplit, String.utf8ByteSize_append, String.utf8ByteSize_singleton, List.length_cons]
    omega

/-- A stamp is read back from its text if its year has four digits and its
offset is below a day. -/
theorem DateTime.parse_text {stamp : DateTime} (hlow : 0 ≤ stamp.date.year)
    (hhigh : stamp.date.year ≤ 9999) (hoffset : stamp.offset.natAbs < 24 * 60) :
    DateTime.parse stamp.text = .ok stamp := by
  obtain ⟨hstop, hpoint⟩ := offsetText_start stamp.offset
  have htext : stamp.text.toList = stamp.date.text.toList ++ 'T' ::
      (stamp.time.text.toList ++ (offsetText stamp.offset).toList) := by
    simp [DateTime.text]
  have hmark : 'T' ∈ ['T', 't', ' '] := List.mem_cons_self
  have hsize : ¬stamp.text.utf8ByteSize < 19 := by
    have hbytes := length_le_utf8ByteSize stamp.text.toList
    rw [String.ofList_toList] at hbytes
    have hwidth := le_length_padded
    have hyear := hwidth 4 stamp.date.year.natAbs
    have hmonth := hwidth 2 stamp.date.month
    have hday := hwidth 2 stamp.date.day
    have hhour := hwidth 2 stamp.time.hour
    have hminute := hwidth 2 stamp.time.minute
    have hsecond := hwidth 2 stamp.time.second
    rw [htext, Date.text, yearText, if_pos ⟨hlow, hhigh⟩, Time.text] at hbytes
    simp only [String.toList_append, List.length_append, List.length_cons] at hbytes
    have hdash : "-".toList.length = 1 := rfl
    have hcolon : ":".toList.length = 1 := rfl
    omega
  unfold DateTime.parse
  rw [if_neg hsize, htext]
  refine bind_eq_ok.mpr ⟨_, fixedDate_append hlow hhigh _, ?_⟩
  refine bind_eq_ok.mpr ⟨_, fixedMark_cons hmark _, ?_⟩
  refine bind_eq_ok.mpr ⟨_, fixedTime_append stamp.time hstop hpoint, ?_⟩
  refine bind_eq_ok.mpr ⟨_, readOffset_text hoffset, ?_⟩
  exact bind_eq_ok.mpr ⟨(), rfl, if_pos hoffset⟩

/-- The date of a stamp that was read has a year of four digits. -/
theorem year_of_fixedDate {text rest : List Char} {date : Date}
    (h : fixedDate text = .ok (date, rest)) : 0 ≤ date.year ∧ date.year ≤ 9999 := by
  obtain ⟨⟨y, text⟩, hy, h⟩ := bind_eq_ok.mp h
  obtain ⟨text, -, h⟩ := bind_eq_ok.mp h
  obtain ⟨⟨m, text⟩, -, h⟩ := bind_eq_ok.mp h
  obtain ⟨text, -, h⟩ := bind_eq_ok.mp h
  obtain ⟨⟨d, text⟩, -, h⟩ := bind_eq_ok.mp h
  obtain ⟨found, hfound, h⟩ := bind_eq_ok.mp h
  cases h
  have hlt := fixedDigits_lt hy
  have hyear : date.year = y := by
    unfold Date.of? at hfound
    split at hfound
    · cases hfound
      rfl
    · cases hfound
  omega

/-- A stamp that was read has a year of four digits and an offset below a day. -/
theorem DateTime.ranges_of_parse {text : String} {stamp : DateTime}
    (h : DateTime.parse text = .ok stamp) :
    0 ≤ stamp.date.year ∧ stamp.date.year ≤ 9999 ∧ stamp.offset.natAbs < 24 * 60 := by
  unfold DateTime.parse at h
  split at h
  · cases h
  · obtain ⟨⟨date, rest⟩, hdate, h⟩ := bind_eq_ok.mp h
    obtain ⟨rest, -, h⟩ := bind_eq_ok.mp h
    obtain ⟨⟨time, rest⟩, -, h⟩ := bind_eq_ok.mp h
    obtain ⟨⟨minutes, rest⟩, -, h⟩ := bind_eq_ok.mp h
    obtain ⟨-, -, h⟩ := bind_eq_ok.mp h
    split at h
    · rename_i hoffset
      cases h
      have hyear := year_of_fixedDate hdate
      exact ⟨hyear.1, hyear.2, hoffset⟩
    · cases h

end Hydration.Calendar
