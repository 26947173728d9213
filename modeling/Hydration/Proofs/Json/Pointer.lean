import Hydration.Json.Path
import Hydration.Json.Pointer
import Hydration.Proofs.Structure

/-!
# What a pointer selects

A pointer spells a path: each of its tokens stands after a slash and names a step
to a member or to an element. `resolve?_eq_some_iff` says that a pointer selects
what stands at the end of a path that it spells, and that it selects nothing if no
such path leads anywhere.
-/

namespace Hydration.Json.Pointer

/-- How a key is written in a token: `~1` stands for a slash, `~0` for a tilde, and any other
character for itself, a tilde before any other character included. -/
inductive Writes : List Char → List Char → Prop where
  /-- Nothing is written for the empty key. -/
  | nil : Writes [] []
  /-- A slash. -/
  | slash {token key : List Char} (h : Writes token key) : Writes ('~' :: '1' :: token) ('/' :: key)
  /-- A tilde. -/
  | tilde {token key : List Char} (h : Writes token key) : Writes ('~' :: '0' :: token) ('~' :: key)
  /-- Any other character. -/
  | plain {c : Char} {token key : List Char} (hslash : c ≠ '/')
      (hone : c = '~' → token.head? ≠ some '1') (hzero : c = '~' → token.head? ≠ some '0')
      (h : Writes token key) : Writes (c :: token) (c :: key)

/-- A token names a step: to the member whose key it writes, or to the element whose index has
its characters for decimal digits. -/
inductive Names : List Char → Step → Prop where
  /-- To a member. -/
  | key {token : List Char} {key : String} (h : Writes token key.toList) : Names token (.key key)
  /-- To an element. -/
  | index (place : Nat) : Names (toString place).toList (.index place)

/-- A pointer spells a path: it has the tokens of the steps, each after a slash. -/
def Spells (pointer : String) (steps : List Step) : Prop :=
  ∃ tokens, pointer.toList = tokens.flatMap ('/' :: ·) ∧ List.Forall₂ Names tokens steps

/-- A pointer selects the part of a value at the end of a path that it spells. -/
def Selects (pointer : String) (value part : Json) : Prop :=
  ∃ steps, Spells pointer steps ∧ value.at? steps = some part

/-! ## Tokens -/

/-- A token without slashes writes the key that is read of it, and no other. -/
theorem writes_iff {token key : List Char} :
    Writes token key ↔ '/' ∉ token ∧ unescape token = key := by
  constructor
  · intro h
    induction h with
    | nil => exact ⟨List.not_mem_nil, rfl⟩
    | slash _ ih => exact ⟨by simpa using ih.1, by rw [unescape, ih.2]⟩
    | tilde _ ih => exact ⟨by simpa using ih.1, by rw [unescape, ih.2]⟩
    | plain hslash hone hzero _ ih =>
      refine ⟨by simpa [Ne.symm hslash] using ih.1, ?_⟩
      rw [unescape, ih.2]
      · rintro rest rfl rfl
        exact hone rfl rfl
      · rintro rest rfl rfl
        exact hzero rfl rfl
  · rintro ⟨hno, rfl⟩
    induction token using unescape.induct with
    | case1 rest ih => exact .slash (ih (by simpa using hno))
    | case2 rest ih => exact .tilde (ih (by simpa using hno))
    | case3 c rest hone hzero ih =>
      obtain ⟨hc, hrest⟩ := List.ne_and_not_mem_of_not_mem_cons hno
      rw [unescape.eq_3 _ _ hone hzero]
      refine .plain (Ne.symm hc) (fun htilde hhead => ?_) (fun htilde hhead => ?_) (ih hrest)
      · obtain ⟨more, hmore⟩ := List.head?_eq_some_iff.mp hhead
        exact hone more htilde hmore
      · obtain ⟨more, hmore⟩ := List.head?_eq_some_iff.mp hhead
        exact hzero more htilde hmore
    | case4 => exact .nil

/-- Characters other than slashes and tildes are written as they are. -/
theorem writes_self {key : List Char} (hslash : '/' ∉ key) (htilde : '~' ∉ key) :
    Writes key key := by
  induction key with
  | nil => exact .nil
  | cons c rest ih =>
    obtain ⟨hc, hrest⟩ := List.ne_and_not_mem_of_not_mem_cons hslash
    obtain ⟨hd, hrest'⟩ := List.ne_and_not_mem_of_not_mem_cons htilde
    exact .plain (Ne.symm hc) (fun h => absurd h.symm hd) (fun h => absurd h.symm hd)
      (ih hrest hrest')

/-- A key without slashes and tildes is written in no other way. -/
theorem Writes.eq_self {token key : List Char} (h : Writes token key) (hslash : '/' ∉ key)
    (htilde : '~' ∉ key) : token = key := by
  induction h with
  | nil => rfl
  | slash _ _ => exact absurd List.mem_cons_self hslash
  | tilde _ _ => exact absurd List.mem_cons_self htilde
  | plain _ _ _ _ ih =>
    rw [ih (fun hm => hslash (List.mem_cons_of_mem _ hm))
      fun hm => htilde (List.mem_cons_of_mem _ hm)]

/-! ## Indexes -/

/-- A digit is that of a number below ten. -/
theorem exists_digitChar {c : Char} (h : c.isDigit = true) :
    ∃ d < 10, c.toNat - '0'.toNat = d ∧ c = Nat.digitChar d := by
  have hrange : 48 ≤ c.toNat ∧ c.toNat ≤ 57 := Char.isDigit_iff_toNat.mp h
  have hzero : '0'.toNat = 48 := rfl
  have hlt : c.toNat - '0'.toNat < 10 := by omega
  refine ⟨c.toNat - '0'.toNat, hlt, rfl, Char.toNat_inj.mp ?_⟩
  rw [Nat.toNat_digitChar_of_lt_ten hlt]
  omega

/-- Digits that go on from a number other than zero are the last ones of what they make of it. -/
theorem toDigits_ofDigitChars {digits : List Char} (hd : ∀ c ∈ digits, c.isDigit = true) {n : Nat}
    (hn : 0 < n) :
    Nat.toDigits 10 (Nat.ofDigitChars 10 digits n) = Nat.toDigits 10 n ++ digits := by
  induction digits generalizing n with
  | nil => exact (List.append_nil _).symm
  | cons c rest ih =>
    obtain ⟨d, hlt, hvalue, rfl⟩ := exists_digitChar (hd c List.mem_cons_self)
    rw [Nat.ofDigitChars_cons, hvalue, ih (fun c hc => hd c (List.mem_cons_of_mem _ hc)) (by omega),
      ← Nat.toDigits_append_toDigits (by decide) hn hlt, Nat.toDigits_of_lt_base hlt,
      List.append_assoc, List.singleton_append]

/-- Only zero has a zero for its first digit. -/
theorem head?_toDigits {n : Nat} (hn : 0 < n) : (Nat.toDigits 10 n).head? ≠ some '0' := by
  induction n using Nat.strongRecOn with
  | ind n ih =>
    rw [Nat.toDigits_eq_if (by decide)]
    split
    · rw [List.head?_singleton, Option.some_inj.ne, Ne, Nat.digitChar_eq_zero]
      omega
    · rename_i hten
      rw [List.head?_append_of_ne_nil _ Nat.toDigits_ne_nil]
      exact ih (n / 10) (by omega) (by omega)

/-- Digits without a leading zero are those of the number that they make. -/
theorem toDigits_of_no_leading_zero {c : Char} {rest : List Char}
    (hd : ∀ d ∈ c :: rest, d.isDigit = true) (hlead : c = '0' → rest = []) :
    Nat.toDigits 10 (Nat.ofDigitChars 10 (c :: rest) 0) = c :: rest := by
  obtain ⟨d, hlt, hvalue, rfl⟩ := exists_digitChar (hd c List.mem_cons_self)
  have hrest : ∀ d ∈ rest, d.isDigit = true := fun d hm => hd d (List.mem_cons_of_mem _ hm)
  rw [Nat.ofDigitChars_cons, hvalue, Nat.mul_zero, Nat.zero_add]
  rcases Nat.eq_zero_or_pos d with rfl | hpos
  · rw [hlead rfl]
    rfl
  · rw [toDigits_ofDigitChars hrest hpos, Nat.toDigits_of_lt_base hlt, List.singleton_append]

/-- A token is read as an index if it consists of digits and has no leading zero. -/
theorem index?_of_cons {token : String} {c : Char} {rest : List Char}
    (ht : token.toList = c :: rest) (place : Nat) :
    index? token = some place
      ↔ (∀ d ∈ c :: rest, d.isDigit = true) ∧ (c = '0' → rest = [])
        ∧ Nat.ofDigitChars 10 (c :: rest) 0 = place := by
  have hlead : ((c :: rest).head? == some '0' && (c :: rest).length != 1) = true
      ↔ ¬ (c = '0' → rest = []) := by
    simp
  rw [← List.all_eq_true]
  unfold index?
  simp only [ht, hlead, ite_not]
  cases hd : (c :: rest).all Char.isDigit with
  | false => simp
  | true => by_cases hrest : c = '0' → rest = [] <;> simp [hrest]

/-- An index is read of its decimal digits and of nothing else. -/
theorem index?_eq_some_iff {token : String} {place : Nat} :
    index? token = some place ↔ token = toString place := by
  have hdigits : (toString place).toList = Nat.toDigits 10 place := Nat.toList_repr
  rw [← String.toList_inj, hdigits]
  cases ht : token.toList with
  | nil =>
    have hnone : index? token = none := by
      unfold index?
      rw [ht]
      rfl
    rw [hnone]
    exact ⟨fun h => (Option.some_ne_none _ h.symm).elim, fun h => absurd h.symm Nat.toDigits_ne_nil⟩
  | cons c rest =>
    rw [index?_of_cons ht]
    constructor
    · rintro ⟨hd, hlead, rfl⟩
      exact (toDigits_of_no_leading_zero hd hlead).symm
    · intro h
      rw [h]
      refine ⟨fun _ => Nat.isDigit_of_mem_toDigits (by decide) (by decide), ?_,
        Nat.ofDigitChars_ten_toDigits⟩
      rintro rfl
      rcases Nat.eq_zero_or_pos place with rfl | hpos
      · exact (List.cons.inj h).2
      · exact absurd (congrArg List.head? h.symm) (head?_toDigits hpos)

/-- The digits of an index are written as they are. -/
theorem writes_toString_iff {token : List Char} {place : Nat} :
    Writes token (toString place).toList ↔ token = (toString place).toList := by
  have hdigit : ∀ c ∈ (toString place).toList, c.isDigit = true := fun c hm =>
    Nat.isDigit_of_mem_toDigits (by decide) (by decide) (Nat.toList_repr ▸ hm)
  have hslash : '/' ∉ (toString place).toList := fun hm => absurd (hdigit _ hm) (by decide)
  have htilde : '~' ∉ (toString place).toList := fun hm => absurd (hdigit _ hm) (by decide)
  constructor
  · exact fun h => h.eq_self hslash htilde
  · rintro rfl
    exact writes_self hslash htilde

/-! ## Paths -/

/-- A token that names a step has no slash. -/
theorem Names.slash_notMem {token : List Char} {step : Step} (h : Names token step) :
    '/' ∉ token := by
  cases h with
  | key h => exact (writes_iff.mp h).1
  | index place => exact (writes_iff.mp (writes_toString_iff.mpr rfl)).1

/-- A token selects the child at a step that it names. -/
theorem select?_eq_some_iff {token : List Char} (hno : '/' ∉ token) {value child : Json} :
    select? value (String.ofList (unescape token)) = some child
      ↔ ∃ step, Names token step ∧ value.child? step = some child := by
  have hwrites {key : String} :
      Writes token key.toList ↔ String.ofList (unescape token) = key := by
    rw [writes_iff, ← String.toList_inj, String.toList_ofList]
    exact and_iff_right hno
  constructor
  · intro h
    cases value with
    | object members => exact ⟨.key _, .key (hwrites.mpr rfl), h⟩
    | array items =>
      obtain ⟨place, hplace, hchild⟩ := Option.bind_eq_some_iff.mp h
      obtain rfl := writes_toString_iff.mp (hwrites.mpr (index?_eq_some_iff.mp hplace))
      exact ⟨.index place, .index place, hchild⟩
    | _ => cases h
  · rintro ⟨step, hnames, hchild⟩
    cases hnames with
    | key h =>
      cases value with
      | object members => exact hwrites.mp h ▸ hchild
      | _ => cases hchild
    | index place =>
      cases value with
      | array items =>
        have hplace := index?_eq_some_iff.mpr (hwrites.mp (writes_toString_iff.mpr rfl))
        exact Option.bind_eq_some_iff.mpr ⟨place, hplace, hchild⟩
      | _ => cases hchild

/-- Tokens select what stands at the end of steps that they name. -/
theorem foldlM_select?_eq_some_iff {tokens : List (List Char)} (hno : ∀ token ∈ tokens, '/' ∉ token)
    {value part : Json} :
    (tokens.map fun token => String.ofList (unescape token)).foldlM select? value = some part
      ↔ ∃ steps, List.Forall₂ Names tokens steps ∧ value.at? steps = some part := by
  induction tokens generalizing value with
  | nil =>
    constructor
    · exact fun h => ⟨[], .nil, h⟩
    · rintro ⟨steps, hnames, hat⟩
      cases hnames
      exact hat
  | cons token rest ih =>
    have ih := @ih fun other hm => hno other (List.mem_cons_of_mem _ hm)
    rw [List.map_cons, List.foldlM_cons]
    constructor
    · intro h
      obtain ⟨child, hselect, hrest⟩ := Option.bind_eq_some_iff.mp h
      obtain ⟨step, hname, hchild⟩ :=
        (select?_eq_some_iff (hno token List.mem_cons_self)).mp hselect
      obtain ⟨steps, hnames, hat⟩ := ih.mp hrest
      exact ⟨step :: steps, .cons hname hnames, Option.bind_eq_some_iff.mpr ⟨child, hchild, hat⟩⟩
    · rintro ⟨_, hnames, hat⟩
      cases hnames with
      | @cons _ step _ steps hname hnames =>
        obtain ⟨child, hchild, hat⟩ := Option.bind_eq_some_iff.mp hat
        exact Option.bind_eq_some_iff.mpr
          ⟨child, (select?_eq_some_iff hname.slash_notMem).mpr ⟨step, hname, hchild⟩,
            ih.mpr ⟨steps, hnames, hat⟩⟩

/-- The pieces of a text between slashes have none. -/
theorem slash_notMem_of_mem_splitOn {text piece : List Char} (h : piece ∈ text.splitOn '/') :
    '/' ∉ piece := by
  induction text generalizing piece with
  | nil =>
    rw [List.splitOn_nil, List.mem_singleton] at h
    rw [h]
    exact List.not_mem_nil
  | cons c rest ih =>
    obtain ⟨first, more, hsplit⟩ := List.exists_cons_of_ne_nil (List.splitOn_ne_nil '/' rest)
    rw [List.splitOn_cons_eq_if_modifyHead, hsplit] at h
    rw [hsplit] at ih
    split at h
    · rcases List.mem_cons.mp h with rfl | h
      · exact List.not_mem_nil
      · exact ih h
    · rename_i hc
      rcases List.mem_cons.mp h with rfl | h
      · refine List.not_mem_cons_of_ne_of_not_mem (fun hslash => hc ?_) (ih List.mem_cons_self)
        exact beq_iff_eq.mpr hslash.symm
      · exact ih (List.mem_cons_of_mem _ h)

/-- Tokens that each stand after a slash stand between slashes after the first one. -/
theorem flatMap_eq_cons {tokens : List (List Char)} (h : tokens ≠ []) :
    tokens.flatMap ('/' :: ·) = '/' :: ['/'].intercalate tokens := by
  induction tokens with
  | nil => exact absurd rfl h
  | cons token rest ih =>
    cases rest with
    | nil => simp
    | cons next more =>
      rw [List.flatMap_cons, ih (List.cons_ne_nil _ _), List.intercalate_cons_cons]
      simp

/-- The tokens that are read of a pointer are those that stand after its slashes. -/
theorem tokens?_eq_some_iff {pointer : String} {keys : List String} :
    tokens? pointer = some keys
      ↔ ∃ tokens : List (List Char), pointer.toList = tokens.flatMap ('/' :: ·)
        ∧ (∀ token ∈ tokens, '/' ∉ token)
        ∧ tokens.map (fun token => String.ofList (unescape token)) = keys := by
  unfold tokens?
  constructor
  · intro h
    split at h
    · rename_i hnil
      exact ⟨[], hnil, fun _ hm => absurd hm List.not_mem_nil, Option.some.inj h⟩
    · rename_i text htext
      refine ⟨text.splitOn '/', ?_, fun _ => slash_notMem_of_mem_splitOn, Option.some.inj h⟩
      rw [htext, flatMap_eq_cons (List.splitOn_ne_nil _ _), List.intercalate_splitOn]
    · cases h
  · rintro ⟨tokens, htext, hno, rfl⟩
    cases tokens with
    | nil =>
      rw [htext]
      rfl
    | cons token rest =>
      have hsplit := List.splitOn_intercalate '/' hno (List.cons_ne_nil token rest)
      rw [htext, flatMap_eq_cons (List.cons_ne_nil _ _)]
      exact congrArg (fun pieces : List (List Char) => some (pieces.map _)) hsplit

/-- **A pointer selects the part at the end of a path that it spells**, and nothing if no such
path leads to a part. -/
theorem resolve?_eq_some_iff {pointer : String} {value part : Json} :
    resolve? pointer value = some part ↔ Selects pointer value part := by
  constructor
  · intro h
    obtain ⟨keys, hkeys, hpart⟩ := Option.bind_eq_some_iff.mp h
    obtain ⟨tokens, htext, hno, rfl⟩ := tokens?_eq_some_iff.mp hkeys
    obtain ⟨steps, hnames, hat⟩ := (foldlM_select?_eq_some_iff hno).mp hpart
    exact ⟨steps, ⟨tokens, htext, hnames⟩, hat⟩
  · rintro ⟨steps, ⟨tokens, htext, hnames⟩, hat⟩
    have hno : ∀ token ∈ tokens, '/' ∉ token := fun token hm => by
      obtain ⟨step, -, hname⟩ := exists_of_forall₂_left hnames hm
      exact hname.slash_notMem
    exact Option.bind_eq_some_iff.mpr ⟨_, tokens?_eq_some_iff.mpr ⟨tokens, htext, hno, rfl⟩,
      (foldlM_select?_eq_some_iff hno).mpr ⟨steps, hnames, hat⟩⟩

/-- A pointer that selects nothing has no part. -/
theorem resolve?_eq_none_iff {pointer : String} {value : Json} :
    resolve? pointer value = none ↔ ∀ part, ¬ Selects pointer value part := by
  rw [Option.eq_none_iff_forall_ne_some]
  exact forall_congr' fun part => resolve?_eq_some_iff.not

end Hydration.Json.Pointer
