import Hydration.Json.Basic
import Mathlib.Data.List.Forall2
import Mathlib.Data.List.Nodup

/-!
# Look-ups and parts

Facts about looking up keys in lists of entries, about the success of chained
computations, and recursion on the immediate parts of a JSON value. A look-up
with distinct keys is membership, and mapping the values of entries maps what
is found.
-/

namespace Hydration

/-- A number is read back from its decimal digits. -/
theorem ofDigitChars_repr :
    Function.LeftInverse (fun text : String => Nat.ofDigitChars 10 text.toList 0) Nat.repr := by
  intro n
  dsimp only
  rw [Nat.toList_repr, Nat.ofDigitChars_ten_toDigits]

namespace Entries

variable {κ ν μ : Type} [DecidableEq κ]

/-- A found value is one of the recorded ones. -/
theorem mem_of_get? {key : κ} {value : ν} {entries : List (κ × ν)}
    (h : get? key entries = some value) : (key, value) ∈ entries := by
  induction entries with
  | nil => cases h
  | cons entry rest ih =>
    obtain ⟨k, v⟩ := entry
    by_cases hk : k = key
    · rw [get?, if_pos hk] at h
      cases h
      subst hk
      exact List.mem_cons_self
    · rw [get?, if_neg hk] at h
      exact List.mem_cons_of_mem _ (ih h)

/-- With distinct keys, a recorded value is the one that is found. -/
theorem get?_of_mem {key : κ} {value : ν} {entries : List (κ × ν)}
    (hn : (entries.map Prod.fst).Nodup) (h : (key, value) ∈ entries) :
    get? key entries = some value := by
  induction entries with
  | nil => cases h
  | cons entry rest ih =>
    obtain ⟨k, v⟩ := entry
    rw [List.map_cons, List.nodup_cons] at hn
    rcases List.mem_cons.mp h with heq | hr
    · cases heq
      rw [get?, if_pos rfl]
    · have hk : k ≠ key := by
        rintro rfl
        exact hn.1 (List.mem_map.mpr ⟨(k, value), hr, rfl⟩)
      rw [get?, if_neg hk]
      exact ih hn.2 hr

/-- Entries with distinct keys find the same in every order. -/
theorem get?_eq_of_perm {entries entries' : List (κ × ν)}
    (hn : (entries.map Prod.fst).Nodup) (h : entries.Perm entries') (key : κ) :
    get? key entries = get? key entries' := by
  have hn' : (entries'.map Prod.fst).Nodup := (h.map Prod.fst).nodup_iff.mp hn
  ext value
  constructor
  · exact fun hg => get?_of_mem hn' (h.mem_iff.mp (mem_of_get? hg))
  · exact fun hg => get?_of_mem hn (h.mem_iff.mpr (mem_of_get? hg))

/-- A key that is not recorded is not found. -/
theorem get?_eq_none_iff {key : κ} {entries : List (κ × ν)} :
    get? key entries = none ↔ key ∉ entries.map Prod.fst := by
  induction entries with
  | nil => simp
  | cons entry rest ih =>
    obtain ⟨k, v⟩ := entry
    by_cases hk : k = key
    · simp [get?, hk]
    · have hk' : key ≠ k := fun h => hk h.symm
      simp [get?, hk, hk', ih]

/-- A new key goes last. -/
theorem insert_of_notMem {key : κ} {value : ν} {entries : List (κ × ν)}
    (h : key ∉ entries.map Prod.fst) : insert key value entries = entries ++ [(key, value)] := by
  induction entries with
  | nil => rfl
  | cons entry rest ih =>
    obtain ⟨k, v⟩ := entry
    rw [List.map_cons, List.mem_cons, not_or] at h
    rw [insert, if_neg (Ne.symm h.1), ih h.2, List.cons_append]

/-- Mapping the values of entries maps the value that is found. -/
theorem get?_mapValues (f : ν → μ) (key : κ) (entries : List (κ × ν)) :
    get? key (entries.map fun entry => (entry.1, f entry.2)) = (get? key entries).map f := by
  induction entries with
  | nil => rfl
  | cons entry rest ih =>
    obtain ⟨k, v⟩ := entry
    by_cases hk : k = key
    · simp [get?, hk]
    · simp [get?, hk, ih]

end Entries

namespace OrderedMap

variable {κ ν : Type} [DecidableEq κ]

/-- A key has a value exactly when it is recorded. -/
theorem mem_keys_iff {m : OrderedMap κ ν} {key : κ} :
    key ∈ m.keys ↔ ∃ value, m.get? key = some value := by
  rw [← Option.ne_none_iff_exists', Ne, get?, Entries.get?_eq_none_iff, not_not]
  rfl

/-- A key and a value are recorded together when the key has the value. -/
theorem mem_entries_iff {m : OrderedMap κ ν} {key : κ} {value : ν} :
    (key, value) ∈ m.entries ↔ m.get? key = some value :=
  ⟨Entries.get?_of_mem m.nodup, Entries.mem_of_get?⟩

/-- Two maps record the same when their look-ups do. -/
theorem perm_entries_iff {m m' : OrderedMap κ ν} :
    m.entries.Perm m'.entries ↔ ∀ key, m.get? key = m'.get? key := by
  rw [List.perm_ext_iff_of_nodup m.nodup.of_map m'.nodup.of_map]
  constructor
  · intro h key
    ext value
    rw [← mem_entries_iff, ← mem_entries_iff]
    exact h (key, value)
  · rintro h ⟨key, value⟩
    rw [mem_entries_iff, mem_entries_iff, h]

/-- A key is recorded after an insertion if it was or is the inserted one. -/
theorem mem_keys_insert (m : OrderedMap κ ν) (key other : κ) (value : ν) :
    other ∈ (m.insert key value).keys ↔ other ∈ m.keys ∨ other = key := by
  rw [keys_insert]
  split
  · rename_i hm
    constructor
    · exact Or.inl
    · rintro (h | rfl)
      · exact h
      · exact hm
  · rw [List.mem_append, List.mem_singleton]

/-- Entries with distinct keys are recorded as they are. -/
theorem entries_ofList {entries : List (κ × ν)} (h : (entries.map Prod.fst).Nodup) :
    (ofList entries).entries = entries := by
  suffices hfold : ∀ (rest : List (κ × ν)) (m : OrderedMap κ ν),
      ((m.entries ++ rest).map Prod.fst).Nodup →
      (rest.foldl (fun m entry => m.insert entry.1 entry.2) m).entries = m.entries ++ rest from
    hfold entries empty h
  intro rest
  induction rest with
  | nil =>
    intro m _
    exact (List.append_nil _).symm
  | cons entry rest ih =>
    intro m hn
    have hsplit : m.entries ++ entry :: rest = (m.entries ++ [entry]) ++ rest := by simp
    have hnew : entry.1 ∉ m.entries.map Prod.fst := by
      rw [List.map_append, List.map_cons] at hn
      exact fun hm => (List.disjoint_of_nodup_append hn) hm List.mem_cons_self
    have hinsert : (m.insert entry.1 entry.2).entries = m.entries ++ [entry] :=
      Entries.insert_of_notMem hnew
    rw [List.foldl_cons, ih _ (by rw [hinsert, ← hsplit]; exact hn), hinsert, hsplit]

/-- Entries made from a list with distinct keys are recorded as they are. -/
theorem entries_ofList_map {α : Type} {list : List α} (key : α → κ) (value : α → ν)
    (h : (list.map key).Nodup) :
    (ofList (list.map fun a => (key a, value a))).entries
      = list.map fun a => (key a, value a) := by
  refine entries_ofList ?_
  rw [List.map_map]
  exact h

/-- What holds of the recorded values and of an inserted one holds of all values
after the insertion. -/
theorem forall_get?_insert {m : OrderedMap κ ν} {P : κ → ν → Prop} {key : κ} {value : ν}
    (hnew : P key value) (hold : ∀ k v, m.get? k = some v → P k v) :
    ∀ k v, (m.insert key value).get? k = some v → P k v := by
  intro k v h
  rw [get?_insert] at h
  split at h
  · rename_i hk
    cases h
    exact hk ▸ hnew
  · exact hold k v h

end OrderedMap

/-- A relation between the elements of two lists may be replaced by one that it
implies for their elements. -/
theorem forall₂_imp_of_mem {α β : Type} {R S : α → β → Prop} {l : List α} {m : List β}
    (h : List.Forall₂ R l m) (himp : ∀ a ∈ l, ∀ b ∈ m, R a b → S a b) : List.Forall₂ S l m := by
  induction h with
  | nil => exact .nil
  | cons hr _ ih =>
    refine .cons (himp _ List.mem_cons_self _ List.mem_cons_self hr) (ih fun a ha b hb => ?_)
    exact himp a (List.mem_cons_of_mem _ ha) b (List.mem_cons_of_mem _ hb)

/-- What is related from the left to an element of the second list is in the first. -/
theorem exists_of_forall₂_right {α β : Type} {R : α → β → Prop} {l : List α} {m : List β}
    (h : List.Forall₂ R l m) {b : β} (hb : b ∈ m) : ∃ a ∈ l, R a b := by
  induction h with
  | nil => cases hb
  | cons hr _ ih =>
    rcases List.mem_cons.mp hb with rfl | hb
    · exact ⟨_, List.mem_cons_self, hr⟩
    · obtain ⟨a, ha, hab⟩ := ih hb
      exact ⟨a, List.mem_cons_of_mem _ ha, hab⟩

/-- What is related from the right to an element of the first list is in the second. -/
theorem exists_of_forall₂_left {α β : Type} {R : α → β → Prop} {l : List α} {m : List β}
    (h : List.Forall₂ R l m) {a : α} (ha : a ∈ l) : ∃ b ∈ m, R a b := by
  induction h with
  | nil => cases ha
  | cons hr _ ih =>
    rcases List.mem_cons.mp ha with rfl | ha
    · exact ⟨_, List.mem_cons_self, hr⟩
    · obtain ⟨b, hb, hab⟩ := ih ha
      exact ⟨b, List.mem_cons_of_mem _ hb, hab⟩

/-- What is related from the left to an element of the second list stands at its place. -/
theorem getElem?_of_forall₂ {α β : Type} {R : α → β → Prop} {l : List α} {m : List β}
    (h : List.Forall₂ R l m) {index : Nat} {b : β} (hb : m[index]? = some b) :
    ∃ a, l[index]? = some a ∧ R a b := by
  induction h generalizing index with
  | nil => cases hb
  | cons hr _ ih =>
    cases index with
    | zero =>
      cases hb
      exact ⟨_, rfl, hr⟩
    | succ index => exact ih hb

/-- Related lists have the same images if related elements do. -/
theorem map_eq_of_forall₂ {α β γ : Type} {R : α → β → Prop} {f : α → γ} {g : β → γ}
    {l : List α} {m : List β} (h : List.Forall₂ R l m) (hR : ∀ a b, R a b → f a = g b) :
    l.map f = m.map g := by
  induction h with
  | nil => rfl
  | cons hr _ ih => rw [List.map_cons, List.map_cons, ih, hR _ _ hr]

/-- A relation that holds of what a function computes relates a list to what is computed of its
elements. -/
theorem forall₂_iff_map_eq {α β : Type} {R : α → β → Prop} {f : α → β}
    (h : ∀ a b, R a b ↔ f a = b) {l : List α} {m : List β} :
    List.Forall₂ R l m ↔ l.map f = m := by
  constructor
  · intro hR
    rw [map_eq_of_forall₂ hR fun a b => (h a b).mp, List.map_id']
  · rintro rfl
    induction l with
    | nil => exact .nil
    | cons a rest ih => exact .cons ((h a (f a)).mpr rfl) ih

/-- If every element is related to something, the list is related to a list. -/
theorem exists_forall₂ {α β : Type} {R : α → β → Prop} {l : List α}
    (h : ∀ a ∈ l, ∃ b, R a b) : ∃ m, List.Forall₂ R l m := by
  induction l with
  | nil => exact ⟨[], .nil⟩
  | cons a rest ih =>
    obtain ⟨b, hb⟩ := h a List.mem_cons_self
    obtain ⟨m, hm⟩ := ih fun a' ha => h a' (List.mem_cons_of_mem _ ha)
    exact ⟨b :: m, .cons hb hm⟩

/-- A chain succeeds when its first part does and its second part does on the
result. -/
theorem bind_eq_ok {ε α β : Type} {x : Except ε α} {f : α → Except ε β} {b : β} :
    (x >>= f) = .ok b ↔ ∃ a, x = .ok a ∧ f a = .ok b := by
  cases x with
  | error e =>
    constructor
    · intro h
      cases h
    · rintro ⟨a, h, _⟩
      cases h
  | ok a =>
    constructor
    · intro h
      exact ⟨a, rfl, h⟩
    · rintro ⟨a', ha, h⟩
      cases ha
      exact h

/-- A mapped computation succeeds when the computation does. -/
theorem map_eq_ok {ε α β : Type} {x : Except ε α} {f : α → β} {b : β} :
    x.map f = .ok b ↔ ∃ a, x = .ok a ∧ f a = b := by
  cases x <;> simp [Except.map]

/-- A chain fails when its first part does or its second part does on the result. -/
theorem bind_eq_error {ε α β : Type} {x : Except ε α} {f : α → Except ε β} {e : ε} :
    (x >>= f) = .error e ↔ x = .error e ∨ ∃ a, x = .ok a ∧ f a = .error e := by
  cases x with
  | error e' =>
    constructor
    · intro h
      cases h
      exact Or.inl rfl
    · rintro (h | ⟨a, h, -⟩)
      · cases h
        rfl
      · cases h
  | ok a =>
    constructor
    · intro h
      exact Or.inr ⟨a, rfl, h⟩
    · rintro (h | ⟨a', ha, h⟩)
      · cases h
      · cases ha
        exact h

/-- A mapped computation fails when the computation does. -/
theorem map_eq_error {ε α β : Type} {x : Except ε α} {f : α → β} {e : ε} :
    x.map f = .error e ↔ x = .error e := by
  cases x <;> simp [Except.map]

/-- A map that tells values apart tells results apart. -/
theorem map_injective {ε α β : Type} {f : α → β} (hf : Function.Injective f) :
    Function.Injective (Except.map f : Except ε α → Except ε β) := by
  intro x y h
  cases x <;> cases y <;> simp_all [Except.map, hf.eq_iff]

/-- A result that is only wrapped fails where it does. -/
theorem bind_pure_eq_error {ε α β : Type} {x : Except ε α} {f : α → β} {e : ε} :
    (x >>= fun a => pure (f a)) = .error e ↔ x = .error e := map_eq_error

/-- A list is computed element by element, and the first failure is that of all. -/
theorem cons_eq_error {ε α β : Type} {x : Except ε α} {rest : Except ε (List β)} {f : α → β}
    {e : ε} :
    (do let a ← x; return f a :: (← rest)) = .error e
      ↔ x = .error e ∨ (∃ a, x = .ok a) ∧ rest = .error e := by
  cases x with
  | error e' => simp [bind, Except.bind]
  | ok a => cases rest <;> simp [bind, Except.bind, pure, Except.pure]

/-- The failure of a computation. -/
def failure? {ε α : Type} : Except ε α → Option ε
  | .error e => some e
  | .ok _ => none

/-- The failure of a result is its error. -/
theorem failure?_eq_some_iff {ε α : Type} {x : Except ε α} {e : ε} :
    failure? x = some e ↔ x = .error e := by
  cases x <;> simp [failure?]

/-- A result without a failure has a value. -/
theorem failure?_eq_none_iff {ε α : Type} {x : Except ε α} :
    failure? x = none ↔ ∃ a, x = .ok a := by
  cases x <;> simp [failure?]

/-- A chain fails as its first part does, and otherwise as its second part does whatever
the result of the first is. -/
theorem failure?_bind {ε α β : Type} {x : Except ε α} {f : α → Except ε β} {e : Option ε}
    (h : ∀ a, x = .ok a → failure? (f a) = e) : failure? (x >>= f) = (failure? x).or e := by
  cases x with
  | error e' => rfl
  | ok a => exact h a rfl

/-- A chain whose second part does not fail fails as its first part does. -/
theorem failure?_bind_of_ok {ε α β : Type} {x : Except ε α} {f : α → Except ε β}
    (h : ∀ a, ∃ b, f a = .ok b) : failure? (x >>= f) = failure? x := by
  rw [failure?_bind fun a _ => failure?_eq_none_iff.mpr (h a), Option.or_none]

/-- An element has a property at its place, after elements that have another one. -/
def FirstAfter {α : Type} (P : α → Prop) (Q : Nat → α → Prop) (l : List α) : Prop :=
  ∃ front a back, l = front ++ a :: back ∧ (∀ b ∈ front, P b) ∧ Q front.length a

theorem not_firstAfter_nil {α : Type} {P : α → Prop} {Q : Nat → α → Prop} :
    ¬FirstAfter P Q [] := by
  rintro ⟨front, a, back, h, -⟩
  exact List.append_ne_nil_of_right_ne_nil _ (List.cons_ne_nil _ _) h.symm

/-- It is the first element, or the first one has the other property and it is
one of the rest. -/
theorem firstAfter_cons {α : Type} {P : α → Prop} {Q : Nat → α → Prop} {a : α} {l : List α} :
    FirstAfter P Q (a :: l) ↔ Q 0 a ∨ P a ∧ FirstAfter P (fun index => Q (index + 1)) l := by
  constructor
  · rintro ⟨front, b, back, h, hp, hq⟩
    cases front with
    | nil =>
      cases h
      exact Or.inl hq
    | cons c front =>
      cases h
      exact Or.inr ⟨hp a List.mem_cons_self, front, b, back, rfl,
        fun d hd => hp d (List.mem_cons_of_mem _ hd), hq⟩
  · rintro (hq | ⟨ha, front, b, back, rfl, hp, hq⟩)
    · exact ⟨[], a, l, rfl, by simp, hq⟩
    · refine ⟨a :: front, b, back, rfl, fun c hc => ?_, hq⟩
      rcases List.mem_cons.mp hc with rfl | hc
      · exact ha
      · exact hp c hc

/-- Naming the failure of a computation otherwise changes no success. -/
theorem mapError_eq_ok {ε δ α : Type} {x : Except ε α} {f : ε → δ} {a : α} :
    x.mapError f = .ok a ↔ x = .ok a := by
  cases x <;> simp [Except.mapError]

namespace Json

/-- The immediate parts of a value: the elements of an array and the values of
the members of an object. -/
def parts : Json → List Json
  | array items => items
  | object members => members.map Prod.snd
  | _ => []

/-- A part is smaller than the whole. -/
theorem sizeOf_lt_of_mem_parts {part value : Json} (h : part ∈ value.parts) :
    sizeOf part < sizeOf value := by
  cases value with
  | array items =>
    have hlt := List.sizeOf_lt_of_mem (show part ∈ items from h)
    rw [array.sizeOf_spec]
    omega
  | object members =>
    obtain ⟨member, hm, rfl⟩ := List.mem_map.mp (show part ∈ members.map Prod.snd from h)
    have hlt := List.sizeOf_lt_of_mem hm
    obtain ⟨key, value⟩ := member
    rw [Prod.mk.sizeOf_spec] at hlt
    rw [object.sizeOf_spec]
    dsimp only
    omega
  | _ => cases h

/-- What holds of a value whenever it holds of its parts holds of every value. -/
theorem inductParts {motive : Json → Prop}
    (step : ∀ value, (∀ part ∈ value.parts, motive part) → motive value) (value : Json) :
    motive value :=
  step value fun part _hp => inductParts step part
termination_by sizeOf value
decreasing_by exact sizeOf_lt_of_mem_parts _hp

end Json

end Hydration
