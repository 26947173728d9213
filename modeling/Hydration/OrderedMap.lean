/-!
# Ordered maps and sets

Associations that keep the order in which their keys were first recorded. A
key recorded again keeps its place and takes the new value. The two views are
`OrderedMap.get?` and `OrderedMap.keys`; `get?_insert` and `keys_insert` say
what recording does to each. Ordered sets keep the first of equal elements.
-/

namespace Hydration

namespace Entries

variable {κ ν : Type} [DecidableEq κ]

/-- The value of the first entry with the given key. -/
def get? (key : κ) : List (κ × ν) → Option ν
  | [] => none
  | (k, v) :: rest => if k = key then some v else get? key rest

/-- Record a value: a known key keeps its place, a new key goes last. -/
def insert (key : κ) (value : ν) : List (κ × ν) → List (κ × ν)
  | [] => [(key, value)]
  | (k, v) :: rest =>
    if k = key then (k, value) :: rest else (k, v) :: insert key value rest

/-- Entries recorded one after the other. -/
def ofList (entries : List (κ × ν)) : List (κ × ν) :=
  entries.foldl (fun recorded entry => insert entry.1 entry.2 recorded) []

@[simp] theorem get?_nil (key : κ) : get? key ([] : List (κ × ν)) = none := rfl

/-- Recording changes the recorded key only. -/
theorem get?_insert (key other : κ) (value : ν) (entries : List (κ × ν)) :
    get? other (insert key value entries)
      = if key = other then some value else get? other entries := by
  induction entries with
  | nil => simp [insert, get?]
  | cons entry rest ih =>
    obtain ⟨k, v⟩ := entry
    by_cases hk : k = key
    · subst hk
      by_cases ho : k = other <;> simp [insert, get?, ho]
    · by_cases ho : k = other
      · subst ho
        simp [insert, get?, hk, Ne.symm hk]
      · simp [insert, get?, hk, ho, ih]

/-- Recording adds a key at the end unless the key is known. -/
theorem keys_insert (key : κ) (value : ν) (entries : List (κ × ν)) :
    (insert key value entries).map Prod.fst
      = if key ∈ entries.map Prod.fst then entries.map Prod.fst
        else entries.map Prod.fst ++ [key] := by
  induction entries with
  | nil => simp [insert]
  | cons entry rest ih =>
    obtain ⟨k, v⟩ := entry
    by_cases hk : k = key
    · subst hk
      simp [insert]
    · by_cases hm : key ∈ rest.map Prod.fst
      · rw [if_pos hm] at ih
        simp [insert, hk, ih, hm]
      · rw [if_neg hm] at ih
        have hne : key ≠ k := fun h => hk h.symm
        simp [insert, hk, ih, hm, hne]

/-- Recording keeps the keys distinct. -/
theorem nodup_insert (key : κ) (value : ν) {entries : List (κ × ν)}
    (h : (entries.map Prod.fst).Nodup) : ((insert key value entries).map Prod.fst).Nodup := by
  rw [keys_insert]
  split
  · exact h
  · rename_i hm
    rw [List.nodup_append]
    refine ⟨h, by simp, ?_⟩
    intro a ha b hb
    rw [List.mem_singleton] at hb
    subst hb
    intro hab
    exact hm (hab ▸ ha)

end Entries

/-- An association that remembers the order of its keys. -/
structure OrderedMap (κ ν : Type) where
  /-- The recorded keys and their values, in order. -/
  entries : List (κ × ν)
  /-- No key is recorded twice. -/
  nodup : (entries.map Prod.fst).Nodup

namespace OrderedMap

variable {κ ν μ : Type}

/-- Two maps are equal when their entries are. -/
theorem ext {a b : OrderedMap κ ν} (h : a.entries = b.entries) : a = b := by
  cases a
  cases b
  cases h
  rfl

instance [DecidableEq κ] [DecidableEq ν] : DecidableEq (OrderedMap κ ν) := fun a b =>
  if h : a.entries = b.entries then isTrue (ext h) else isFalse fun hab => h (hab ▸ rfl)

/-- The map without entries. -/
def empty : OrderedMap κ ν := ⟨[], List.nodup_nil⟩

instance : Inhabited (OrderedMap κ ν) := ⟨empty⟩

/-- The recorded keys, in order. -/
def keys (m : OrderedMap κ ν) : List κ := m.entries.map Prod.fst

/-- The recorded values, in the order of their keys. -/
def values (m : OrderedMap κ ν) : List ν := m.entries.map Prod.snd

/-- The number of recorded keys. -/
def size (m : OrderedMap κ ν) : Nat := m.entries.length

/-- Whether nothing is recorded. -/
def isEmpty (m : OrderedMap κ ν) : Bool := m.entries.isEmpty

/-- The same keys with every value mapped. -/
def mapValues (f : κ → ν → μ) (m : OrderedMap κ ν) : OrderedMap κ μ where
  entries := m.entries.map fun entry => (entry.1, f entry.1 entry.2)
  nodup := by
    rw [List.map_map]
    exact m.nodup

variable [DecidableEq κ]

/-- The value of a key. -/
def get? (m : OrderedMap κ ν) (key : κ) : Option ν := Entries.get? key m.entries

/-- Whether a key is recorded. -/
def contains (m : OrderedMap κ ν) (key : κ) : Bool := (m.get? key).isSome

/-- Record a value: a known key keeps its place, a new key goes last. -/
def insert (m : OrderedMap κ ν) (key : κ) (value : ν) : OrderedMap κ ν :=
  ⟨Entries.insert key value m.entries, Entries.nodup_insert key value m.nodup⟩

/-- Entries recorded one after the other. -/
def ofList (entries : List (κ × ν)) : OrderedMap κ ν :=
  entries.foldl (fun m entry => m.insert entry.1 entry.2) empty

/-- Recording changes the recorded key only. -/
theorem get?_insert (m : OrderedMap κ ν) (key other : κ) (value : ν) :
    (m.insert key value).get? other = if key = other then some value else m.get? other :=
  Entries.get?_insert key other value m.entries

/-- Recording adds a key at the end unless the key is known. -/
theorem keys_insert (m : OrderedMap κ ν) (key : κ) (value : ν) :
    (m.insert key value).keys = if key ∈ m.keys then m.keys else m.keys ++ [key] :=
  Entries.keys_insert key value m.entries

end OrderedMap

/-- A list of distinct elements in the order of their first mention. -/
structure OrderedSet (α : Type) where
  /-- The elements, in order. -/
  toList : List α
  /-- No element occurs twice. -/
  nodup : toList.Nodup

namespace OrderedSet

variable {α : Type}

/-- Two sets are equal when their lists are. -/
theorem ext {a b : OrderedSet α} (h : a.toList = b.toList) : a = b := by
  cases a
  cases b
  cases h
  rfl

instance [DecidableEq α] : DecidableEq (OrderedSet α) := fun a b =>
  if h : a.toList = b.toList then isTrue (ext h) else isFalse fun hab => h (hab ▸ rfl)

/-- The set without elements. -/
def empty : OrderedSet α := ⟨[], List.nodup_nil⟩

instance : Inhabited (OrderedSet α) := ⟨empty⟩

variable [DecidableEq α]

/-- Whether an element belongs to the set. -/
def contains (s : OrderedSet α) (a : α) : Bool := decide (a ∈ s.toList)

/-- Add an element at the end unless it is known. -/
def insert (s : OrderedSet α) (a : α) : OrderedSet α :=
  if h : a ∈ s.toList then s
  else ⟨s.toList ++ [a], by
    rw [List.nodup_append]
    refine ⟨s.nodup, by simp, ?_⟩
    intro x hx y hy
    rw [List.mem_singleton] at hy
    subst hy
    intro hxy
    exact h (hxy ▸ hx)⟩

/-- The distinct elements of a list, each at its first mention. -/
def ofList (elements : List α) : OrderedSet α := elements.foldl insert empty

/-- Adding makes an element a member and keeps the others. -/
theorem mem_insert (s : OrderedSet α) (a b : α) :
    b ∈ (s.insert a).toList ↔ b ∈ s.toList ∨ b = a := by
  unfold insert
  split
  · rename_i h
    constructor
    · exact Or.inl
    · rintro (hb | rfl)
      · exact hb
      · exact h
  · simp

end OrderedSet

end Hydration
