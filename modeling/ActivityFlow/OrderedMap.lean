/-!
# Maps that keep the order of insertion

Definitions, instances, variables, registrations and stored records are all listed in the order in
which they first appeared.  One map stands behind them.  It is a list of entries, each a spelling of
a key with a value, and two spellings are the same key when a function `canon` takes them to the
same canonical form.  No two entries have the same key, an invariant that the type carries.

* `KeyedMap canon α` — the map.  `OrderedMap κ α` is the case where every spelling is its own key.
* `get?` — the value of a key.
* `put` — writes a value: in place, under the spelling of the first write, when the key is present;
  at the end otherwise.
* `erase` — removes a key; written again, it stands at the end under its new spelling.
* `keys` — the spellings in order.

**The laws.**  `get?_put`, `get?_erase`, `keys_put` and `keys_erase` say what each operation does to
the two views `get?` and `keys`, and `isSome_get?_iff` ties the views together.
-/

namespace ActivityFlow

universe u v w

variable {ς : Type u} {κ : Type v} {α : Type w}

/-- A map in order of insertion, with keys compared by their canonical form. -/
structure KeyedMap (canon : ς → κ) (α : Type w) where
  entries : List (ς × α)
  nodup : (entries.map fun entry => canon entry.1).Nodup

/-- A map in order of insertion whose keys have one spelling each. -/
abbrev OrderedMap (κ : Type u) (α : Type w) := KeyedMap (id : κ → κ) α

namespace KeyedMap

variable {canon : ς → κ} [DecidableEq κ]

/-! ## Entries -/

/-- The value of the entry with a key. -/
def lookup (canon : ς → κ) (key : ς) : List (ς × α) → Option α
  | [] => none
  | entry :: rest => if canon entry.1 = canon key then some entry.2 else lookup canon key rest

/-- The entries with a value written under a key. -/
def write (canon : ς → κ) (key : ς) (value : α) : List (ς × α) → List (ς × α)
  | [] => [(key, value)]
  | entry :: rest =>
    if canon entry.1 = canon key then (entry.1, value) :: rest
    else entry :: write canon key value rest

theorem map_fst_write (canon : ς → κ) (key : ς) (value : α) (entries : List (ς × α)) :
    (write canon key value entries).map Prod.fst =
      if ∃ entry ∈ entries, canon entry.1 = canon key then entries.map Prod.fst
      else entries.map Prod.fst ++ [key] := by
  induction entries with
  | nil => simp [write]
  | cons entry rest ih =>
    by_cases h : canon entry.1 = canon key
    · simp [write, h]
    · have hk : (∃ e ∈ entry :: rest, canon e.1 = canon key) ↔
          ∃ e ∈ rest, canon e.1 = canon key := by
        simp only [List.mem_cons, or_and_right, exists_or, exists_eq_left, h, false_or]
      simp only [write, if_neg h, List.map_cons, ih, hk]
      split <;> rfl

theorem map_canon_write (key : ς) (value : α) (entries : List (ς × α)) :
    ((write canon key value entries).map fun entry => canon entry.1) =
      if ∃ entry ∈ entries, canon entry.1 = canon key then entries.map fun entry => canon entry.1
      else (entries.map fun entry => canon entry.1) ++ [canon key] := by
  have h := congrArg (List.map canon) (map_fst_write canon key value entries)
  simp only [List.map_map] at h
  split
  · rename_i hk
    rw [if_pos hk, List.map_map] at h
    exact h
  · rename_i hk
    rw [if_neg hk, List.map_append, List.map_map] at h
    exact h

theorem nodup_write (key : ς) (value : α) {entries : List (ς × α)}
    (h : (entries.map fun entry => canon entry.1).Nodup) :
    ((write canon key value entries).map fun entry => canon entry.1).Nodup := by
  rw [map_canon_write]
  split
  · exact h
  · rename_i hk
    rw [List.nodup_append]
    refine ⟨h, by simp, fun a ha b hb e => hk ?_⟩
    obtain ⟨entry, he, rfl⟩ := List.mem_map.1 ha
    rw [List.mem_singleton] at hb
    exact ⟨entry, he, e.trans hb⟩

theorem lookup_write (key other : ς) (value : α) (entries : List (ς × α)) :
    lookup canon other (write canon key value entries) =
      if canon other = canon key then some value else lookup canon other entries := by
  induction entries with
  | nil =>
    by_cases h : canon other = canon key
    · simp [write, lookup, h]
    · simp [write, lookup, h, Ne.symm h]
  | cons entry rest ih =>
    by_cases he : canon entry.1 = canon key
    · by_cases h : canon other = canon key
      · simp [write, lookup, he, h]
      · simp [write, lookup, he, h, Ne.symm h]
    · by_cases ho : canon entry.1 = canon other
      · have h : canon other ≠ canon key := fun e => he (ho.trans e)
        simp [write, lookup, ho, h]
      · simp [write, lookup, he, ho, ih]

theorem lookup_eq_none_iff {key : ς} {entries : List (ς × α)} :
    lookup canon key entries = none ↔ ∀ entry ∈ entries, canon entry.1 ≠ canon key := by
  induction entries with
  | nil => simp [lookup]
  | cons entry rest ih =>
    by_cases h : canon entry.1 = canon key
    · simp [lookup, h]
    · simp [lookup, h, ih]

theorem lookup_filter_ne (key other : ς) (entries : List (ς × α)) :
    lookup canon other (entries.filter fun entry => canon entry.1 ≠ canon key) =
      if canon other = canon key then none else lookup canon other entries := by
  induction entries with
  | nil => simp [lookup]
  | cons entry rest ih =>
    by_cases he : canon entry.1 = canon key
    · by_cases h : canon other = canon key
      · simp_all
      · have : canon entry.1 ≠ canon other := fun e => h (e.symm.trans he)
        simp_all [lookup]
    · by_cases ho : canon entry.1 = canon other
      · have h : canon other ≠ canon key := fun e => he (ho.trans e)
        simp_all [lookup]
      · simp_all [lookup]

/-! ## Operations -/

/-- The map without entries. -/
def empty : KeyedMap canon α := ⟨[], by simp⟩

instance : Inhabited (KeyedMap canon α) := ⟨empty⟩

/-- The value of a key. -/
def get? (m : KeyedMap canon α) (key : ς) : Option α :=
  lookup canon key m.entries

/-- Whether a key is present. -/
def contains (m : KeyedMap canon α) (key : ς) : Bool :=
  (m.get? key).isSome

/-- The spellings of the keys in order. -/
def keys (m : KeyedMap canon α) : List ς :=
  m.entries.map Prod.fst

/-- The number of entries. -/
def size (m : KeyedMap canon α) : Nat :=
  m.entries.length

/-- Write a value under a key. -/
def put (m : KeyedMap canon α) (key : ς) (value : α) : KeyedMap canon α :=
  ⟨write canon key value m.entries, nodup_write key value m.nodup⟩

/-- Remove a key. -/
def erase (m : KeyedMap canon α) (key : ς) : KeyedMap canon α :=
  ⟨m.entries.filter fun entry => canon entry.1 ≠ canon key,
    m.nodup.sublist (List.Sublist.map _ List.filter_sublist)⟩

/-- Write several values, one after the other. -/
def putAll (m : KeyedMap canon α) (pairs : List (ς × α)) : KeyedMap canon α :=
  pairs.foldl (fun m pair => m.put pair.1 pair.2) m

/-- The map of a list of pairs. -/
def ofList (pairs : List (ς × α)) : KeyedMap canon α :=
  empty.putAll pairs

/-! ## Laws -/

@[simp] theorem get?_empty (key : ς) : (empty : KeyedMap canon α).get? key = none := rfl

theorem get?_put (m : KeyedMap canon α) (key other : ς) (value : α) :
    (m.put key value).get? other =
      if canon other = canon key then some value else m.get? other :=
  lookup_write key other value m.entries

@[simp] theorem get?_put_self (m : KeyedMap canon α) (key : ς) (value : α) :
    (m.put key value).get? key = some value := by
  simp [get?_put]

theorem get?_erase (m : KeyedMap canon α) (key other : ς) :
    (m.erase key).get? other = if canon other = canon key then none else m.get? other :=
  lookup_filter_ne key other m.entries

/-- A key is present exactly when one of the spellings is a spelling of it. -/
theorem isSome_get?_iff {m : KeyedMap canon α} {key : ς} :
    (m.get? key).isSome ↔ ∃ spelling ∈ m.keys, canon spelling = canon key := by
  rw [Option.isSome_iff_ne_none, get?, ne_eq, lookup_eq_none_iff, keys]
  simp

theorem keys_put (m : KeyedMap canon α) (key : ς) (value : α) :
    (m.put key value).keys = if m.contains key then m.keys else m.keys ++ [key] := by
  have h := map_fst_write canon key value m.entries
  have hk : (∃ entry ∈ m.entries, canon entry.1 = canon key) ↔ m.contains key = true := by
    rw [contains, isSome_get?_iff, keys]
    constructor
    · rintro ⟨entry, he, e⟩
      exact ⟨entry.1, List.mem_map_of_mem he, e⟩
    · rintro ⟨_, hs, e⟩
      obtain ⟨entry, he, rfl⟩ := List.mem_map.1 hs
      exact ⟨entry, he, e⟩
  simp only [keys, put, h, hk]

theorem keys_erase (m : KeyedMap canon α) (key : ς) :
    (m.erase key).keys = m.keys.filter fun spelling => canon spelling ≠ canon key := by
  simp only [keys, erase, List.filter_map]
  rfl

/-- Whatever is written, no key is lost and none changes its place. -/
theorem prefix_keys_putAll (m : KeyedMap canon α) (pairs : List (ς × α)) :
    m.keys <+: (m.putAll pairs).keys := by
  induction pairs generalizing m with
  | nil => exact List.prefix_refl _
  | cons pair rest ih =>
    refine List.IsPrefix.trans ?_ (ih (m.put pair.1 pair.2))
    rw [keys_put]
    split
    · exact List.prefix_refl _
    · exact List.prefix_append _ _

theorem size_erase_lt {m : KeyedMap canon α} {key : ς} (h : m.contains key) :
    (m.erase key).size < m.size := by
  obtain ⟨spelling, hmem, hcanon⟩ := isSome_get?_iff.1 h
  obtain ⟨entry, hentry, rfl⟩ := List.mem_map.1 hmem
  rw [size, size, erase, List.length_filter_lt_length_iff_exists]
  exact ⟨entry, hentry, by simp [hcanon]⟩

omit [DecidableEq κ] in
theorem nodup_keys (m : KeyedMap canon α) : (m.keys.map canon).Nodup := by
  have h := m.nodup
  rwa [keys, List.map_map]

omit [DecidableEq κ] in
theorem length_keys (m : KeyedMap canon α) : m.keys.length = m.size := by
  simp [keys, size]

end KeyedMap

end ActivityFlow
