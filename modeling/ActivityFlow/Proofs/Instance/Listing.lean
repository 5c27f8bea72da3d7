import ActivityFlow.OrderedMap
import Mathlib.Data.List.Basic
import Mathlib.Data.List.Induction

/-!
# In which order a map lists its keys

A map lists a key under the spelling of the write that brought the key in, and at the place of that
write.  Which writes brought in a key that is still there can be read off from the history of the
map, without the map: the key was not there when it was written, and nothing removed it since.

* `KeyChange` — a write or a removal, as far as the keys are concerned.
* `isThere` — what a history says of a key, read from its end.
* `founders` — the spellings of the writes that brought in the keys which are there at the end.
* **`Recorded`** — a map lists the founders of its history.  It holds of the empty map, and every
  write and every removal carries it on (`Recorded.put`, `Recorded.erase`).

The last section says that the entries of a map are its keys with what is found under them, so that
two maps which list the same keys and answer the same are equal.
-/

namespace ActivityFlow

universe u v w

variable {ς : Type u} {κ : Type v} {α : Type w}

/-- A change to the keys of a map. -/
inductive KeyChange (ς : Type u) where
  | written (key : ς)
  | removed (key : ς)
  deriving DecidableEq

/-- The key that a change is about. -/
def KeyChange.key : KeyChange ς → ς
  | written key => key
  | removed key => key

section

variable (canon : ς → κ) [DecidableEq κ]

/-- What a change says of a key, if it says anything: whether the key is there from then on. -/
def KeyChange.tells? (key : ς) : KeyChange ς → Option Bool
  | written other => if canon key = canon other then some true else none
  | removed other => if canon key = canon other then some false else none

/-- Whether a change removes a key. -/
def KeyChange.removes (key : ς) : KeyChange ς → Bool
  | written _ => false
  | removed other => canon key = canon other

/-- Whether a key is there at the end of a history. -/
def isThere (history : List (KeyChange ς)) (key : ς) : Bool :=
  (history.reverse.findSome? (KeyChange.tells? canon key)).getD false

/-- A change between two parts of a history brings its key in for good: it writes the key when it
    is not there, and the key is not removed afterwards. -/
def KeyChange.founds (before : List (KeyChange ς)) (change : KeyChange ς)
    (rest : List (KeyChange ς)) : Bool :=
  match change with
  | written key => !isThere canon before key && !rest.any (removes canon key)
  | removed _ => false

/-- The spellings under which the rest of a history brings in keys for good. -/
def foundersFrom (before : List (KeyChange ς)) : List (KeyChange ς) → List ς
  | [] => []
  | change :: rest =>
    (if change.founds canon before rest then [change.key] else []) ++
      foundersFrom (before ++ [change]) rest

/-- **The spellings under which a history brings in keys for good**, in the order of the writes. -/
def founders (history : List (KeyChange ς)) : List ς :=
  foundersFrom canon [] history

end

variable {canon : ς → κ} [DecidableEq κ]

/-! ## One more change -/

@[simp] lemma isThere_nil (key : ς) : isThere canon [] key = false := rfl

lemma isThere_concat (history : List (KeyChange ς)) (change : KeyChange ς) (key : ς) :
    isThere canon (history ++ [change]) key =
      (change.tells? canon key).getD (isThere canon history key) := by
  rw [isThere, List.reverse_append, List.reverse_singleton, List.singleton_append,
    List.findSome?_cons]
  cases change.tells? canon key <;> rfl

/-- A write at the end leaves the founders what they are, and is one itself if its key is not
    there. -/
lemma foundersFrom_written (before rest : List (KeyChange ς)) (key : ς) :
    foundersFrom canon before (rest ++ [.written key]) =
      foundersFrom canon before rest ++
        if isThere canon (before ++ rest) key then [] else [key] := by
  induction rest generalizing before with
  | nil =>
      cases hthere : isThere canon before key <;>
        simp [foundersFrom, KeyChange.founds, KeyChange.key, hthere]
  | cons change rest ih =>
      have hfounds : change.founds canon before (rest ++ [.written key]) =
          change.founds canon before rest := by
        cases change <;> simp [KeyChange.founds, KeyChange.removes]
      rw [List.cons_append, foundersFrom, foundersFrom, ih, hfounds, List.append_assoc,
        List.append_assoc, List.singleton_append]

/-- A removal at the end takes the spellings of its key out of the founders. -/
lemma foundersFrom_removed (before rest : List (KeyChange ς)) (key : ς) :
    foundersFrom canon before (rest ++ [.removed key]) =
      (foundersFrom canon before rest).filter fun spelling => canon spelling ≠ canon key := by
  induction rest generalizing before with
  | nil => simp [foundersFrom, KeyChange.founds]
  | cons change rest ih =>
      rw [List.cons_append, foundersFrom, foundersFrom, ih, List.filter_append]
      congr 1
      cases change with
      | removed other => simp [KeyChange.founds]
      | written other =>
          by_cases hcanon : canon other = canon key <;>
            simp [KeyChange.founds, KeyChange.removes, KeyChange.key, hcanon, apply_ite]

lemma founders_written (history : List (KeyChange ς)) (key : ς) :
    founders canon (history ++ [.written key]) =
      founders canon history ++ if isThere canon history key then [] else [key] :=
  foundersFrom_written [] history key

lemma founders_removed (history : List (KeyChange ς)) (key : ς) :
    founders canon (history ++ [.removed key]) =
      (founders canon history).filter fun spelling => canon spelling ≠ canon key :=
  foundersFrom_removed [] history key

/-- A key is there exactly when one of the founders is a spelling of it. -/
lemma isThere_iff {history : List (KeyChange ς)} {key : ς} :
    isThere canon history key ↔
      ∃ spelling ∈ founders canon history, canon spelling = canon key := by
  induction history using List.reverseRecOn generalizing key with
  | nil => simp [founders, foundersFrom]
  | append_singleton history change ih =>
      rw [isThere_concat]
      cases change with
      | removed other =>
          by_cases hcanon : canon key = canon other
          · simp [KeyChange.tells?, founders_removed, hcanon]
          · simp only [KeyChange.tells?, if_neg hcanon, Option.getD_none, ih, founders_removed,
              List.mem_filter, decide_eq_true_eq, and_assoc]
            refine exists_congr fun spelling => and_congr_right fun _ => ?_
            exact ⟨fun h => ⟨h ▸ hcanon, h⟩, And.right⟩
      | written other =>
          by_cases hcanon : canon key = canon other
          · rw [KeyChange.tells?, if_pos hcanon, Option.getD_some, founders_written, hcanon]
            refine iff_of_true rfl ?_
            -- the key may have been there before, under another spelling
            cases hthere : isThere canon history other with
            | true =>
                obtain ⟨spelling, hmem, hspelling⟩ := ih.1 hthere
                exact ⟨spelling, List.mem_append_left _ hmem, hspelling⟩
            | false => exact ⟨other, List.mem_append_right _ (by simp), rfl⟩
          · have hother : ¬ canon other = canon key := fun h => hcanon h.symm
            simp only [KeyChange.tells?, if_neg hcanon, Option.getD_none, ih, founders_written]
            split <;> simp [hother, or_and_right, exists_or]

/-! ## Maps and their histories -/

namespace KeyedMap

/-- A map lists the keys that its history brought in for good. -/
def Recorded (m : KeyedMap canon α) (history : List (KeyChange ς)) : Prop :=
  m.keys = founders canon history

namespace Recorded

variable {m : KeyedMap canon α} {history : List (KeyChange ς)}

lemma empty : (KeyedMap.empty : KeyedMap canon α).Recorded [] := rfl

lemma contains_eq (h : m.Recorded history) (key : ς) :
    m.contains key = isThere canon history key := by
  rw [Bool.eq_iff_iff, contains, isSome_get?_iff, isThere_iff, h]

lemma put (h : m.Recorded history) (key : ς) (value : α) :
    (m.put key value).Recorded (history ++ [.written key]) := by
  rw [Recorded, keys_put, founders_written, h.contains_eq, h]
  split <;> simp

lemma erase (h : m.Recorded history) (key : ς) :
    (m.erase key).Recorded (history ++ [.removed key]) := by
  rw [Recorded, keys_erase, founders_removed, h]

end Recorded

/-! ## A map and its two views -/

lemma get?_of_mem_entries {m : KeyedMap canon α} {entry : ς × α} (h : entry ∈ m.entries) :
    m.get? entry.1 = some entry.2 := by
  obtain ⟨entries, hnodup⟩ := m
  induction entries with
  | nil => cases h
  | cons first rest ih =>
      obtain ⟨hfirst, hrest⟩ := List.nodup_cons.1 hnodup
      rw [get?, lookup]
      cases h with
      | head => exact if_pos rfl
      | tail _ hmem =>
          have hne : canon first.1 ≠ canon entry.1 := fun hcanon =>
            hfirst (List.mem_map.2 ⟨entry, hmem, hcanon.symm⟩)
          rw [if_neg hne]
          exact ih hrest hmem

/-- The entries of a map are its keys with what is found under them. -/
theorem entries_eq (m : KeyedMap canon α) :
    m.entries = m.keys.filterMap fun key => (m.get? key).map (key, ·) := by
  have hfound : ∀ entry ∈ m.entries, (m.get? entry.1).map (entry.1, ·) = some entry := by
    intro entry hentry
    rw [get?_of_mem_entries hentry]
    rfl
  calc m.entries
      = m.entries.filterMap some := List.filterMap_some.symm
    _ = m.entries.filterMap fun entry => (m.get? entry.1).map (entry.1, ·) :=
        List.filterMap_congr fun entry hentry => (hfound entry hentry).symm
    _ = m.keys.filterMap fun key => (m.get? key).map (key, ·) := by
        rw [keys, List.filterMap_map]
        rfl

/-- Maps that list the same keys and answer the same are equal. -/
theorem ext_views {m other : KeyedMap canon α} (hkeys : m.keys = other.keys)
    (hget : ∀ key, m.get? key = other.get? key) : m = other := by
  have hentries : m.entries = other.entries := by
    rw [entries_eq m, entries_eq other, hkeys]
    simp only [hget]
  obtain ⟨entries, hnodup⟩ := m
  subst hentries
  rfl

omit [DecidableEq κ] in
/-- A map without keys is the empty map. -/
lemma eq_empty_of_keys {m : KeyedMap canon α} (h : m.keys = []) : m = .empty := by
  obtain ⟨entries, hnodup⟩ := m
  obtain rfl : entries = [] := List.map_eq_nil_iff.1 h
  rfl

/-- Removing a key that is not there changes nothing. -/
lemma erase_of_get? {m : KeyedMap canon α} {key : ς} (h : m.get? key = none) :
    m.erase key = m := by
  obtain ⟨entries, hnodup⟩ := m
  have hentries : (entries.filter fun entry => canon entry.1 ≠ canon key) = entries :=
    List.filter_eq_self.2 fun entry hentry =>
      decide_eq_true (lookup_eq_none_iff.1 h entry hentry)
  rw [erase, KeyedMap.mk.injEq]
  exact hentries

/-- One value is found under all spellings of a key. -/
lemma get?_congr {m : KeyedMap canon α} {key other : ς} (h : canon key = canon other) :
    m.get? key = m.get? other := by
  have hlookup (entries : List (ς × α)) :
      lookup canon key entries = lookup canon other entries := by
    induction entries with
    | nil => rfl
    | cons entry rest ih => rw [lookup, lookup, h, ih]
  exact hlookup m.entries

/-- Writing what is found under a key changes nothing. -/
lemma put_of_get? {m : KeyedMap canon α} {key : ς} {value : α} (h : m.get? key = some value) :
    m.put key value = m := by
  have hcontains : m.contains key = true := by rw [contains, h, Option.isSome_some]
  refine ext_views (by rw [keys_put, if_pos hcontains]) fun other => ?_
  rw [get?_put]
  split
  · rename_i hcanon
    rw [get?_congr hcanon, h]
  · rfl

/-- Of two values written under one key one after the other, the second one stays. -/
lemma put_put (m : KeyedMap canon α) (key : ς) (value last : α) :
    (m.put key value).put key last = m.put key last := by
  have hcontains : (m.put key value).contains key = true := by
    rw [contains, get?_put_self, Option.isSome_some]
  refine ext_views (by rw [keys_put, if_pos hcontains, keys_put, keys_put]) fun other => ?_
  rw [get?_put, get?_put, get?_put]
  split <;> rfl

end KeyedMap

end ActivityFlow
