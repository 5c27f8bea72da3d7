import ActivityFlow.Diagram.Draft
import ActivityFlow.Proofs.Diagram.MadeIds
import Mathlib.Data.List.Nodup
import Mathlib.Data.List.Perm.Subperm
import Mathlib.Order.Bounds.Basic

/-!
# The first free id

Whoever needs an id for a node tries the ids of a label one after the other, each against the whole
table of nodes, and takes the first that is free.  Nothing in the search itself makes it end: a
diagram may name its nodes as it likes, and so it can fill the ids ahead of the search.  What ends it
is that the ids of one label are all different while the table is finite.

* `Settles` — the search as it goes, with the number of ids that it passes over.
* `settles_of_iff` — a search that ends has passed over ids in use alone, one for each number.
* `Settles.passed_le` — it passes over no more ids than there are nodes.
* **`Draft.addMade_firstFree`** — every search ends, at the least number whose id is free, and its
  id is the one that the node is added under.

`freshIndex` finds the same number in another way: it strikes from the list what it meets, which
makes its end plain to see, and looks further in what is left.
-/

namespace ActivityFlow.Diagram

/-! ## The search -/

/-- An id that is tried, and the number that the next one is made from. -/
structure Candidate where
  id : String
  counter : ℕ

/-- The candidate of a number. -/
def Candidate.of (label : String) (n : ℕ) : Candidate :=
  ⟨makeId label n, n + 1⟩

/-- **The search as it goes.**  A candidate in use is passed over for the next one, and one that is
    free is kept.  The number counts those passed over. -/
inductive Settles (label : String) (used : List String) : ℕ → Candidate → Candidate → Prop
  | kept {c : Candidate} (free : c.id ∉ used) : Settles label used 0 c c
  | passed {count : ℕ} {c c' : Candidate} (taken : c.id ∈ used)
      (rest : Settles label used count (.of label c.counter) c') :
      Settles label used (count + 1) c c'

variable {label : String} {used : List String}

/-- A search has one end, and one way there. -/
lemma Settles.unique {count count' : ℕ} {c e e' : Candidate} (h : Settles label used count c e)
    (h' : Settles label used count' c e') : count' = count ∧ e' = e := by
  induction h generalizing count' with
  | kept free =>
      cases h' with
      | kept => exact ⟨rfl, rfl⟩
      | passed taken => exact absurd taken free
  | passed taken _ ih =>
      cases h' with
      | kept free => exact absurd taken free
      | passed _ rest =>
          obtain ⟨hcount, hend⟩ := ih rest
          exact ⟨congrArg (· + 1) hcount, hend⟩

/-- A search that starts from a number keeps the candidate of the first number whose id is free, and
    passes over those of all numbers before it. -/
lemma settles_of_iff {count n : ℕ} {e : Candidate} : Settles label used count (.of label n) e ↔
    e = .of label (n + count) ∧ makeId label ↑(n + count) ∉ used ∧
      ∀ k, n ≤ k → k < n + count → makeId label k ∈ used := by
  induction count generalizing n with
  | zero =>
      constructor
      · rintro (⟨free⟩ | _)
        exact ⟨rfl, free, fun k hge hlt => by omega⟩
      · rintro ⟨rfl, hfree, -⟩
        exact .kept hfree
  | succ count ih =>
      have hshift : n + (count + 1) = n + 1 + count := by omega
      rw [hshift]
      constructor
      · rintro (_ | ⟨taken, rest⟩)
        obtain ⟨hend, hfree, hpassed⟩ := (ih (n := n + 1)).mp rest
        refine ⟨hend, hfree, fun k hge hlt => ?_⟩
        rcases Nat.eq_or_lt_of_le hge with rfl | hgt
        · exact taken
        · exact hpassed k hgt hlt
      · rintro ⟨hend, hfree, hpassed⟩
        have hrest : Settles label used count (.of label (n + 1)) e :=
          ih.mpr ⟨hend, hfree, fun k hge hlt => hpassed k (by omega) hlt⟩
        exact .passed (hpassed n le_rfl (by omega)) hrest

/-- A search passes over different ids, and all of them are in use. -/
lemma Settles.passed_le {count n : ℕ} {e : Candidate}
    (h : Settles label used count (.of label n) e) : count ≤ used.length := by
  obtain ⟨-, -, hpassed⟩ := settles_of_iff.mp h
  have hnodup : ((List.range count).map fun i => makeId label ↑(n + i)).Nodup := by
    refine List.nodup_range.map fun i j hij => ?_
    have heq := makeId_injective label hij
    omega
  have hused : ((List.range count).map fun i => makeId label ↑(n + i)) ⊆ used := by
    intro id hid
    obtain ⟨i, hi, rfl⟩ := List.mem_map.mp hid
    have hlt := List.mem_range.mp hi
    exact hpassed (n + i) (by omega) (by omega)
  simpa using (List.subperm_of_subset hnodup hused).length_le

/-! ## Its end -/

/-- The search on the whole list ends where the search that strikes ids ends. -/
lemma settles_freshIndex (label : String) (used : List String) (n : ℕ) :
    Settles label used (freshIndex label used n - n) (.of label n)
      (.of label (freshIndex label used n)) := by
  have hreached : n + (freshIndex label used n - n) = freshIndex label used n := by
    have hge := le_freshIndex label used n
    omega
  rw [settles_of_iff, hreached]
  exact ⟨rfl, makeId_freshIndex_not_mem label used n, makeId_mem_of_lt_freshIndex label used n⟩

/-- The number that a search settles on is the least one whose id is free. -/
lemma isLeast_freshIndex (label : String) (used : List String) (n : ℕ) :
    IsLeast {k : ℕ | n ≤ k ∧ makeId label k ∉ used} (freshIndex label used n) := by
  refine ⟨⟨le_freshIndex label used n, makeId_freshIndex_not_mem label used n⟩, ?_⟩
  rintro k ⟨hge, hfree⟩
  by_contra hlt
  exact hfree (makeId_mem_of_lt_freshIndex label used n k hge (Nat.lt_of_not_le hlt))

/-- A diagram has named its nodes like the ids ahead of the search. -/
example : freshIndex "join" ["join_1", "join_0", "join_3"] 0 = 2 := by decide +kernel

/-- **The search for an id ends, at the first that is free.**  From every table of nodes and every
    counter it passes over no more candidates than there are nodes and keeps the one of the least
    number whose id is free.  The node is added under this id, and the counter stands behind the
    number.  The ids of a label differ from number to number, and they are made of ASCII letters,
    digits and underscores. -/
theorem Draft.addMade_firstFree (label : String) :
    (∀ (d : Draft) (origin : Origin), ∃ k count : ℕ,
      (∀ count' e, Settles label d.ids count' (.of label d.counter) e ↔
        count' = count ∧ e = ⟨makeId label k, k + 1⟩) ∧
      count ≤ d.entries.length ∧
      IsLeast {n : ℕ | d.counter ≤ n ∧ makeId label n ∉ d.ids} k ∧
      d.addMade label origin =
        ({ d with counter := k + 1 }.addNode (makeId label k) label origin, makeId label k)) ∧
    Function.Injective (makeId label) ∧
    ∀ n : ℕ, ∀ c ∈ (makeId label n).toList, c.isAlphanum = true ∨ c = '_' := by
  refine ⟨fun d origin => ?_, makeId_injective label, fun n c hc => ?_⟩
  · have hsettles := settles_freshIndex label d.ids d.counter
    have hcount := hsettles.passed_le
    rw [ids, List.length_map] at hcount
    refine ⟨freshIndex label d.ids d.counter, _, fun count' e => ?_, hcount,
      isLeast_freshIndex label d.ids d.counter, rfl⟩
    constructor
    · exact hsettles.unique
    · rintro ⟨rfl, rfl⟩
      exact hsettles
  · have hchar := isIdChar_of_mem_makeId hc
    rw [isIdChar, Bool.or_eq_true, beq_iff_eq] at hchar
    exact hchar

end ActivityFlow.Diagram
