import ActivityFlow.Diagram.Label
import ActivityFlow.Proofs.Text.Numeral
import Mathlib.Tactic.Common

/-!
# Made ids are unused

A node whose label cannot serve as its id gets a made one, `makeId label n`.  The search for `n`
strikes each id it meets from the list of used ids and looks further in what is left
(`freshIndex`).  It is not obvious that the id it settles on is missing from the *whole* list: the
struck ids are no longer looked at.  They cannot come back, because two numbers never make the
same id (`makeId_injective`), and that gives both halves of what the search answers:

* **`makeId_freshIndex_not_mem`** — the made id is not in use.
* **`makeId_mem_of_lt_freshIndex`** — every smaller number from the start on makes an id in use.
-/

namespace ActivityFlow.Diagram

/-! ## The shape of a made id -/

/-- The decimal text of a number is read back, so it determines the number. -/
lemma readSigned?_writeInt (i : ℤ) : Text.readSigned? (Json.writeInt i) = some i := by
  have htext : Json.writeInt i = (toString i).toList := by
    rw [Json.writeInt, Text.toList_toString]
    by_cases hi : i < 0
    · rw [if_pos hi, if_neg (by omega)]
    · rw [if_neg hi, if_pos (by omega)]
  rw [htext, Text.readSigned?_toString]

/-- Two numbers never make the same id. -/
theorem makeId_injective (label : String) : Function.Injective (makeId label) := by
  intro i j h
  have hlist := congrArg String.toList h
  simp only [makeId, String.toList_ofList] at hlist
  have hdigits := List.append_cancel_left hlist
  simp only [List.cons.injEq, true_and] at hdigits
  have hread := congrArg Text.readSigned? hdigits
  rwa [readSigned?_writeInt, readSigned?_writeInt, Option.some_inj] at hread

/-- A made id holds no other characters than an id may. -/
lemma isIdChar_of_mem_makeId {label : String} {n : ℕ} {c : Char}
    (h : c ∈ (makeId label n).toList) : isIdChar c = true := by
  have hdigits : Json.writeInt (n : ℤ) = Nat.toDigits 10 n := by
    rw [Json.writeInt, if_neg (by omega), Int.natAbs_natCast]
  simp only [makeId, hdigits, String.toList_ofList, List.mem_append, List.mem_cons] at h
  rcases h with hstem | rfl | hdigit
  · split at hstem
    · have hword : ['n', 'o', 'd', 'e'].all isIdChar = true := rfl
      exact List.all_eq_true.mp hword c hstem
    · exact isIdChar_of_mem_slug hstem
  · rfl
  · simp [isIdChar, Char.isAlphanum,
      Nat.isDigit_of_mem_toDigits (by decide) (by decide) hdigit]

lemma makeId_ne_empty (label : String) (index : Int) : makeId label index ≠ "" := by
  intro h
  have hlist := congrArg String.toList h
  simp [makeId] at hlist

lemma underscore_mem_makeId (label : String) (index : Int) :
    '_' ∈ (makeId label index).toList := by
  simp [makeId]

/-- A made id holds an underscore, so a text without one was not made. -/
lemma makeId_ne {x : String} (hx : '_' ∉ x.toList) (label : String) (index : Int) :
    makeId label index ≠ x := by
  rintro rfl
  exact hx (underscore_mem_makeId label index)

/-! ## The search -/

/-- The search strikes ids from the list as it goes.  What it strikes was made from a smaller
    number, so it is not the id the search settles on. -/
theorem makeId_freshIndex_not_mem (label : String) (used : List String) (index : ℕ) :
    makeId label (freshIndex label used index) ∉ used := by
  fun_induction freshIndex label used index with
  | case1 used index _ ih =>
      intro hmem
      refine ih ((List.mem_erase_of_ne fun h => ?_).mpr hmem)
      have hge := le_freshIndex label (used.erase (makeId label index)) (index + 1)
      have heq := makeId_injective label h
      omega
  | case2 used index hfresh => exact hfresh

/-- The search passes over a number only when its id is in use. -/
theorem makeId_mem_of_lt_freshIndex (label : String) (used : List String) (index k : ℕ)
    (hge : index ≤ k) (hlt : k < freshIndex label used index) : makeId label k ∈ used := by
  fun_induction freshIndex label used index with
  | case1 used index hmem ih =>
      rcases Nat.eq_or_lt_of_le hge with rfl | hgt
      · exact hmem
      · exact List.mem_of_mem_erase (ih hgt hlt)
  | case2 used index _ => omega

end ActivityFlow.Diagram
