import ActivityFlow.Proofs.Text.Pieces
import ActivityFlow.Text.Numeral
import Mathlib.Algebra.Group.Nat.Defs

/-!
# Reading decimal text

The decimal text of a whole number is read as the number, blanks around it set aside
(`readInt?_padded`).  There is one limit: a number with more than `maxDigits` digits is not read at
all.
-/

namespace ActivityFlow.Text

/-! ## Digits -/

lemma toNat_of_isDigit {c : Char} (h : c.isDigit = true) :
    0x30 ≤ c.toNat ∧ c.toNat < 0x30 + 10 := by
  have hrange : 48 ≤ c.toNat ∧ c.toNat ≤ 57 := by
    simpa [Char.isDigit, UInt32.le_iff_toNat_le, ← Char.toNat_val] using h
  omega

lemma isBlank_of_isDigit {c : Char} (h : c.isDigit = true) : isBlank c = false := by
  have hrange := toNat_of_isDigit h
  simp [isBlank]
  omega

lemma decimalDigit?_of_isDigit {c : Char} (h : c.isDigit = true) :
    decimalDigit? c = some (c.toNat - '0'.toNat) := by
  rw [decimalDigit?, digitZeros, List.findSome?_cons,
    if_pos (by simpa using toNat_of_isDigit h)]
  rfl

/-- Digits are read from the left, each making what stands before it ten times as much. -/
lemma readDigits?_of_isDigit : ∀ {cs : List Char} (value : ℕ), cs ≠ [] →
    (∀ c ∈ cs, c.isDigit = true) → readDigits? value cs = some (Nat.ofDigitChars 10 cs value)
  | [], _, hne, _ => absurd rfl hne
  | [c], value, _, hdigits => by
      rw [readDigits?, decimalDigit?_of_isDigit (hdigits c List.mem_cons_self)]
      simp [Nat.ofDigitChars, Nat.mul_comm]
  | c :: d :: cs, value, _, hdigits => by
      have hd : (d == '_') = false := by
        have hisDigit := hdigits d (by simp)
        by_contra hunderscore
        rw [Bool.not_eq_false, beq_iff_eq] at hunderscore
        rw [hunderscore] at hisDigit
        exact absurd hisDigit (by decide)
      rw [readDigits?, decimalDigit?_of_isDigit (hdigits c List.mem_cons_self)]
      simp only [hd, Bool.false_eq_true, if_false]
      rw [readDigits?_of_isDigit _ (by simp) fun c' hc' => hdigits c' (List.mem_cons_of_mem c hc'),
        Nat.mul_comm value, ← Nat.ofDigitChars_cons]

/-! ## Decimal text -/

lemma readDigits?_toDigits (n : ℕ) : readDigits? 0 (Nat.toDigits 10 n) = some n := by
  rw [readDigits?_of_isDigit 0 Nat.toDigits_ne_nil fun c hc =>
    Nat.isDigit_of_mem_toDigits (by decide) (by decide) hc,
    Nat.ofDigitChars_toDigits (by decide) (by decide)]

lemma countDigits_toDigits (n : ℕ) :
    countDigits (Nat.toDigits 10 n) = (Nat.toDigits 10 n).length := by
  refine List.countP_eq_length.mpr fun c hc => ?_
  rw [decimalDigit?_of_isDigit (Nat.isDigit_of_mem_toDigits (by decide) (by decide) hc)]
  rfl

/-- The decimal text of a number: its digits, behind a minus sign if it is negative. -/
lemma toList_toString (i : Int) : (toString i).toList =
    if 0 ≤ i then Nat.toDigits 10 i.natAbs else '-' :: Nat.toDigits 10 i.natAbs := by
  rw [Int.toString_eq_repr, Int.repr_eq_if]
  split
  · rename_i hi
    rw [Nat.toList_repr, ← Int.natAbs_of_nonneg hi]
    rfl
  · rename_i hi
    have habs : (-i).toNat = i.natAbs := by omega
    rw [String.toList_append, Nat.toList_repr, habs]
    rfl

lemma readSigned?_toString (i : Int) : readSigned? (toString i).toList = some i := by
  rw [toList_toString]
  split
  · rename_i hi
    -- no digit is a sign, so the text is read by the last equation
    have hsign : ∀ c ∈ Nat.toDigits 10 i.natAbs, c ≠ '-' ∧ c ≠ '+' := by
      intro c hc
      have hdigit := Nat.isDigit_of_mem_toDigits (by decide) (by decide) hc
      constructor <;> rintro rfl <;> exact absurd hdigit (by decide)
    rw [readSigned?, readDigits?_toDigits]
    · simp [Int.natAbs_of_nonneg hi]
    · intro cs hcs
      exact (hsign '-' (hcs ▸ List.mem_cons_self)).1 rfl
    · intro cs hcs
      exact (hsign '+' (hcs ▸ List.mem_cons_self)).2 rfl
  · rename_i hi
    have hneg : -(i.natAbs : Int) = i := by omega
    rw [readSigned?, readDigits?_toDigits]
    exact congrArg some hneg

lemma countDigits_toString (i : Int) :
    countDigits (toString i).toList = (Nat.toDigits 10 i.natAbs).length := by
  rw [toList_toString]
  split
  · exact countDigits_toDigits _
  · exact (List.countP_cons_of_neg (by decide)).trans (countDigits_toDigits _)

lemma trim_padded_toString {before after : String} (hbefore : blank before = true)
    (hafter : blank after = true) (i : Int) :
    trim (before ++ toString i ++ after).toList = (toString i).toList := by
  have hchars : ∀ c ∈ (toString i).toList, isBlank c = false := by
    intro c hc
    rw [toList_toString] at hc
    split at hc
    · exact isBlank_of_isDigit (Nat.isDigit_of_mem_toDigits (by decide) (by decide) hc)
    · rcases List.mem_cons.mp hc with rfl | hc
      · decide
      · exact isBlank_of_isDigit (Nat.isDigit_of_mem_toDigits (by decide) (by decide) hc)
  rw [String.toList_append, String.toList_append]
  cases hcs : (toString i).toList with
  | nil =>
      rw [toList_toString] at hcs
      split at hcs
      · exact absurd hcs Nat.toDigits_ne_nil
      · exact absurd hcs (by simp)
  | cons c cs =>
      rw [hcs] at hchars
      exact trim_padded hbefore hafter (hchars c List.mem_cons_self) fun c' hc' =>
        hchars c' (List.mem_of_getLast? hc')

/-- **The decimal text of a number is read as the number**, with any blanks around it, unless it has
    too many digits. -/
theorem readInt?_padded {before after : String} (hbefore : blank before = true)
    (hafter : blank after = true) (i : Int) : readInt? (before ++ toString i ++ after) =
      if i.natAbs < 10 ^ maxDigits then some i else none := by
  have hlimit : maxDigits < (Nat.toDigits 10 i.natAbs).length ↔ ¬ i.natAbs < 10 ^ maxDigits := by
    rw [← Nat.length_toDigits_le_iff (by decide) (by decide), Nat.not_le]
  rw [readInt?, trim_padded_toString hbefore hafter, countDigits_toString, readSigned?_toString]
  by_cases hsmall : i.natAbs < 10 ^ maxDigits
  · rw [if_neg (fun hmany => hlimit.mp hmany hsmall), if_pos hsmall]
  · rw [if_pos (hlimit.mpr hsmall), if_neg hsmall]

end ActivityFlow.Text
