import ActivityFlow.Text.Blank

/-!
# Lines of a text

* `isLineBreak` — the ten characters that end a line.  All of them are blank.
* `splitLines` — the pieces of a text between its line breaks.

A carriage return directly before a line feed leaves an empty piece between the two.  The readers
of this library drop empty lines, so a pair of characters ends one line for them as it should.
-/

namespace ActivityFlow.Text

/-- Whether a character ends a line. -/
def isLineBreak (c : Char) : Bool :=
  let n := c.toNat
  (10 ≤ n && n ≤ 13) || (28 ≤ n && n ≤ 30) || n == 0x85 || n == 0x2028 || n == 0x2029

/-- **A line break is blank**, so trimming a line never leaves one at its ends. -/
theorem isBlank_of_isLineBreak {c : Char} (h : isLineBreak c = true) : isBlank c = true := by
  simp only [isLineBreak, isBlank, Bool.or_eq_true, Bool.and_eq_true, decide_eq_true_eq,
    beq_iff_eq] at h ⊢
  omega

/-- The pieces of a text between its line breaks, in order; never the empty list. -/
def splitLines : List Char → List (List Char)
  | [] => [[]]
  | c :: cs =>
    if isLineBreak c then [] :: splitLines cs
    else match splitLines cs with
      | [] => [[c]]
      | l :: ls => (c :: l) :: ls

theorem splitLines_ne_nil (cs : List Char) : splitLines cs ≠ [] := by
  cases cs with
  | nil => simp [splitLines]
  | cons c cs =>
    rw [splitLines]
    split
    · simp
    · split <;> simp

/-- **No piece holds a line break.** -/
theorem not_isLineBreak_of_mem_splitLines {cs l : List Char} {c : Char}
    (hl : l ∈ splitLines cs) (hc : c ∈ l) : isLineBreak c = false := by
  induction cs generalizing l with
  | nil =>
    simp only [splitLines, List.mem_singleton] at hl
    subst hl; simp at hc
  | cons d cs ih =>
    rw [splitLines] at hl
    by_cases hd : isLineBreak d = true
    · rw [if_pos hd] at hl
      rcases List.mem_cons.1 hl with rfl | hl
      · simp at hc
      · exact ih hl hc
    · rw [if_neg hd] at hl
      cases hs : splitLines cs with
      | nil => exact absurd hs (splitLines_ne_nil cs)
      | cons m ms =>
        rw [hs] at hl ih
        rcases List.mem_cons.1 hl with rfl | hl
        · rcases List.mem_cons.1 hc with rfl | hc
          · simpa using hd
          · exact ih List.mem_cons_self hc
        · exact ih (List.mem_cons_of_mem _ hl) hc

end ActivityFlow.Text
