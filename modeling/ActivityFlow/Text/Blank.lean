/-!
# Blank characters and trimming

Diagrams are laid out freely, so nearly every rule of the language begins by dropping blank
characters.  This file fixes what counts as blank and how a text is trimmed.

* `isBlank` — the twenty-nine blank characters: the control characters that separate fields or
  lines, the space characters of every width, and the two separators U+2028 and U+2029.  The
  zero-width space U+200B and the byte order mark U+FEFF are **not** blank.
* `trim` — a text without the blanks at its two ends.  Trimming twice is trimming once.
* `strip` — the same on strings.

Text is worked on as the list of its characters, so that every law about it is a law of lists.
-/

namespace ActivityFlow.Text

/-! ## The characters -/

/-- Whether a character is blank. -/
def isBlank (c : Char) : Bool :=
  let n := c.toNat
  (9 ≤ n && n ≤ 13) || (28 ≤ n && n ≤ 32) || n == 0x85 || n == 0xa0 || n == 0x1680 ||
    (0x2000 ≤ n && n ≤ 0x200a) || n == 0x2028 || n == 0x2029 || n == 0x202f || n == 0x205f ||
    n == 0x3000

/-- Every blank of the ASCII kind known to the core library is blank here. -/
theorem isBlank_of_isWhitespace {c : Char} (h : c.isWhitespace = true) : isBlank c = true := by
  simp only [Char.isWhitespace, Bool.or_eq_true, decide_eq_true_eq] at h
  rcases h with ((rfl | rfl) | rfl) | rfl <;> decide

/-! ## Trimming -/

/-- The text after its leading blanks. -/
def skipBlank (cs : List Char) : List Char :=
  cs.dropWhile isBlank

/-- The text before its trailing blanks. -/
def dropBlankEnd (cs : List Char) : List Char :=
  cs.foldr (fun c r => if r.isEmpty && isBlank c then [] else c :: r) []

/-- The text without the blanks at either end. -/
def trim (cs : List Char) : List Char :=
  dropBlankEnd (skipBlank cs)

/-- Whether a text has no character other than blanks. -/
def isBlankText (cs : List Char) : Bool :=
  cs.all isBlank

@[simp] theorem skipBlank_nil : skipBlank [] = [] := rfl

@[simp] theorem dropBlankEnd_nil : dropBlankEnd [] = [] := rfl

theorem dropBlankEnd_cons (c : Char) (cs : List Char) :
    dropBlankEnd (c :: cs) =
      if (dropBlankEnd cs).isEmpty && isBlank c then [] else c :: dropBlankEnd cs := rfl

/-- Only a text of blanks has nothing left once its trailing blanks are gone. -/
theorem dropBlankEnd_eq_nil_iff {cs : List Char} :
    dropBlankEnd cs = [] ↔ isBlankText cs = true := by
  induction cs with
  | nil => simp [isBlankText]
  | cons c cs ih =>
    rw [dropBlankEnd_cons]
    by_cases hc : isBlank c = true
    · by_cases hr : dropBlankEnd cs = []
      · have := ih.1 hr
        simp_all [isBlankText]
      · have hr' : ¬ isBlankText cs = true := fun h => hr (ih.2 h)
        simp_all [isBlankText]
    · simp_all [isBlankText]

/-- A text that starts with a character that is not blank keeps it. -/
theorem dropBlankEnd_cons_of_not_blank {c : Char} (cs : List Char) (hc : isBlank c = false) :
    dropBlankEnd (c :: cs) = c :: dropBlankEnd cs := by
  simp [dropBlankEnd_cons, hc]

theorem skipBlank_of_head_not_blank {c : Char} (cs : List Char) (hc : isBlank c = false) :
    skipBlank (c :: cs) = c :: cs := by
  simp [skipBlank, hc]

theorem skipBlank_cons_of_blank {c : Char} (cs : List Char) (hc : isBlank c = true) :
    skipBlank (c :: cs) = skipBlank cs := by
  simp [skipBlank, hc]

theorem dropBlankEnd_idem (cs : List Char) : dropBlankEnd (dropBlankEnd cs) = dropBlankEnd cs := by
  induction cs with
  | nil => rfl
  | cons c cs ih =>
    by_cases h : ((dropBlankEnd cs).isEmpty && isBlank c) = true
    · simp [dropBlankEnd_cons, h]
    · rw [dropBlankEnd_cons, if_neg h, dropBlankEnd_cons, ih, if_neg h]

/-- What is left after the leading blanks does not start with one. -/
theorem skipBlank_eq_nil_or_cons (cs : List Char) :
    skipBlank cs = [] ∨ ∃ c r, skipBlank cs = c :: r ∧ isBlank c = false := by
  induction cs with
  | nil => exact .inl rfl
  | cons c cs ih =>
    by_cases hc : isBlank c = true
    · rw [skipBlank_cons_of_blank cs hc]; exact ih
    · exact .inr ⟨c, cs, skipBlank_of_head_not_blank cs (by simpa using hc), by simpa using hc⟩

/-- **Trimming is idempotent.** -/
theorem trim_trim (cs : List Char) : trim (trim cs) = trim cs := by
  unfold trim
  rcases skipBlank_eq_nil_or_cons cs with h | ⟨c, r, h, hc⟩
  · simp [h]
  · rw [h, dropBlankEnd_cons_of_not_blank r hc, skipBlank_of_head_not_blank _ hc,
      dropBlankEnd_cons_of_not_blank _ hc, dropBlankEnd_idem]

/-! ## The same on strings -/

/-- The string without the blanks at either end. -/
def strip (s : String) : String :=
  String.ofList (trim s.toList)

/-- Whether a string has no character other than blanks. -/
def blank (s : String) : Bool :=
  isBlankText s.toList

/-- A missing string counts as blank. -/
def blank? (s : Option String) : Bool :=
  s.all blank

@[simp] theorem toList_strip (s : String) : (strip s).toList = trim s.toList := by
  simp [strip]

/-- A text after its leading blanks, when it starts with at least one. -/
def skipBlanks1? : List Char → Option (List Char)
  | [] => none
  | c :: cs => if isBlank c then some (skipBlank cs) else none

end ActivityFlow.Text
