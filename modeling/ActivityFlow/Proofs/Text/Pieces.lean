import ActivityFlow.Text.Lines
import ActivityFlow.Text.Scan
import Mathlib.Data.List.Basic

/-!
# Texts put together from pieces

What the text functions answer on a text whose pieces are known: trimming leaves alone a text with
no blank at its ends, splitting gives back the lines that were joined, and a search for the
shortest piece runs over a piece at which nothing is accepted.
-/

namespace ActivityFlow.Text

variable {α : Type}

/-! ## Trimming -/

lemma dropBlankEnd_eq_self : ∀ {cs : List Char}, (∀ c ∈ cs.getLast?, isBlank c = false) →
    dropBlankEnd cs = cs
  | [], _ => rfl
  | [c], h => dropBlankEnd_cons_of_not_blank [] (h c rfl)
  | c :: c' :: cs, h => by
      have hrest : dropBlankEnd (c' :: cs) = c' :: cs :=
        dropBlankEnd_eq_self (by simpa [List.getLast?_cons_cons] using h)
      rw [dropBlankEnd_cons, hrest]
      simp

/-- A text without a blank at either end is trimmed already. -/
lemma trim_eq_self {cs : List Char} (hhead : ∀ c ∈ cs.head?, isBlank c = false)
    (hlast : ∀ c ∈ cs.getLast?, isBlank c = false) : trim cs = cs := by
  cases cs with
  | nil => rfl
  | cons c cs => rw [trim, skipBlank_of_head_not_blank cs (hhead c rfl), dropBlankEnd_eq_self hlast]

lemma not_blank_of_mem_getLast?_dropBlankEnd {cs : List Char} {c : Char}
    (h : c ∈ (dropBlankEnd cs).getLast?) : isBlank c = false := by
  induction cs with
  | nil => simp at h
  | cons d cs ih =>
      rw [dropBlankEnd_cons] at h
      split at h
      · simp at h
      · rename_i hkept
        cases hrest : dropBlankEnd cs with
        | nil =>
            obtain rfl : d = c := by simpa [hrest] using h
            simpa [hrest] using hkept
        | cons e es =>
            rw [hrest, List.getLast?_cons_cons, ← hrest] at h
            exact ih h

/-- A text that begins and ends with a character that is not blank. -/
structure Tight (cs : List Char) : Prop where
  nonempty : cs ≠ []
  head : ∀ c ∈ cs.head?, isBlank c = false
  last : ∀ c ∈ cs.getLast?, isBlank c = false

lemma Tight.trim_eq {cs : List Char} (h : Tight cs) : trim cs = cs :=
  trim_eq_self h.head h.last

lemma Tight.not_blank {cs : List Char} (h : Tight cs) : isBlankText cs = false := by
  obtain ⟨c, rest, rfl⟩ := List.exists_cons_of_ne_nil h.nonempty
  have hc : isBlank c = false := h.head c rfl
  simp [isBlankText, hc]

/-- What is trimmed and not empty has no blank at its ends. -/
lemma tight_of_trim_eq {cs : List Char} (hne : cs ≠ []) (h : trim cs = cs) : Tight cs where
  nonempty := hne
  head := by
    intro c hc
    rcases skipBlank_eq_nil_or_cons cs with hskip | ⟨d, rest, hskip, hd⟩
    · exact absurd (by rw [← h, trim, hskip, dropBlankEnd_nil]) hne
    · rw [← h, trim, hskip, dropBlankEnd_cons_of_not_blank rest hd] at hc
      obtain rfl : d = c := by simpa using hc
      exact hd
  last := by
    intro c hc
    rw [← h, trim] at hc
    exact not_blank_of_mem_getLast?_dropBlankEnd hc

lemma Tight.append {cs ds : List Char} (hcs : Tight cs) (hds : Tight ds) (between : List Char) :
    Tight (cs ++ (between ++ ds)) where
  nonempty := by simp [hcs.nonempty]
  head := by
    rw [List.head?_append_of_ne_nil _ hcs.nonempty]
    exact hcs.head
  last := by
    rw [← List.append_assoc, List.getLast?_append_of_ne_nil _ hds.nonempty]
    exact hds.last

lemma skipBlank_append {before : List Char} (h : isBlankText before = true) (cs : List Char) :
    skipBlank (before ++ cs) = skipBlank cs := by
  rw [isBlankText, List.all_eq_true] at h
  exact List.dropWhile_append_of_pos h

lemma dropBlankEnd_append {after : List Char} (h : isBlankText after = true) (cs : List Char) :
    dropBlankEnd (cs ++ after) = dropBlankEnd cs := by
  induction cs with
  | nil => exact dropBlankEnd_eq_nil_iff.mpr h
  | cons c cs ih => rw [List.cons_append, dropBlankEnd_cons, dropBlankEnd_cons, ih]

/-- Blanks on both sides of a text are trimmed, and nothing else. -/
lemma trim_padded {before after : List Char} (hbefore : isBlankText before = true)
    (hafter : isBlankText after = true) {c : Char} {cs : List Char} (hhead : isBlank c = false)
    (hlast : ∀ c' ∈ (c :: cs).getLast?, isBlank c' = false) :
    trim (before ++ (c :: cs) ++ after) = c :: cs := by
  rw [trim, List.append_assoc, skipBlank_append hbefore, List.cons_append,
    skipBlank_of_head_not_blank _ hhead, ← List.cons_append, dropBlankEnd_append hafter,
    dropBlankEnd_eq_self hlast]

/-! ## Splitting -/

/-- A text that holds no line break. -/
def BreakFree (cs : List Char) : Prop :=
  ∀ c ∈ cs, isLineBreak c = false

instance (cs : List Char) : Decidable (BreakFree cs) :=
  List.decidableBAll (fun c => isLineBreak c = false) cs

lemma splitLines_of_breakFree {cs : List Char} (h : BreakFree cs) : splitLines cs = [cs] := by
  induction cs with
  | nil => rfl
  | cons c cs ih =>
      have hc := h c List.mem_cons_self
      simp [splitLines, hc, ih fun c' hc' => h c' (List.mem_cons_of_mem _ hc')]

/-- Splitting goes over a line break: what stands before it and behind it is split apart. -/
lemma splitLines_append_break {c : Char} (hbreak : isLineBreak c = true) (cs rest : List Char) :
    splitLines (cs ++ c :: rest) = splitLines cs ++ splitLines rest := by
  induction cs with
  | nil => simp [splitLines, hbreak]
  | cons d cs ih =>
      rw [List.cons_append, splitLines, splitLines, ih]
      split
      · rfl
      · cases hcs : splitLines cs with
        | nil => exact absurd hcs (splitLines_ne_nil cs)
        | cons l ls => rfl

lemma splitLines_append_newline {cs : List Char} (h : BreakFree cs) (rest : List Char) :
    splitLines (cs ++ '\n' :: rest) = cs :: splitLines rest := by
  rw [splitLines_append_break (by decide), splitLines_of_breakFree h, List.singleton_append]

/-- Joined pieces begin with the first of them. -/
lemma exists_intercalate_cons (separator piece : List α) (rest : List (List α)) :
    ∃ behind, separator.intercalate (piece :: rest) = piece ++ behind := by
  cases rest with
  | nil => exact ⟨[], by simp [List.intercalate]⟩
  | cons piece' rest => exact ⟨_, by simp [List.intercalate, List.intersperse]; rfl⟩

/-- **Lines that were joined are split again.** -/
theorem splitLines_intercalate : ∀ {lines : List (List Char)}, lines ≠ [] →
    (∀ l ∈ lines, BreakFree l) → splitLines (['\n'].intercalate lines) = lines
  | [], hne, _ => absurd rfl hne
  | [l], _, hfree => by
      simpa [List.intercalate] using splitLines_of_breakFree (hfree l List.mem_cons_self)
  | l :: l' :: rest, _, hfree => by
      have hrest := splitLines_intercalate (List.cons_ne_nil l' rest)
        fun x hx => hfree x (List.mem_cons_of_mem _ hx)
      have hjoin : ['\n'].intercalate (l :: l' :: rest)
          = l ++ '\n' :: ['\n'].intercalate (l' :: rest) := by
        simp [List.intercalate, List.intersperse]
      rw [hjoin, splitLines_append_newline (hfree l List.mem_cons_self), hrest]

/-- Lines that are joined begin and end as the first and the last of them. -/
lemma tight_intercalate : ∀ {lines : List (List Char)}, lines ≠ [] → (∀ l ∈ lines, Tight l) →
    Tight (['\n'].intercalate lines)
  | [], hne, _ => absurd rfl hne
  | [l], _, h => by
      rw [List.intercalate_singleton]
      exact h l List.mem_cons_self
  | l :: l' :: rest, _, h => by
      rw [List.forall_mem_cons] at h
      rw [List.intercalate_cons_cons, List.append_assoc]
      exact h.1.append (tight_intercalate (List.cons_ne_nil l' rest) h.2) ['\n']

/-! ## Searching -/

/-- The search runs over a piece as long as nothing is accepted inside it. -/
lemma shortest_append {accept : List Char → Option α} {piece rest : List Char}
    (h : ∀ c tail, c :: tail <:+ piece → accept (c :: tail ++ rest) = none) :
    shortest accept (piece ++ rest)
      = (shortest accept rest).map fun found => (piece ++ found.1, found.2) := by
  induction piece with
  | nil => simp
  | cons c cs ih =>
      have hhead := h c cs (List.suffix_refl _)
      rw [List.cons_append] at hhead ⊢
      rw [shortest, hhead]
      dsimp only
      rw [ih fun c' tail hsuffix => h c' tail (hsuffix.trans (List.suffix_cons c cs))]
      simp [Option.map_map, Function.comp_def]

/-- A pass goes over a piece in which no match begins, and leaves it as it is. -/
lemma replaceMatches_append_of_none {find : List Char → Option (List Char × List Char)}
    {piece rest : List Char} (h : ∀ c tail, c :: tail <:+ piece → find (c :: tail ++ rest) = none) :
    replaceMatches find 0 (piece ++ rest) = piece ++ replaceMatches find 0 rest := by
  induction piece with
  | nil => rfl
  | cons c cs ih =>
      have hhead := h c cs (List.suffix_refl _)
      rw [List.cons_append] at hhead ⊢
      rw [replaceMatches, hhead]
      dsimp only
      rw [ih fun c' tail hsuffix => h c' tail (hsuffix.trans (List.suffix_cons c cs)),
        List.cons_append]

/-- A pass over a text without a match changes nothing. -/
lemma replaceMatches_of_none {find : List Char → Option (List Char × List Char)} {cs : List Char}
    (h : ∀ c tail, c :: tail <:+ cs → find (c :: tail) = none) : replaceMatches find 0 cs = cs := by
  have hpass : replaceMatches find 0 (cs ++ []) = cs ++ replaceMatches find 0 [] :=
    replaceMatches_append_of_none fun c tail hsuffix => by
      rw [List.append_nil]
      exact h c tail hsuffix
  rwa [List.append_nil, replaceMatches, List.append_nil] at hpass

end ActivityFlow.Text
