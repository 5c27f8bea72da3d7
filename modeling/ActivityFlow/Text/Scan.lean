/-!
# Searching for the shortest piece

Two ways of looking through a text, each a plain recursion on its characters.

* `shortest` — the shortest piece whose rest is accepted, with what the acceptance answered.
  Most rules of the diagram language have this form: a label ends at the first place from which
  the remainder of the line makes sense.
* `replaceMatches` — a pass from left to right that replaces each match and goes on behind it.
  The counter says how many characters of the last match are still to be passed over, which is
  what keeps the recursion on the list itself.
* `allMatches` — the same pass, of which only what was found is wanted.
-/

namespace ActivityFlow.Text

variable {α : Type}

/-! ## The shortest accepted piece -/

/-- The shortest piece of the text whose rest `accept` accepts, and what `accept` answered. -/
def shortest (accept : List Char → Option α) : List Char → Option (List Char × α)
  | [] => (accept []).map fun a => ([], a)
  | c :: cs => match accept (c :: cs) with
    | some a => some ([], a)
    | none => (shortest accept cs).map fun found => (c :: found.1, found.2)

/-- **What `shortest` finds splits the text, and nothing shorter would do.** -/
theorem shortest_eq_some_iff {accept : List Char → Option α} {cs piece : List Char} {a : α} :
    shortest accept cs = some (piece, a) ↔
      ∃ rest, cs = piece ++ rest ∧ accept rest = some a ∧
        ∀ shorter tail, shorter ++ tail = cs → shorter.length < piece.length →
          accept tail = none := by
  induction cs generalizing piece with
  | nil =>
    constructor
    · intro h
      obtain ⟨b, hb, hp⟩ := Option.map_eq_some_iff.1 h
      simp only [Prod.mk.injEq] at hp
      obtain ⟨rfl, rfl⟩ := hp
      exact ⟨[], rfl, hb, by simp⟩
    · rintro ⟨rest, h, ha, -⟩
      obtain ⟨rfl, rfl⟩ : piece = [] ∧ rest = [] := by simpa using h.symm
      simp [shortest, ha]
  | cons c cs ih =>
    rw [shortest]
    cases hacc : accept (c :: cs) with
    | some b =>
      constructor
      · intro h
        simp only [Option.some.injEq, Prod.mk.injEq] at h
        obtain ⟨rfl, rfl⟩ := h
        exact ⟨c :: cs, rfl, hacc, by simp⟩
      · rintro ⟨rest, h, ha, hmin⟩
        cases piece with
        | nil =>
          simp only [List.nil_append] at h
          subst h
          simp_all
        | cons p ps =>
          have := hmin [] (c :: cs) rfl (by simp)
          simp_all
    | none =>
      constructor
      · intro h
        obtain ⟨⟨p, b⟩, hb, hp⟩ := Option.map_eq_some_iff.1 h
        simp only [Prod.mk.injEq] at hp
        obtain ⟨rfl, rfl⟩ := hp
        obtain ⟨rest, rfl, ha, hmin⟩ := ih.1 hb
        refine ⟨rest, rfl, ha, fun shorter tail hst hlt => ?_⟩
        cases shorter with
        | nil =>
          simp only [List.nil_append] at hst
          subst hst; exact hacc
        | cons s ss =>
          simp only [List.cons_append, List.cons.injEq] at hst
          exact hmin ss tail hst.2 (by simpa using hlt)
      · rintro ⟨rest, h, ha, hmin⟩
        cases piece with
        | nil =>
          simp only [List.nil_append] at h
          subst h
          simp_all
        | cons p ps =>
          simp only [List.cons_append, List.cons.injEq] at h
          obtain ⟨rfl, rfl⟩ := h
          have : shortest accept (ps ++ rest) = some (ps, a) :=
            ih.2 ⟨rest, rfl, ha, fun shorter tail hst hlt =>
              hmin (c :: shorter) tail (by simp [hst]) (by simpa using hlt)⟩
          simp [this]

/-! ## Replacing every match -/

/-- Replace each match from left to right.  `find` answers with the replacement of a match at the
front of a text and with what follows it; `pending` counts the characters still to pass over. -/
def replaceMatches (find : List Char → Option (List Char × List Char)) :
    (pending : Nat) → List Char → List Char
  | _, [] => []
  | pending + 1, _ :: cs => replaceMatches find pending cs
  | 0, c :: cs => match find (c :: cs) with
    | some (replacement, rest) =>
      replacement ++ replaceMatches find (cs.length - rest.length) cs
    | none => c :: replaceMatches find 0 cs

/-- What is found in a pass from left to right, in order. -/
def allMatches (find : List Char → Option (α × List Char)) : (pending : Nat) → List Char → List α
  | _, [] => []
  | pending + 1, _ :: cs => allMatches find pending cs
  | 0, c :: cs => match find (c :: cs) with
    | some (found, rest) => found :: allMatches find (cs.length - rest.length) cs
    | none => allMatches find 0 cs

end ActivityFlow.Text
