import ActivityFlow.Proofs.Diagram.Reading

/-!
# Labels made of word characters

Word characters are neither blank nor signs of the language.  So a label that is made of them alone
is its own label, and between a colon and a semicolon it is read as an action with that label and
nothing else, whatever is open (`Wordy.read_line`).
-/

namespace ActivityFlow.Diagram

open ActivityFlow.Text

/-! ## Word characters -/

lemma toNat_of_isIdChar {c : Char} (h : isIdChar c = true) :
    48 ≤ c.toNat ∧ c.toNat ≤ 57 ∨ 65 ≤ c.toNat ∧ c.toNat ≤ 90 ∨ c.toNat = 95 ∨
      97 ≤ c.toNat ∧ c.toNat ≤ 122 := by
  rcases Bool.or_eq_true_iff.mp h with halnum | hunderscore
  · rcases Bool.or_eq_true_iff.mp halnum with halpha | hdigit
    · rcases Bool.or_eq_true_iff.mp halpha with hupper | hlower
      · have hrange : 65 ≤ c.toNat ∧ c.toNat ≤ 90 := of_decide_eq_true hupper
        exact Or.inr (Or.inl hrange)
      · obtain ⟨hge, hle⟩ := Bool.and_eq_true_iff.mp hlower
        have hrange : 97 ≤ c.toNat ∧ c.toNat ≤ 122 :=
          ⟨of_decide_eq_true hge, of_decide_eq_true hle⟩
        exact Or.inr (Or.inr (Or.inr hrange))
    · exact Or.inl (Char.isDigit_iff_toNat.mp hdigit)
  · rw [beq_iff_eq] at hunderscore
    subst hunderscore
    exact Or.inr (Or.inr (Or.inl rfl))

lemma isWordChar_of_isIdChar {c : Char} (h : isIdChar c = true) : isWordChar c = true := by
  have hrange := toNat_of_isIdChar h
  have hascii : c.toNat < 128 := by omega
  rw [isWordChar, if_pos hascii]
  exact h

/-- No blank lies in the ranges of the word characters. -/
lemma inRanges_wordRanges_blank : ∀ n ∈ [0x85, 0xa0, 0x1680, 0x2000, 0x2001, 0x2002, 0x2003,
    0x2004, 0x2005, 0x2006, 0x2007, 0x2008, 0x2009, 0x200a, 0x2028, 0x2029, 0x202f, 0x205f, 0x3000],
    inRanges wordRanges n = false := by
  decide +kernel

lemma isBlank_of_isWordChar {c : Char} (h : isWordChar c = true) : isBlank c = false := by
  by_contra hblank
  rw [Bool.not_eq_false] at hblank
  simp only [isBlank, Bool.or_eq_true, Bool.and_eq_true, decide_eq_true_eq, beq_iff_eq] at hblank
  unfold isWordChar at h
  by_cases hascii : c.toNat < 128
  · rw [if_pos hascii] at h
    have hrange := toNat_of_isIdChar h
    omega
  · have hmem : c.toNat ∈ [0x85, 0xa0, 0x1680, 0x2000, 0x2001, 0x2002, 0x2003, 0x2004, 0x2005,
        0x2006, 0x2007, 0x2008, 0x2009, 0x200a, 0x2028, 0x2029, 0x202f, 0x205f, 0x3000] := by
      simp only [List.mem_cons, List.not_mem_nil, or_false]
      omega
    rw [if_neg hascii, inRanges_wordRanges_blank c.toNat hmem] at h
    exact Bool.noConfusion h

/-! ## Labels -/

/-- A text of word characters, at least one. -/
structure Wordy (cs : List Char) : Prop where
  nonempty : cs ≠ []
  word : ∀ c ∈ cs, isWordChar c = true

/-- The line of an action with a label. -/
def labelLine (label : List Char) : List Char :=
  ':' :: (label ++ [';'])

/-- A line that begins with a colon is an arrow or an action, whatever is open. -/
lemma read_of_colon (ifOpen : Bool) (cs : List Char) : Line.read ifOpen (':' :: cs)
    = (readArrow? (':' :: cs) <|> readAction? (':' :: cs)).getD .unknown := by
  cases ifOpen <;>
    simp [Line.read, plain?, isStyleOpen, readSkinparam?, readPragma?, readNote?, isWholeKeyword,
      isEndKeyword, isIfEnd, readIf?, readElse?, readLoopEnd?, readLoopStart?, dropKeyword?,
      sameLetter]

lemma arrowSign?_cons {c : Char} (hdash : c ≠ '-') (hless : c ≠ '<') (cs : List Char) :
    arrowSign? (c :: cs) = none := by
  unfold arrowSign?
  split <;> simp_all

lemma stereotype?_cons {c : Char} (h : c ≠ '<') (cs : List Char) :
    stereotype? (c :: cs) = none := by
  unfold stereotype?
  split <;> simp_all

/-- A token without a blank, a colon in front and a semicolon behind is its own label. -/
lemma normalizeLabel_of_tight {cs : List Char} (h : Tight cs) (hfirst : cs.head? ≠ some ':')
    (hlast : cs.getLast? ≠ some ';') : normalizeLabel (String.ofList cs) = String.ofList cs := by
  have hcolon : dropColon cs = cs := by
    obtain ⟨c, rest, rfl⟩ := List.exists_cons_of_ne_nil h.nonempty
    have hc : c ≠ ':' := by simpa using hfirst
    rw [dropColon]
    simpa using hc
  rw [normalizeLabel, String.toList_ofList, h.trim_eq, hcolon, dropSemicolon, if_neg hlast]

namespace Wordy

variable {label : List Char} (h : Wordy label)
include h

lemma ne_of_mem {c x : Char} (hc : c ∈ label) (hx : isWordChar x = false) : c ≠ x := by
  rintro rfl
  rw [h.word c hc] at hx
  exact Bool.noConfusion hx

lemma breakFree : BreakFree label := by
  intro c hc
  have hblank := isBlank_of_isWordChar (h.word c hc)
  by_contra hbreak
  rw [isBlank_of_isLineBreak (by simpa using hbreak)] at hblank
  exact Bool.noConfusion hblank

lemma tight : Tight label where
  nonempty := h.nonempty
  head := fun c hc => isBlank_of_isWordChar (h.word c (List.mem_of_mem_head? hc))
  last := fun c hc => isBlank_of_isWordChar (h.word c (List.mem_of_mem_getLast? hc))

lemma strip_eq : strip (String.ofList label) = String.ofList label := by
  rw [strip, String.toList_ofList, h.tight.trim_eq]

lemma ne_startMarker : String.ofList label ≠ startMarker := by
  intro heq
  have hlist := congrArg String.toList heq
  rw [String.toList_ofList] at hlist
  have hmem : '[' ∈ label := by
    rw [hlist]
    decide
  exact h.ne_of_mem hmem (by decide) rfl

/-- Word characters are their own label. -/
lemma normalizeLabel_eq : normalizeLabel (String.ofList label) = String.ofList label :=
  normalizeLabel_of_tight h.tight
    (fun hhead => h.ne_of_mem (List.mem_of_mem_head? hhead) (by decide) rfl)
    fun hlast => h.ne_of_mem (List.mem_of_getLast? hlast) (by decide) rfl

/-- The line of an action is no arrow: nothing in it begins a sign. -/
lemma readArrow?_line : readArrow? (labelLine label) = none := by
  have hnone : shortest (fun cs => arrowSign? (skipBlank cs)) (labelLine label ++ []) = none := by
    rw [shortest_append]
    · rfl
    · intro c tail hsuffix
      have hmem : c ∈ labelLine label := hsuffix.subset List.mem_cons_self
      have hc : isBlank c = false ∧ c ≠ '-' ∧ c ≠ '<' := by
        rw [labelLine, List.mem_cons, List.mem_append, List.mem_singleton] at hmem
        rcases hmem with rfl | hmem | rfl
        · decide
        · exact ⟨isBlank_of_isWordChar (h.word c hmem), h.ne_of_mem hmem (by decide),
            h.ne_of_mem hmem (by decide)⟩
        · decide
      rw [List.append_nil, skipBlank_of_head_not_blank tail hc.1]
      exact arrowSign?_cons hc.2.1 hc.2.2 tail
  rw [List.append_nil] at hnone
  simp [readArrow?, hnone]

/-- Word characters hold no stereotype, so nothing is taken out of them. -/
lemma readActionText_eq : readActionText label = .labelled (String.ofList label) none := by
  have hnone : ∀ c tail, c :: tail <:+ label → stereotype? (c :: tail) = none :=
    fun c tail hsuffix => stereotype?_cons
      (h.ne_of_mem (hsuffix.subset List.mem_cons_self) (by decide)) tail
  have hname : shortest stereotype? (label ++ []) = none := by
    rw [shortest_append]
    · rfl
    · simpa using hnone
  rw [List.append_nil] at hname
  have hwithout : replaceMatches (fun cs => (stereotype? cs).map fun found => ([], found.2)) 0
      label = label :=
    replaceMatches_of_none fun c tail hsuffix => by simp [hnone c tail hsuffix]
  simp [readActionText, hname, hwithout, h.tight.trim_eq, h.nonempty]

/-- **The line of an action asks for its label.** -/
theorem read_line (ifOpen : Bool) :
    Line.read ifOpen (labelLine label) = .action (.labelled (String.ofList label) none) := by
  have haction : readAction? (labelLine label)
      = some (.action (.labelled (String.ofList label) none)) := by
    simp [readAction?, labelLine, actionStart?, dropActionEnd, isActionEnd, h.readActionText_eq]
  have harrow := h.readArrow?_line
  rw [labelLine] at haction harrow ⊢
  rw [read_of_colon, harrow, haction]
  rfl

lemma stands_line : Stands (labelLine label) := by
  refine stands_of_ends ?_ rfl ?_
  · intro c hc
    rw [labelLine, List.mem_cons, List.mem_append, List.mem_singleton] at hc
    rcases hc with rfl | hc | rfl
    · decide
    · exact h.breakFree c hc
    · decide
  · rw [labelLine, ← List.cons_append, List.getLast?_concat]
    decide

end Wordy

end ActivityFlow.Diagram
