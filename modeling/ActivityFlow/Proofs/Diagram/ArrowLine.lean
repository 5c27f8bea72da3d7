import ActivityFlow.Proofs.Diagram.Program

/-!
# Lines of a word and an arrow

Every keyword of the language is a word, and arrows are tried late.  So a line that begins with a
word, a blank and an arrow may begin like almost any other form.  It is an arrow all the same:
whatever a keyword leaves of the word, behind it stands a blank and the sign, and there no other
form goes on.  The two exceptions are the keywords `note` and `skinparam`, which take what follows
them as it comes.

* `exists_of_dropKeyword?` — what a keyword leaves of the line.
* **`Word.read_of_arrow`** — the line is an arrow, whatever is open.
* **`read_arrowLine`** — between two words, with a label or without one, it is the arrow that was
  written.
-/

namespace ActivityFlow.Diagram

open ActivityFlow.Text

/-! ## Letters against keywords -/

/-- Among letters, digits and underscores a keyword is matched but for the case. -/
lemma toLower_eq_of_sameLetter {k c : Char} (hc : isIdChar c = true) (h : sameLetter k c = true) :
    c.toLower = k := by
  have hrange := toNat_of_isIdChar hc
  have hplain : c ≠ '\u017f' ∧ c ≠ '\u212a' ∧ c ≠ '\u0131' ∧ c ≠ '\u0130' := by
    refine ⟨?_, ?_, ?_, ?_⟩ <;> rintro rfl <;> revert hrange <;> decide
  obtain ⟨hs, hk, hdotless, hdotted⟩ := hplain
  simpa [sameLetter, hs, hk, hdotless, hdotted] using h

/-- Only a letter is the lower-case form of another character. -/
lemma toLower_ne {c x : Char} (hne : c ≠ x) (hx : ¬ (97 ≤ x.toNat ∧ x.toNat ≤ 122)) :
    c.toLower ≠ x := by
  intro h
  unfold Char.toLower at h
  split at h
  · rename_i hupper
    have hge : 65 ≤ c.val.toNat := UInt32.le_iff_toNat_le.mp hupper.1
    have hle : c.val.toNat ≤ 90 := UInt32.le_iff_toNat_le.mp hupper.2
    have hshift : ('a'.val - 'A'.val).toNat = 32 := by decide
    have hval : x.toNat = (c.val + ('a'.val - 'A'.val)).toNat := congrArg Char.toNat h.symm
    rw [UInt32.toNat_add, hshift] at hval
    omega
  · exact hne h

lemma sameLetter_blank {k : Char} (h : k ≠ ' ') : sameLetter k ' ' = false := by
  have hlower : Char.toLower ' ' = ' ' := by decide
  simp [sameLetter, hlower, Ne.symm h]

/-- **What a keyword leaves** of a word and what follows it: a part of the word, all of it if need
    be, and what follows.  If nothing of the word is left, the word is the keyword. -/
lemma exists_of_dropKeyword? {keyword s rest left : List Char} (hkeyword : ' ' ∉ keyword)
    (hs : s.all isIdChar = true) (h : dropKeyword? keyword (s ++ ' ' :: rest) = some left) :
    ∃ s', s'.all isIdChar = true ∧ left = s' ++ ' ' :: rest ∧
      (s' = [] → s.map Char.toLower = keyword) := by
  induction keyword generalizing s with
  | nil =>
      obtain rfl : s ++ ' ' :: rest = left := by simpa [dropKeyword?] using h
      exact ⟨s, hs, rfl, fun hnil => by simp [hnil]⟩
  | cons k ks ih =>
      rw [List.mem_cons, not_or] at hkeyword
      cases s with
      -- the word is used up, and no keyword goes on with a blank
      | nil =>
          rw [List.nil_append, dropKeyword?, sameLetter_blank (Ne.symm hkeyword.1)] at h
          exact absurd h (by simp)
      | cons c cs =>
          rw [List.all_cons, Bool.and_eq_true] at hs
          rw [List.cons_append, dropKeyword?] at h
          split at h
          · rename_i hsame
            obtain ⟨s', hs', hleft, hnil⟩ := ih hkeyword.2 hs.2 h
            refine ⟨s', hs', hleft, fun hempty => ?_⟩
            rw [List.map_cons, toLower_eq_of_sameLetter hs.1 hsame, hnil hempty]
          · exact absurd h (by simp)

/-- A form that begins with a keyword is none, if it does not go on with what the keyword leaves. -/
lemma bind_dropKeyword?_eq_none {α : Type} {keyword s rest : List Char}
    {next : List Char → Option α} (hkeyword : ' ' ∉ keyword) (hs : s.all isIdChar = true)
    (hnext : ∀ s', s'.all isIdChar = true → (s' = [] → s.map Char.toLower = keyword) →
      next (s' ++ ' ' :: rest) = none) :
    (dropKeyword? keyword (s ++ ' ' :: rest)).bind next = none := by
  cases hdrop : dropKeyword? keyword (s ++ ' ' :: rest) with
  | none => rfl
  | some left =>
      obtain ⟨s', hs', rfl, hnil⟩ := exists_of_dropKeyword? hkeyword hs hdrop
      exact hnext s' hs' hnil

/-! ## Forms that do not go on with an arrow -/

/-- What stands behind the first word of an arrow line and the blank after it. -/
def arrowTail (sign : ArrowSign) (behind : List Char) : List Char :=
  sign.text.toList ++ ' ' :: behind

section Forms

variable {s behind : List Char} {sign : ArrowSign}

lemma isBlank_of_isIdChar {c : Char} (h : isIdChar c = true) : isBlank c = false :=
  isBlank_of_isWordChar (isWordChar_of_isIdChar h)

lemma ne_of_isIdChar {c x : Char} (h : isIdChar c = true) (hx : isIdChar x = false) : c ≠ x := by
  rintro rfl
  rw [h] at hx
  exact Bool.noConfusion hx

/-- Neither the rest of a word nor the sign behind it is blank or a mark of another form. -/
lemma exists_skipBlank_eq (sign : ArrowSign) (behind : List Char) (hs : s.all isIdChar = true) :
    ∃ c cs, skipBlank (s ++ ' ' :: arrowTail sign behind) = c :: cs ∧
      cs ≠ [] ∧ c ≠ '(' ∧ c ≠ ':' := by
  cases s with
  | nil =>
      have hblank : isBlank ' ' = true := by decide
      rw [List.nil_append, skipBlank_cons_of_blank _ hblank]
      cases sign <;> exact ⟨_, _, rfl, by simp, by decide, by decide⟩
  | cons c cs =>
      rw [List.all_cons, Bool.and_eq_true] at hs
      rw [List.cons_append, skipBlank_of_head_not_blank _ (isBlank_of_isIdChar hs.1)]
      exact ⟨c, _, rfl, by simp, ne_of_isIdChar hs.1 (by decide), ne_of_isIdChar hs.1 (by decide)⟩

lemma endsHere_eq_false {c : Char} {cs : List Char} (h : cs ≠ []) : endsHere (c :: cs) = false := by
  simp [endsHere, h]

/-- No keyword is matched at a sign. -/
lemma dropKeyword?_arrowTail {k : Char} {ks : List Char}
    (hk : sameLetter k '-' = false ∧ sameLetter k '<' = false) :
    dropKeyword? (k :: ks) (arrowTail sign behind) = none := by
  cases sign <;> simp [arrowTail, ArrowSign.text, dropKeyword?, hk]

lemma skipBlanks1?_eq_none {c : Char} {cs : List Char} (hc : isIdChar c = true) :
    skipBlanks1? (c :: cs) = none := by
  simp [skipBlanks1?, isBlank_of_isIdChar hc]

/-- Behind a word the sign is found once the blank is dropped. -/
lemma skipBlanks1?_arrowTail :
    skipBlanks1? (' ' :: arrowTail sign behind) = some (arrowTail sign behind) := by
  cases sign <;> rfl

lemma inParens_eq_none {α : Type} (hs : s.all isIdChar = true) (accept : List Char → Option α) :
    inParens accept (s ++ ' ' :: arrowTail sign behind) = none := by
  obtain ⟨c, cs, hskip, -, hparen, -⟩ := exists_skipBlank_eq sign behind hs
  simp only [inParens, hskip]
  split
  · rename_i heq
    exact absurd (List.cons.inj heq).1 hparen
  · rfl

lemma ifCondition?_eq_none (hs : s.all isIdChar = true) :
    ifCondition? (s ++ ' ' :: arrowTail sign behind) = none := by
  rw [ifCondition?, inParens_eq_none hs]
  rfl

lemma isWholeKeyword_eq_false (hs : s.all isIdChar = true) (keyword : String)
    (hkeyword : ' ' ∉ keyword.toList) :
    isWholeKeyword keyword (s ++ ' ' :: arrowTail sign behind) = false := by
  rw [isWholeKeyword]
  cases hdrop : dropKeyword? keyword.toList (s ++ ' ' :: arrowTail sign behind) with
  | none => rfl
  | some left =>
      obtain ⟨s', -, rfl, -⟩ := exists_of_dropKeyword? hkeyword hs hdrop
      cases s' with
      | nil => cases sign <;> exact endsHere_eq_false (by simp [arrowTail])
      | cons c cs => exact endsHere_eq_false (by simp)

lemma isIfEnd_eq_false (hs : s.all isIdChar = true) :
    isIfEnd (s ++ ' ' :: arrowTail sign behind) = false := by
  rw [isIfEnd, isEndKeyword]
  cases hdrop : dropKeyword? ['e', 'n', 'd'] (s ++ ' ' :: arrowTail sign behind) with
  | none => rfl
  | some left =>
      obtain ⟨s', hs', rfl, -⟩ := exists_of_dropKeyword? (by decide) hs hdrop
      have hwhole : isWholeKeyword "if" (s' ++ ' ' :: arrowTail sign behind) = false :=
        isWholeKeyword_eq_false hs' "if" (by decide)
      cases s' with
      -- behind `end` alone the second keyword may also stand behind the blank, where the sign is
      | nil =>
          have hif : dropKeyword? "if".toList (arrowTail sign behind) = none :=
            dropKeyword?_arrowTail (by decide)
          have hsign : isWholeKeyword "if" (arrowTail sign behind) = false := by
            rw [isWholeKeyword, hif]
            rfl
          simp only [List.nil_append, hsign, Bool.and_false, Bool.false_or] at hwhole ⊢
          exact hwhole
      | cons c cs =>
          rw [List.all_cons, Bool.and_eq_true] at hs'
          simp only [List.cons_append, isBlank_of_isIdChar hs'.1, Bool.false_and,
            Bool.false_or] at hwhole ⊢
          exact hwhole

lemma readIf?_eq_none (hs : s.all isIdChar = true) :
    readIf? (s ++ ' ' :: arrowTail sign behind) = none := by
  refine bind_dropKeyword?_eq_none (by decide) hs ?_
  intro s' hs' _
  simp [ifCondition?_eq_none hs']

/-- No condition stands behind an `else`, be the `if` behind it part of the word or not there. -/
lemma bind_ifCondition?_eq_none (hs : s.all isIdChar = true) :
    (dropKeyword? ['i', 'f'] (skipBlank (s ++ ' ' :: arrowTail sign behind))).bind ifCondition?
      = none := by
  cases s with
  | nil =>
      have hskip : skipBlank (' ' :: arrowTail sign behind) = arrowTail sign behind := by
        cases sign <;> rfl
      rw [List.nil_append, hskip, dropKeyword?_arrowTail (by decide)]
      rfl
  | cons c cs =>
      have hc : isBlank c = false :=
        isBlank_of_isIdChar (List.all_eq_true.mp hs c List.mem_cons_self)
      have hskip : skipBlank (c :: cs ++ ' ' :: arrowTail sign behind)
          = c :: cs ++ ' ' :: arrowTail sign behind := skipBlank_of_head_not_blank _ hc
      rw [hskip]
      exact bind_dropKeyword?_eq_none (by decide) hs fun s' hs' _ => ifCondition?_eq_none hs'

lemma readElse?_eq_none (hs : s.all isIdChar = true) :
    readElse? (s ++ ' ' :: arrowTail sign behind) = none := by
  refine bind_dropKeyword?_eq_none (by decide) hs ?_
  intro s' hs' _
  have hcondition : (dropKeyword? ['i', 'f']
      (skipBlank (s' ++ ' ' :: arrowTail sign behind))).bind ifCondition? = none :=
    bind_ifCondition?_eq_none hs'
  obtain ⟨c, cs, hskip, hcs, -, -⟩ := exists_skipBlank_eq sign behind hs'
  rw [hskip] at hcondition
  simp [hskip, hcondition, endsHere_eq_false hcs, inParens_eq_none hs']

lemma readLoopEnd?_eq_none (hs : s.all isIdChar = true) :
    readLoopEnd? (s ++ ' ' :: arrowTail sign behind) = none := by
  refine bind_dropKeyword?_eq_none (by decide) hs ?_
  intro s' hs' _
  cases s' with
  | nil =>
      have hwhile : dropKeyword? ['w', 'h', 'i', 'l', 'e'] (arrowTail sign behind) = none :=
        dropKeyword?_arrowTail (by decide)
      simp [skipBlanks1?_arrowTail, hwhile]
  | cons c cs =>
      rw [List.all_cons, Bool.and_eq_true] at hs'
      simp [skipBlanks1?_eq_none hs'.1]

lemma readLoopStart?_eq_none (hs : s.all isIdChar = true) :
    readLoopStart? (s ++ ' ' :: arrowTail sign behind) = none := by
  refine bind_dropKeyword?_eq_none (by decide) hs ?_
  intro s' hs' _
  obtain ⟨c, cs, hskip, -, -, hcolon⟩ := exists_skipBlank_eq sign behind hs'
  simp [hskip, hcolon]

lemma readSkinparam?_eq_none (hs : s.all isIdChar = true)
    (hkeyword : s.map Char.toLower ≠ "skinparam".toList) :
    readSkinparam? (s ++ ' ' :: arrowTail sign behind) = none := by
  refine bind_dropKeyword?_eq_none (by decide) hs ?_
  intro s' hs' hnil
  cases s' with
  | nil => exact absurd (hnil rfl) hkeyword
  | cons c cs =>
      rw [List.all_cons, Bool.and_eq_true] at hs'
      simp [skipBlanks1?_eq_none hs'.1]

lemma readNote?_eq_none (hs : s.all isIdChar = true)
    (hkeyword : s.map Char.toLower ≠ "note".toList) :
    readNote? (s ++ ' ' :: arrowTail sign behind) = none := by
  refine bind_dropKeyword?_eq_none (by decide) hs ?_
  intro s' hs' hnil
  cases s' with
  | nil => exact absurd (hnil rfl) hkeyword
  | cons c cs =>
      rw [List.all_cons, Bool.and_eq_true] at hs'
      simp [startsWord, isWordChar_of_isIdChar hs'.1]

end Forms

/-! ## Arrows -/

lemma Word.exists_cons (w : Word) : ∃ c cs, w.chars = c :: cs ∧ isIdChar c = true := by
  obtain ⟨c, cs, hchars⟩ := List.exists_cons_of_ne_nil w.nonempty
  exact ⟨c, cs, hchars, List.all_eq_true.mp w.plain c (hchars ▸ List.mem_cons_self)⟩

lemma arrowSign?_text (sign : ArrowSign) (behind : List Char) :
    arrowSign? (arrowTail sign behind) = some (sign, ' ' :: behind) := by
  cases sign <;> rfl

/-- The first sign of an arrow line is the one behind the first word. -/
lemma Word.readArrow?_eq (w : Word) (sign : ArrowSign) {behind : List Char}
    (hbehind : skipBlank behind = behind) :
    readArrow? (w.chars ++ ' ' :: arrowTail sign behind)
      = some (readArrow w.chars sign behind) := by
  have hblank : skipBlank (' ' :: arrowTail sign behind) = arrowTail sign behind := by
    cases sign <;> rfl
  have hfound : shortest (fun cs => arrowSign? (skipBlank cs))
      (w.chars ++ ' ' :: arrowTail sign behind) = some (w.chars, sign, ' ' :: behind) := by
    rw [shortest_append]
    · simp [shortest, hblank, arrowSign?_text]
    · intro c tail hsuffix
      have hmem : c ∈ w.chars := hsuffix.subset List.mem_cons_self
      have hc : isIdChar c = true := List.all_eq_true.mp w.plain c hmem
      rw [List.cons_append, skipBlank_of_head_not_blank _ (isBlank_of_isIdChar hc)]
      exact arrowSign?_cons (ne_of_isIdChar hc (by decide)) (ne_of_isIdChar hc (by decide)) _
  have hstart : actionStart? (w.chars ++ ' ' :: arrowTail sign behind) = none := by
    obtain ⟨c, cs, hchars, hc⟩ := w.exists_cons
    have hcolon : c ≠ ':' := ne_of_isIdChar hc (by decide)
    have hcolor : c ≠ '#' := ne_of_isIdChar hc (by decide)
    simp [hchars, actionStart?, hcolon, hcolor]
  have hsome : isBlankText w.chars = false := by
    have hblank := w.blank_text
    rwa [blank, w.toList_text] at hblank
  have hskip : skipBlank (' ' :: behind) = behind := by
    rw [skipBlank_cons_of_blank _ (by decide), hbehind]
  simp [readArrow?, hfound, hstart, hsome, hskip]

/-- **A line of a word and an arrow is an arrow**, whatever is open, unless the word takes what
    follows it as it comes. -/
theorem Word.read_of_arrow (w : Word) (ifOpen : Bool) (sign : ArrowSign) {behind : List Char}
    (hskinparam : w.chars.map Char.toLower ≠ "skinparam".toList)
    (hnote : w.chars.map Char.toLower ≠ "note".toList) (hbehind : skipBlank behind = behind) :
    Line.read ifOpen (w.chars ++ ' ' :: arrowTail sign behind)
      = readArrow w.chars sign behind := by
  have hmark : ∀ k ks, isIdChar k = false → ¬ (97 ≤ k.toNat ∧ k.toNat ≤ 122) →
      dropKeyword? (k :: ks) (w.chars ++ ' ' :: arrowTail sign behind) = none := by
    intro k ks hk hlower
    obtain ⟨c, cs, hchars, hc⟩ := w.exists_cons
    rw [hchars, List.cons_append, dropKeyword?, if_neg]
    intro hsame
    exact toLower_ne (ne_of_isIdChar hc hk) hlower (toLower_eq_of_sameLetter hc hsame)
  have hstyle : isStyleOpen (w.chars ++ ' ' :: arrowTail sign behind) = false := by
    have hdrop : dropKeyword? "<style".toList (w.chars ++ ' ' :: arrowTail sign behind) = none :=
      hmark _ _ (by decide) (by decide)
    rw [isStyleOpen, hdrop]
    rfl
  have hpragma : readPragma? (w.chars ++ ' ' :: arrowTail sign behind) = none := by
    rw [readPragma?, hmark '!' [] (by decide) (by decide)]
    rfl
  have helse : (if ifOpen = true then readElse? (w.chars ++ ' ' :: arrowTail sign behind) else none)
      = none := by
    rw [readElse?_eq_none w.plain, ite_self]
  simp [Line.read, plain?, hstyle, hpragma, helse, readSkinparam?_eq_none w.plain hskinparam,
    readNote?_eq_none w.plain hnote, isWholeKeyword_eq_false w.plain, readIf?_eq_none w.plain,
    isIfEnd_eq_false w.plain, readLoopEnd?_eq_none w.plain, readLoopStart?_eq_none w.plain,
    w.readArrow?_eq sign hbehind]

/-! ## Arrows between words -/

/-- The label of an arrow behind its target. -/
def labelPart : Option Word → List Char
  | none => []
  | some label => " : ".toList ++ label.chars

/-- The line of an arrow between words. -/
def arrowLine (source : Word) (sign : ArrowSign) (target : Word) (label : Option Word) :
    List Char :=
  source.chars ++ ' ' :: arrowTail sign (target.chars ++ labelPart label)

lemma arrowEnd_eq_self {cs : List Char} (h : Tight cs) (hquote : '\x22' ∉ cs) :
    arrowEnd cs = cs := by
  have hnone : ∀ c tail, c :: tail <:+ cs → quotedPiece? (c :: tail) = none := by
    intro c tail hsuffix
    have hc : c ≠ '\x22' := by
      rintro rfl
      exact hquote (hsuffix.subset List.mem_cons_self)
    unfold quotedPiece?
    split <;> simp_all
  rw [arrowEnd, replaceMatches_of_none hnone, h.trim_eq]

namespace Word

variable (w : Word)

lemma not_mem_chars {x : Char} (hx : isIdChar x = false) : x ∉ w.chars := by
  intro hmem
  exact ne_of_isIdChar (List.all_eq_true.mp w.plain x hmem) hx rfl

lemma arrowEnd_chars : arrowEnd w.chars = w.chars :=
  arrowEnd_eq_self w.wordy.tight (w.not_mem_chars (by decide))

/-- A target and its label begin with the target and end with the label. -/
lemma tight_labelPart (label : Option Word) : Tight (w.chars ++ labelPart label) := by
  cases label with
  | none =>
      rw [labelPart, List.append_nil]
      exact w.wordy.tight
  | some label => exact w.wordy.tight.append label.wordy.tight " : ".toList

lemma arrowEnd_labelPart (label : Option Word) :
    arrowEnd (w.chars ++ labelPart label) = w.chars ++ labelPart label := by
  refine arrowEnd_eq_self (w.tight_labelPart label) ?_
  have hquote : ∀ w : Word, '\x22' ∉ w.chars := fun w => w.not_mem_chars (by decide)
  cases label with
  | none => simp [labelPart, hquote]
  | some label => simp [labelPart, hquote]

/-- The label of an arrow is found behind the first colon, which no word holds. -/
lemma splitLabel_labelPart (label : Option Word) :
    splitLabel (w.chars ++ labelPart label) = (w.chars, label.map text) := by
  obtain ⟨c, cs, hchars, hc⟩ := w.exists_cons
  have hcolon : c ≠ ':' := ne_of_isIdChar hc (by decide)
  have hinside : ∀ behind c' tail, c' :: tail <:+ cs →
      arrowLabel? (c' :: tail ++ behind) = none := by
    intro behind c' tail hsuffix
    have hmem : c' ∈ w.chars := hchars ▸ List.mem_cons_of_mem c (hsuffix.subset List.mem_cons_self)
    have hc' : isIdChar c' = true := List.all_eq_true.mp w.plain c' hmem
    have hcolon' : c' ≠ ':' := ne_of_isIdChar hc' (by decide)
    rw [List.cons_append, arrowLabel?, skipBlank_of_head_not_blank _ (isBlank_of_isIdChar hc')]
    split
    · rename_i heq
      exact absurd (List.cons.inj heq).1 hcolon'
    · rfl
  cases label with
  | none =>
      have hnone : shortest arrowLabel? (cs ++ []) = none := by
        rw [shortest_append (hinside [])]
        rfl
      rw [List.append_nil] at hnone
      simp [labelPart, hchars, splitLabel, hcolon, hnone]
  | some label =>
      have htrim : trim (' ' :: label.chars) = label.chars := by
        rw [trim, skipBlank_cons_of_blank _ (by decide)]
        exact label.wordy.tight.trim_eq
      have hat : arrowLabel? (' ' :: ':' :: ' ' :: label.chars) = some label.chars := by
        simp [arrowLabel?, skipBlank, isBlank, htrim]
      have hlabel : shortest arrowLabel? (' ' :: ':' :: ' ' :: label.chars)
          = some ([], label.chars) := by
        rw [shortest, hat]
      have hfound : shortest arrowLabel? (cs ++ ' ' :: ':' :: ' ' :: label.chars)
          = some (cs, label.chars) := by
        rw [shortest_append (hinside _), hlabel]
        simp
      simp [labelPart, hchars, splitLabel, hcolon, hfound, text]

/-- **An arrow to a word**, with a label or without one. -/
theorem readArrow_labelPart {sign : ArrowSign} (hsign : sign.reversed = false) (target : Word)
    (label : Option Word) : readArrow w.chars sign (target.chars ++ labelPart label)
      = .arrow w.text target.text (label.map text) := by
  simp [readArrow, hsign, w.arrowEnd_chars, target.arrowEnd_labelPart, target.splitLabel_labelPart,
    target.nonempty, text]

end Word

lemma skipBlank_labelPart (target : Word) (label : Option Word) :
    skipBlank (target.chars ++ labelPart label) = target.chars ++ labelPart label := by
  obtain ⟨c, cs, hchars, hc⟩ := target.exists_cons
  rw [hchars, List.cons_append, skipBlank_of_head_not_blank _ (isBlank_of_isIdChar hc)]

/-- **The line of an arrow between words is read as this arrow**, whatever is open. -/
theorem read_arrowLine (ifOpen : Bool) {source : Word} {sign : ArrowSign}
    (hskinparam : source.chars.map Char.toLower ≠ "skinparam".toList)
    (hnote : source.chars.map Char.toLower ≠ "note".toList) (hsign : sign.reversed = false)
    (target : Word) (label : Option Word) : Line.read ifOpen (arrowLine source sign target label)
      = .arrow source.text target.text (label.map Word.text) := by
  rw [arrowLine, source.read_of_arrow ifOpen sign hskinparam hnote
    (skipBlank_labelPart target label), source.readArrow_labelPart hsign]

/-- The line of an arrow stands for itself. -/
lemma stands_arrowLine (source : Word) (sign : ArrowSign) (target : Word) (label : Option Word) :
    Stands (arrowLine source sign target label) := by
  have hfree : ∀ cs : List Char, BreakFree (" : ".toList ++ cs) ↔ BreakFree cs := by
    intro cs
    simp [BreakFree, isLineBreak]
  have htight : Tight (arrowLine source sign target label) := by
    have happend := source.wordy.tight.append (target.tight_labelPart label)
      (' ' :: (sign.text.toList ++ [' ']))
    simpa [arrowLine, arrowTail] using happend
  refine stands_of_ends ?_ ?_ ?_
  · have hblank : isLineBreak ' ' = false := by decide
    have hsign : BreakFree sign.text.toList := by
      cases sign <;> decide
    have hlabel : BreakFree (labelPart label) := by
      cases label with
      | none => exact List.forall_mem_nil _
      | some label => exact (hfree _).mpr label.wordy.breakFree
    simp only [BreakFree, arrowLine, arrowTail, List.forall_mem_append, List.forall_mem_cons]
    exact ⟨source.wordy.breakFree, hblank, hsign, hblank, target.wordy.breakFree, hlabel⟩
  · obtain ⟨c, cs, hchars, hc⟩ := source.exists_cons
    have hat : c.toLower ≠ '@' := toLower_ne (ne_of_isIdChar hc (by decide)) (by decide)
    have hquote : c ≠ '\x27' := ne_of_isIdChar hc (by decide)
    have hslash : c ≠ '/' := ne_of_isIdChar hc (by decide)
    simp [arrowLine, hchars, opensLine, isBlank_of_isIdChar hc, hat, hquote, hslash]
  · have hlast := List.getLast?_eq_some_getLast htight.nonempty
    rw [hlast, Option.any_some, htight.last _ hlast]
    rfl

end ActivityFlow.Diagram
