import ActivityFlow.Proofs.Diagram.Reading
import Mathlib.Data.List.TakeWhile

/-!
# The layout of a text

Lines can be laid out freely.  They may be indented, ended by any of the line breaks, and stand
between rows that are left out: empty rows, comments, and the two rows around a diagram.  None of
this can be seen in what is read, not even inside a note or a style block, since a row is trimmed
and left out before anything else is looked at.

Line breaks are blank characters themselves, so the blanks around a line may break it off from the
line before and from the line behind.  The row that this makes is empty and is left out again.

* `Joined` — rows with a line break between each two of them.
* `Reindented`, `LeftOut`, `LaidOut` — the rows that lines are laid out in.
* `prepareLines_padded` — blanks around a line do not matter.
* **`read_laidOut`** — lines are read alike in every layout, and as they are prepared.
-/

namespace ActivityFlow.Diagram

open ActivityFlow.Text

/-! ## Layouts -/

/-- What ends a row: one of the line breaks, or a carriage return and a line feed together. -/
def IsLineEnd (cs : List Char) : Prop :=
  (∃ c, isLineBreak c = true ∧ cs = [c]) ∨ cs = ['\r', '\n']

/-- **The text of rows**, each but the last with something behind it that ends it. -/
inductive Joined : List (List Char) → List Char → Prop
  | last (row : List Char) : Joined [row] row
  | next {row ending text : List Char} {rows : List (List Char)} (ends : IsLineEnd ending)
      (rest : Joined rows text) : Joined (row :: rows) (row ++ (ending ++ text))

/-- A row holds a text with blanks around it. -/
def Padded (core row : List Char) : Prop :=
  ∃ before behind, isBlankText before = true ∧ isBlankText behind = true ∧
    row = before ++ (core ++ behind)

/-- A line with other blanks around it, more or fewer. -/
def Reindented (line row : List Char) : Prop :=
  ∃ core, Padded core line ∧ Padded core row

/-- **Rows that are left out.** -/
inductive LeftOut : List Char → Prop
  | blank {row : List Char} (empty : isBlankText row = true) : LeftOut row
  | comment {before mark rest : List Char} (indent : isBlankText before = true)
      (marked : mark = ['\x27'] ∨ mark = ['/', '/']) (breakFree : BreakFree rest) :
      LeftOut (before ++ (mark ++ rest))
  /-- The beginning or the end of the diagram, in any case. -/
  | limit {before word rest : List Char} (indent : isBlankText before = true)
      (named : word.map Char.toLower = "@startuml".toList ∨
        word.map Char.toLower = "@enduml".toList) (breakFree : BreakFree rest) :
      LeftOut (before ++ (word ++ rest))

/-- **Rows that lines are laid out in**: the lines in their order, with other blanks around them,
    and rows that are left out in any places. -/
inductive LaidOut : List (List Char) → List (List Char) → Prop
  | done : LaidOut [] []
  | line {line row : List Char} {lines rows : List (List Char)} (holds : Reindented line row)
      (rest : LaidOut lines rows) : LaidOut (line :: lines) (row :: rows)
  | leftOut {row : List Char} {lines rows : List (List Char)} (skips : LeftOut row)
      (rest : LaidOut lines rows) : LaidOut lines (row :: rows)

/-! ## Preparing one row -/

lemma prepareLines_nil : prepareLines [] = [] := rfl

/-- The line of a text without line breaks. -/
lemma prepareLines_of_breakFree {cs : List Char} (h : BreakFree cs) :
    prepareLines cs = [trim cs].filter isRead := by
  rw [prepareLines, splitLines_of_breakFree h, List.map_singleton]

/-- A blank in front of a text is trimmed off its first line, or makes an empty line of its own. -/
lemma prepareLines_cons_of_blank {c : Char} (hc : isBlank c = true) (cs : List Char) :
    prepareLines (c :: cs) = prepareLines cs := by
  by_cases hbreak : isLineBreak c = true
  · have happend := prepareLines_append_break hbreak [] cs
    rwa [List.nil_append, prepareLines_nil, List.nil_append] at happend
  · rw [prepareLines, prepareLines, splitLines, if_neg hbreak]
    cases hcs : splitLines cs with
    | nil => exact absurd hcs (splitLines_ne_nil cs)
    | cons l ls =>
        have htrim : trim (c :: l) = trim l := by
          rw [trim, trim, skipBlank_cons_of_blank l hc]
        simp only [List.map_cons, htrim]

lemma prepareLines_append_of_blank {before : List Char} (h : isBlankText before = true)
    (cs : List Char) : prepareLines (before ++ cs) = prepareLines cs := by
  induction before with
  | nil => rfl
  | cons c before ih =>
      simp only [isBlankText, List.all_cons, Bool.and_eq_true] at h
      rw [List.cons_append, prepareLines_cons_of_blank h.1, ih h.2]

/-- A blank text has no lines that are read. -/
lemma prepareLines_of_isBlankText {cs : List Char} (h : isBlankText cs = true) :
    prepareLines cs = [] := by
  have happend := prepareLines_append_of_blank h []
  rwa [List.append_nil, prepareLines_nil] at happend

lemma trim_append_of_isBlank (cs : List Char) {c : Char} (hc : isBlank c = true) :
    trim (cs ++ [c]) = trim cs := by
  rcases skipBlank_eq_nil_or_cons cs with hskip | ⟨d, rest, hskip, hd⟩
  · have hblank : isBlankText cs = true := by
      exact List.all_eq_true.mpr (List.dropWhile_eq_nil_iff.mp hskip)
    rw [trim, trim, hskip, skipBlank_append hblank, skipBlank_cons_of_blank [] hc]
    rfl
  · have happend : skipBlank (cs ++ [c]) = skipBlank cs ++ [c] := by
      rw [skipBlank, skipBlank, List.dropWhile_append, if_neg]
      rw [← skipBlank, hskip]
      simp
    rw [trim, trim, happend, dropBlankEnd_append (by simpa [isBlankText] using hc)]

/-- Blanks behind a line are trimmed off it, up to the first line break among them; what stands
    behind that makes empty lines. -/
lemma prepareLines_append_blank {behind : List Char} (h : isBlankText behind = true) :
    ∀ {cs : List Char}, BreakFree cs → prepareLines (cs ++ behind) = prepareLines cs := by
  induction behind with
  | nil => exact fun {cs} _ => by rw [List.append_nil]
  | cons c behind ih =>
      intro cs hcs
      simp only [isBlankText, List.all_cons, Bool.and_eq_true] at h
      by_cases hbreak : isLineBreak c = true
      · rw [prepareLines_append_break hbreak, prepareLines_of_isBlankText h.2, List.append_nil]
      · have hlonger : BreakFree (cs ++ [c]) := by
          refine List.forall_mem_append.mpr ⟨hcs, ?_⟩
          simpa using hbreak
        have hsplit : cs ++ c :: behind = (cs ++ [c]) ++ behind := by simp
        rw [hsplit, ih h.2 hlonger, prepareLines_of_breakFree hlonger,
          prepareLines_of_breakFree hcs, trim_append_of_isBlank cs h.1]

/-- **Blanks around a text do not matter**, line breaks among them. -/
theorem prepareLines_padded {core row : List Char} (hcore : BreakFree core)
    (h : Padded core row) : prepareLines row = prepareLines core := by
  obtain ⟨before, behind, hbefore, hbehind, rfl⟩ := h
  rw [prepareLines_append_of_blank hbefore, prepareLines_append_blank hbehind hcore]

lemma Padded.breakFree {core row : List Char} (h : Padded core row) (hrow : BreakFree row) :
    BreakFree core := by
  obtain ⟨before, behind, -, -, rfl⟩ := h
  exact fun c hc => hrow c (List.mem_append_right _ (List.mem_append_left _ hc))

lemma Reindented.prepareLines_eq {line row : List Char} (h : Reindented line row)
    (hline : BreakFree line) : prepareLines row = prepareLines line := by
  obtain ⟨core, hpadded, hrow⟩ := h
  have hcore := hpadded.breakFree hline
  rw [prepareLines_padded hcore hrow, prepareLines_padded hcore hpadded]

/-! ## Rows that are left out -/

/-- A blank is no upper-case letter. -/
lemma toLower_of_isBlank {c : Char} (h : isBlank c = true) : c.toLower = c := by
  unfold Char.toLower
  split
  · rename_i hupper
    have hge : 65 ≤ c.toNat := UInt32.le_iff_toNat_le.mp hupper.1
    have hle : c.toNat ≤ 90 := UInt32.le_iff_toNat_le.mp hupper.2
    simp only [isBlank, Bool.or_eq_true, Bool.and_eq_true, decide_eq_true_eq, beq_iff_eq] at h
    omega
  · rfl

/-- Characters that are not blank stay in front of what is trimmed behind them. -/
lemma trim_append_of_not_blank {front : List Char} (hne : front ≠ [])
    (h : ∀ c ∈ front, isBlank c = false) (rest : List Char) :
    trim (front ++ rest) = front ++ dropBlankEnd rest := by
  have hkept : ∀ {cs : List Char}, (∀ c ∈ cs, isBlank c = false) →
      dropBlankEnd (cs ++ rest) = cs ++ dropBlankEnd rest := by
    intro cs hcs
    induction cs with
    | nil => rfl
    | cons c cs ih =>
        rw [List.forall_mem_cons] at hcs
        rw [List.cons_append, dropBlankEnd_cons_of_not_blank _ hcs.1, ih hcs.2, List.cons_append]
  obtain ⟨c, cs, rfl⟩ := List.exists_cons_of_ne_nil hne
  rw [trim, List.cons_append, skipBlank_of_head_not_blank _ (h c List.mem_cons_self),
    ← List.cons_append, hkept h]

/-- A row is left out for what stands in front. -/
lemma prepareLines_eq_nil_of_front {before front rest : List Char}
    (hbefore : isBlankText before = true) (hne : front ≠ []) (hfront : front.any isBlank = false)
    (hrest : BreakFree rest) (hread : ∀ behind, isRead (front ++ behind) = false) :
    prepareLines (before ++ (front ++ rest)) = [] := by
  have hblank : ∀ c ∈ front, isBlank c = false := fun c hc =>
    Bool.eq_false_iff.mpr (List.any_eq_false.mp hfront c hc)
  have hfree : BreakFree front := by
    intro c hc
    by_contra hbreak
    rw [Bool.not_eq_false] at hbreak
    exact Bool.noConfusion ((isBlank_of_isLineBreak hbreak).symm.trans (hblank c hc))
  rw [prepareLines_append_of_blank hbefore,
    prepareLines_of_breakFree (List.forall_mem_append.mpr ⟨hfree, hrest⟩),
    trim_append_of_not_blank hne hblank]
  simp [hread]

/-- The beginning and the end of a diagram are left out, in any case. -/
lemma prepareLines_limit {before front rest : List Char} {word : String}
    (hbefore : isBlankText before = true) (hlower : front.map Char.toLower = word.toList)
    (hword : word.toList ≠ [] ∧ word.toList.any isBlank = false) (hrest : BreakFree rest)
    (hread : ∀ line, startsWithWord word line = true → isRead line = false) :
    prepareLines (before ++ (front ++ rest)) = [] := by
  refine prepareLines_eq_nil_of_front hbefore ?_ ?_ hrest ?_
  · rintro rfl
    exact hword.1 hlower.symm
  · refine List.any_eq_false.mpr fun c hc hblank => ?_
    have hmem : c ∈ word.toList := by
      rw [← hlower, ← toLower_of_isBlank hblank]
      exact List.mem_map_of_mem hc
    exact List.any_eq_false.mp hword.2 c hmem hblank
  · intro behind
    refine hread _ ?_
    rw [startsWithWord, List.map_append, hlower]
    simp

lemma LeftOut.prepareLines_eq {row : List Char} (h : LeftOut row) : prepareLines row = [] := by
  cases h with
  | blank empty => exact prepareLines_of_isBlankText empty
  | comment indent marked breakFree =>
      rcases marked with rfl | rfl
      · exact prepareLines_eq_nil_of_front indent (by decide) (by decide) breakFree
          fun behind => by simp [isRead]
      · exact prepareLines_eq_nil_of_front indent (by decide) (by decide) breakFree
          fun behind => by simp [isRead]
  | limit indent named breakFree =>
      rcases named with hlower | hlower
      · exact prepareLines_limit indent hlower (by decide) breakFree
          fun line hstarts => by simp [isRead, hstarts]
      · exact prepareLines_limit indent hlower (by decide) breakFree
          fun line hstarts => by simp [isRead, hstarts]

/-! ## Preparing a text -/

lemma IsLineEnd.prepareLines_append {ending : List Char} (h : IsLineEnd ending)
    (row text : List Char) :
    prepareLines (row ++ (ending ++ text)) = prepareLines row ++ prepareLines text := by
  rcases h with ⟨c, hbreak, rfl⟩ | rfl
  · exact prepareLines_append_break hbreak row text
  · have hreturn : prepareLines (row ++ '\r' :: '\n' :: text)
        = prepareLines row ++ prepareLines ('\n' :: text) :=
      prepareLines_append_break (by decide) row _
    -- between the two characters stands an empty row
    rw [prepareLines_cons_of_blank (by decide)] at hreturn
    exact hreturn

/-- **The rows of a text are prepared one by one**, whatever ends them. -/
theorem Joined.prepareLines_eq {rows : List (List Char)} {text : List Char} (h : Joined rows text) :
    prepareLines text = rows.flatMap prepareLines := by
  induction h with
  | last row => simp
  | next ends rest ih => rw [ends.prepareLines_append, ih, List.flatMap_cons]

/-- Every layout of lines is prepared into the same lines. -/
theorem LaidOut.flatMap_prepareLines {lines rows : List (List Char)} (h : LaidOut lines rows)
    (hfree : ∀ l ∈ lines, BreakFree l) :
    rows.flatMap prepareLines = lines.flatMap prepareLines := by
  induction h with
  | done => rfl
  | line holds rest ih =>
      rw [List.forall_mem_cons] at hfree
      rw [List.flatMap_cons, List.flatMap_cons, holds.prepareLines_eq hfree.1, ih hfree.2]
  | leftOut skips rest ih => rw [List.flatMap_cons, skips.prepareLines_eq, List.nil_append, ih hfree]

lemma mem_of_mem_trim {c : Char} {cs : List Char} (h : c ∈ trim cs) : c ∈ cs := by
  have hend : ∀ {cs : List Char}, c ∈ dropBlankEnd cs → c ∈ cs := by
    intro cs
    induction cs with
    | nil => exact id
    | cons d cs ih =>
        rw [dropBlankEnd_cons]
        split
        · exact fun h => absurd h List.not_mem_nil
        · exact fun h => List.mem_cons.mpr ((List.mem_cons.mp h).imp id ih)
  exact (List.dropWhile_sublist isBlank).subset (hend h)

/-- Prepared lines stand for themselves. -/
lemma stands_of_mem_prepareLines {text line : List Char} (h : line ∈ prepareLines text) :
    Stands line := by
  obtain ⟨hmem, hread⟩ := List.mem_filter.mp h
  obtain ⟨row, hrow, rfl⟩ := List.mem_map.mp hmem
  exact ⟨fun c hc => not_isLineBreak_of_mem_splitLines hrow (mem_of_mem_trim hc), trim_trim row,
    hread⟩

/-- **Preparing prepared lines changes nothing.** -/
theorem prepareLines_prepareLines {text : List Char} (hsome : prepareLines text ≠ []) :
    prepareLines (textOf (prepareLines text)).toList = prepareLines text := by
  rw [textOf, String.toList_ofList]
  exact prepareLines_intercalate hsome fun _ => stands_of_mem_prepareLines

/-! ## Reading a text -/

lemma blank_of_prepareLines {text : String} (hsome : prepareLines text.toList ≠ []) :
    blank text = false := by
  by_contra hblank
  rw [Bool.not_eq_false] at hblank
  exact hsome (prepareLines_of_isBlankText hblank)

/-- Texts with the same prepared lines, at least one, are read alike. -/
lemma readAs_congr {text text' : List Char} (h : prepareLines text = prepareLines text')
    (id name : String) : readAs text id name = readAs text' id name := by
  rw [readAs, readAs, h]

/-- **The layout of a text does not matter.**  Lines of which at least one is read are read under
    the same id and name in every layout, with the same remarks.  As they are prepared, they are
    read so too. -/
theorem read_laidOut {lines rows : List (List Char)} {text text' : String}
    (hfree : ∀ l ∈ lines, BreakFree l) (hsome : ∃ l ∈ lines, isRead (trim l) = true)
    (htext : Joined lines text.toList) (htext' : Joined rows text'.toList)
    (hrows : LaidOut lines rows) (id name : Option String) (supply : IdSupply) :
    ∃ reading supply', read (some text) id name supply = (.ok reading, supply') ∧
      read (some text') id name supply = (.ok reading, supply') ∧
      read (some (textOf (prepareLines text.toList))) id name supply = (.ok reading, supply') := by
  have hlines := htext.prepareLines_eq
  have hsame : prepareLines text'.toList = prepareLines text.toList := by
    rw [hlines, htext'.prepareLines_eq, hrows.flatMap_prepareLines hfree]
  have hne : prepareLines text.toList ≠ [] := by
    obtain ⟨l, hl, hread⟩ := hsome
    have hmem : trim l ∈ prepareLines text.toList := by
      rw [hlines, List.mem_flatMap]
      exact ⟨l, hl, by rw [prepareLines_of_breakFree (hfree l hl)]; simpa using hread⟩
    exact List.ne_nil_of_mem hmem
  have hprepared := prepareLines_prepareLines hne
  obtain ⟨usedId, usedName, supply', hread⟩ := exists_read_eq id name supply
  refine ⟨readAs text.toList usedId usedName, supply', ?_, ?_, ?_⟩
  · exact hread text (blank_of_prepareLines hne)
  · rw [hread text' (blank_of_prepareLines (hsame ▸ hne)), readAs_congr hsame]
  · rw [hread _ (blank_of_prepareLines (by rwa [hprepared])), readAs_congr hprepared]

/-- A note in a layout of its own: a line separator among the blanks around its line, a comment and
    an empty row inside of it, and another line break behind each row. -/
theorem read_laidOut_note :
    let lines := ["start", "note right", " Hi", "end note"].map String.toList
    let rows := ["@StartUML", "\tstart", "note right ", "' --> A", "\u2028Hi", "", "end note"].map
      String.toList
    let text := "start\nnote right\n Hi\nend note"
    let text' := "@StartUML\u0085\tstart\r\nnote right \x0b' --> A\n\u2028Hi\u2029\x1eend note"
    ((∀ l ∈ lines, BreakFree l) ∧ (∃ l ∈ lines, isRead (trim l) = true) ∧
      Joined lines text.toList ∧ Joined rows text'.toList ∧ LaidOut lines rows) ∧
    ∃ reading supply', read (some text) (some "w") none {} = (.ok reading, supply') ∧
      read (some text') (some "w") none {} = (.ok reading, supply') ∧
      read (some (textOf (prepareLines text.toList))) (some "w") none {}
        = (.ok reading, supply') := by
  intro lines rows text text'
  have hends : ∀ c, isLineBreak c = true → IsLineEnd [c] := fun c hc => Or.inl ⟨c, hc, rfl⟩
  have hsame : ∀ line : List Char, Reindented line line := fun line =>
    ⟨line, ⟨[], [], rfl, rfl, by simp⟩, ⟨[], [], rfl, rfl, by simp⟩⟩
  have hfree : ∀ l ∈ lines, BreakFree l := by decide
  have hsome : ∃ l ∈ lines, isRead (trim l) = true := ⟨"start".toList, by decide, by decide⟩
  have htext : Joined lines text.toList := by
    have hrows : text.toList = "start".toList ++ (['\n'] ++ ("note right".toList ++ (['\n'] ++
        (" Hi".toList ++ (['\n'] ++ "end note".toList))))) := by decide
    rw [hrows]
    have hfeed := hends '\n' (by decide)
    exact .next hfeed (.next hfeed (.next hfeed (.last _)))
  have htext' : Joined rows text'.toList := by
    have hrows : text'.toList = "@StartUML".toList ++ (['\u0085'] ++ ("\tstart".toList ++
        (['\r', '\n'] ++ ("note right ".toList ++ (['\x0b'] ++ ("' --> A".toList ++ (['\n'] ++
        ("\u2028Hi".toList ++ (['\u2029'] ++ ("".toList ++ (['\x1e'] ++
        "end note".toList))))))))))) := by decide
    rw [hrows]
    exact .next (hends _ (by decide)) (.next (Or.inr rfl) (.next (hends _ (by decide))
      (.next (hends _ (by decide)) (.next (hends _ (by decide)) (.next (hends _ (by decide))
        (.last _))))))
  have hlimit : LeftOut "@StartUML".toList :=
    @LeftOut.limit [] "@StartUML".toList [] rfl (Or.inl (by decide)) (by decide)
  have hcomment : LeftOut "' --> A".toList :=
    @LeftOut.comment [] ['\x27'] " --> A".toList rfl (Or.inl rfl) (by decide)
  have hrows : LaidOut lines rows :=
    .leftOut hlimit (.line ⟨"start".toList, ⟨[], [], rfl, rfl, rfl⟩, ⟨['\t'], [], rfl, rfl, rfl⟩⟩
      (.line ⟨"note right".toList, ⟨[], [], rfl, rfl, rfl⟩, ⟨[], [' '], rfl, rfl, rfl⟩⟩
        (.leftOut hcomment
          (.line ⟨"Hi".toList, ⟨[' '], [], rfl, rfl, rfl⟩, ⟨['\u2028'], [], rfl, rfl, rfl⟩⟩
            (.leftOut (.blank rfl) (.line (hsame _) .done))))))
  exact ⟨⟨hfree, hsome, htext, htext', hrows⟩,
    read_laidOut hfree hsome htext htext' hrows (some "w") none {}⟩

end ActivityFlow.Diagram
