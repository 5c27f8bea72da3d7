import ActivityFlow.Proofs.Diagram.Drawing

/-!
# Closing by hand and at the end

What a diagram leaves open is closed at its end, innermost first.  A line `endif` does a part of
that work: it closes the loops inside the innermost `if`, and then the `if`.  So the lines may be
written out or left away, and as many more of them may follow as one likes, since outside of every
`if` the line says nothing.

* `unwind_eq_close` — closing everything is closing the innermost frame, and then everything.
* `unwind_closeIf` — hence an `endif` changes nothing in what the end of the diagram comes to.
* **`read_closedBy`** — a text reads the same with any number of lines `endif` behind it.

**Notes are the exception.**  A long note that is not ended swallows the lines behind it, and what
it swallows is its text.  `swallower` follows the lines and tells whether one is open.  A style
block swallows lines too, but it keeps them out of the definition, so it needs no exception.
-/

namespace ActivityFlow.Diagram

open ActivityFlow.Text

/-! ## What swallows lines -/

/-- What the next line falls into. -/
inductive Swallower where
  | nothing
  | style
  | note
  deriving DecidableEq, Repr

/-- What a line of a form opens. -/
def Line.swallower : Line → Swallower
  | .style false => .style
  | .blockNote _ => .note
  | _ => .nothing

/-- What the line behind a line falls into. -/
def Swallower.next : Swallower → List Char → Swallower
  | .nothing, raw => (Line.read false raw).swallower
  | .style, raw => if isStyleEnd raw then .nothing else .style
  | .note, raw => if isNoteEnd raw then .nothing else .note

/-- What a line behind these lines falls into. -/
def swallower (lines : List (List Char)) : Swallower :=
  lines.foldl Swallower.next .nothing

/-- The forms of an option swallow nothing. -/
def SwallowsNothing (form? : Option Line) : Prop :=
  ∀ form ∈ form?, form.swallower = .nothing

lemma SwallowsNothing.orElse {first : Option Line} {second : Option Line}
    (hfirst : SwallowsNothing first) (hsecond : SwallowsNothing second) :
    SwallowsNothing (first <|> second) := by
  cases first with
  | none => exact hsecond
  | some form => exact hfirst

lemma swallowsNothing_plain? {form : Line} (h : form.swallower = .nothing) (fits : Bool) :
    SwallowsNothing (plain? fits form) := by
  cases fits <;> simp [SwallowsNothing, plain?, h]

lemma swallowsNothing_bind {α : Type} {found : Option α} {next : α → Option Line}
    (h : ∀ a, SwallowsNothing (next a)) : SwallowsNothing (found >>= next) := by
  cases found with
  | none => exact fun _ hform => absurd hform (by simp)
  | some a => exact h a

lemma swallowsNothing_some {form : Line} (h : form.swallower = .nothing) :
    SwallowsNothing (some form) := by
  simpa [SwallowsNothing] using h

lemma swallowsNothing_none : SwallowsNothing none := by
  simp [SwallowsNothing]

lemma swallowsNothing_readElse? (raw : List Char) : SwallowsNothing (readElse? raw) := by
  refine swallowsNothing_bind fun rest => ?_
  split
  · exact swallowsNothing_some rfl
  · dsimp only
    split
    · exact swallowsNothing_some rfl
    · exact swallowsNothing_none

lemma swallowsNothing_readLoopEnd? (raw : List Char) : SwallowsNothing (readLoopEnd? raw) :=
  swallowsNothing_bind fun _ => swallowsNothing_bind fun _ => swallowsNothing_bind fun _ =>
    swallowsNothing_bind fun _ => swallowsNothing_some rfl

lemma swallowsNothing_readLoopStart? (raw : List Char) : SwallowsNothing (readLoopStart? raw) := by
  refine swallowsNothing_bind fun rest => ?_
  split
  · split
    · exact swallowsNothing_some rfl
    · exact swallowsNothing_none
  · split
    · exact swallowsNothing_some rfl
    · exact swallowsNothing_none
  · exact swallowsNothing_none

lemma swallower_readArrow (before behind : List Char) (sign : ArrowSign) :
    (readArrow before sign behind).swallower = .nothing := by
  simp only [readArrow]
  generalize arrowEnd (if sign.reversed = true then before else behind) = target
  cases (splitLabel target).1.isEmpty <;> rfl

lemma swallowsNothing_readArrow? (raw : List Char) : SwallowsNothing (readArrow? raw) := by
  refine swallowsNothing_bind fun found => ?_
  dsimp only
  split
  · exact swallowsNothing_some (swallower_readArrow _ _ _)
  · exact swallowsNothing_none

lemma swallowsNothing_readAction? (raw : List Char) : SwallowsNothing (readAction? raw) := by
  rintro form hform
  obtain ⟨text, -, rfl⟩ := Option.map_eq_some_iff.mp hform
  rfl

lemma SwallowsNothing.swallower_getD {form? : Option Line} (h : SwallowsNothing form?) :
    (form?.getD .unknown).swallower = .nothing := by
  cases form? with
  | none => rfl
  | some form => exact h form rfl

lemma swallower_orElse_congr (first : Option Line) {second second' : Option Line}
    (h : (second.getD .unknown).swallower = (second'.getD .unknown).swallower) :
    ((first <|> second).getD .unknown).swallower
      = ((first <|> second').getD .unknown).swallower := by
  cases first with
  | none => exact h
  | some form => rfl

/-- Whether an `if` is open decides only between forms that swallow nothing. -/
lemma swallower_read (ifOpen : Bool) (raw : List Char) :
    (Line.read ifOpen raw).swallower = (Line.read false raw).swallower := by
  have hlate : ∀ isOpen, SwallowsNothing
      ((if isOpen then readElse? raw else none) <|> plain? (isOpen && isIfEnd raw) .closeIf <|>
        readLoopEnd? raw <|> readLoopStart? raw <|> readArrow? raw <|> readAction? raw) := by
    intro isOpen
    refine .orElse ?_ <| .orElse (swallowsNothing_plain? rfl _) <|
      .orElse (swallowsNothing_readLoopEnd? raw) <| .orElse (swallowsNothing_readLoopStart? raw) <|
        .orElse (swallowsNothing_readArrow? raw) (swallowsNothing_readAction? raw)
    cases isOpen
    · exact swallowsNothing_none
    · exact swallowsNothing_readElse? raw
  -- up to the `else` the readers are the same
  unfold Line.read
  iterate 7 refine swallower_orElse_congr _ ?_
  rw [(hlate ifOpen).swallower_getD, (hlate false).swallower_getD]

/-! ## The block that is open -/

/-- What the next line falls into while a block is open. -/
def Block.swallower : Block → Swallower
  | .none => .nothing
  | .style _ => .style
  | .note _ _ => .note

namespace Draft

variable {d : Draft}

/-! Only lines that open a block change it; what they do to the graph leaves it alone. -/

@[simp] lemma block_resolve (d : Draft) (token : String) :
    (d.resolve token).1.block = d.block := by
  simp only [resolve]
  split
  · split <;> rfl
  · split
    · rfl
    · split <;> rfl

@[simp] lemma block_attach (d : Draft) (id : String) : (d.attach id).block = d.block := by
  rw [attach_eq]

@[simp] lemma block_act (d : Draft) (text : ActionText) : (d.act text).block = d.block := by
  cases text with
  | empty written => rfl
  | labelled label stereotype =>
      cases stereotype <;> simp [act, declare, modifyNode]

@[simp] lemma block_annotateTarget (d : Draft) (target : Option String) (body : String) :
    (d.annotateTarget target body).block = d.block := by
  cases target with
  | some token => simp [annotateTarget, annotate, modifyNode]
  | none =>
      simp only [annotateTarget]
      split <;> rfl

@[simp] lemma block_addArrow (d : Draft) (source target : String) (condition : Option String) :
    (d.addArrow source target condition).block = d.block := by
  simp only [addArrow]
  split
  · simp [beginAt]
  · split <;> simp [jump, link_eq]

@[simp] lemma block_closeFrame (d : Draft) (f : Frame) : (d.closeFrame f).block = d.block := by
  cases f with
  | branches decision ended current => rw [closeFrame, closeBranches_eq rfl]; rfl
  | loop entry => rw [closeFrame, closeLoop_eq rfl]; rfl

@[simp] lemma block_unwind (d : Draft) (kind : Frame → Bool) : (d.unwind kind).block = d.block :=
  unwind_induction (P := fun d' => d'.block = d.block)
    (fun d' f rest _ _ h => (block_closeFrame { d' with frames := rest } f).trans h) rfl

@[simp] lemma block_closeIf (d : Draft) : d.closeIf.block = d.block := by
  simp only [closeIf]
  split
  · exact (block_closeFrame _ (.branches ..)).trans (block_unwind d _)
  · exact block_unwind d _

@[simp] lemma block_endLoop (d : Draft) (condition : String) :
    (d.endLoop condition).block = d.block := by
  simp only [endLoop]
  split
  · rw [closeLoop_eq rfl]
    exact block_unwind d _
  · exact block_unwind d _

@[simp] lemma block_nextBranch (d : Draft) (condition : String) :
    (d.nextBranch condition).block = d.block := by
  simp only [nextBranch]
  split <;> exact block_unwind d _

lemma swallower_takeLine (hblock : d.block = .none) (raw : List Char) :
    (d.takeLine raw).block.swallower = (Line.read false raw).swallower := by
  rw [← swallower_read d.ifOpen]
  simp only [takeLine]
  cases Line.read d.ifOpen raw with
  | style ends => cases ends <;> simp [addStyleBlock, hblock, Block.swallower, Line.swallower]
  | closeLoop condition =>
      dsimp only
      split <;> simp [skip, hblock, Block.swallower, Line.swallower]
  | openLoop first =>
      cases first <;>
        simp [openLoop, addMade, addNode, hblock, Block.swallower, Line.swallower]
  | _ =>
      simp [skip, begin, beginAt, halt, declare, openIf, addMade, addNode, hblock,
        Block.swallower, Line.swallower]

/-- The open block follows the lines as `swallower` does. -/
lemma swallower_step (d : Draft) (raw : List Char) :
    (d.step raw).block.swallower = d.block.swallower.next raw := by
  simp only [step]
  split
  · rename_i hblock
    rw [hblock]
    exact swallower_takeLine hblock raw
  · rename_i lines hblock
    rw [hblock]
    cases hends : isStyleEnd raw <;>
      simp [hends, addStyleBlock, Block.swallower, Swallower.next]
  · rename_i target lines hblock
    rw [hblock]
    cases hends : isNoteEnd raw <;> simp [hends, endNote, Block.swallower, Swallower.next]

lemma swallower_foldl (lines : List (List Char)) (d : Draft) :
    (lines.foldl step d).block.swallower = lines.foldl Swallower.next d.block.swallower := by
  induction lines generalizing d with
  | nil => rfl
  | cons raw rest ih => rw [List.foldl_cons, List.foldl_cons, ih, swallower_step]

/-! ## Closing one frame more -/

/-- **Unwinding is closing the innermost frame and unwinding the rest**, unless the innermost frame
    is where unwinding stops. -/
lemma unwind_eq_close {f : Frame} {rest : List Frame} {kind : Frame → Bool}
    (hframes : d.frames = f :: rest) (hkind : kind f = false) :
    d.unwind kind = ({ d with frames := rest }.closeFrame f).unwind kind := by
  have hlength : ({ d with frames := rest }.closeFrame f).frames.length = rest.length := by simp
  rw [unwind, unwind, hlength, hframes, List.length_cons, closeUpTo, hframes]
  simp only [hkind, Bool.false_eq_true, if_false]

/-- Whatever is closed first, closing everything comes to the same. -/
lemma unwind_unwind (d : Draft) (kind : Frame → Bool) :
    (d.unwind kind).unwind (fun _ => false) = d.unwind fun _ => false :=
  unwind_induction (P := fun d' => d'.unwind (fun _ => false) = d.unwind fun _ => false)
    (fun _ _ _ hframes _ h => (unwind_eq_close hframes rfl).symm.trans h) rfl

/-- **An `endif` does a part of what the end of the diagram does.** -/
theorem unwind_closeIf (d : Draft) :
    d.closeIf.unwind (fun _ => false) = d.unwind fun _ => false := by
  rw [← unwind_unwind d isBranches, closeIf]
  split
  · rename_i hframes
    exact (unwind_eq_close hframes rfl).symm
  · rfl

/-! ## What is said aside -/

/-- A draft with another open block and other remarks. -/
def aside (d : Draft) (block : Block) (remarks : Remarks) : Draft :=
  { d with block := block, remarks := remarks }

lemma closeFrame_aside (d : Draft) (f : Frame) (block : Block) (remarks : Remarks) :
    (d.aside block remarks).closeFrame f = (d.closeFrame f).aside block remarks := by
  cases f with
  | branches decision ended current =>
      simp only [closeFrame]
      rw [closeBranches_eq rfl, closeBranches_eq rfl]
      rfl
  | loop entry =>
      simp only [closeFrame]
      rw [closeLoop_eq rfl, closeLoop_eq rfl]
      rfl

lemma unwind_aside (d : Draft) (kind : Frame → Bool) (block : Block) (remarks : Remarks) :
    (d.aside block remarks).unwind kind = (d.unwind kind).aside block remarks := by
  suffices ∀ count d, closeUpTo kind count (d.aside block remarks)
      = (closeUpTo kind count d).aside block remarks from this _ d
  intro count
  induction count with
  | zero => exact fun _ => rfl
  | succ count ih =>
      intro d
      rw [closeUpTo, closeUpTo]
      have hframes : (d.aside block remarks).frames = d.frames := rfl
      rw [hframes]
      split
      · rfl
      · rename_i f rest _
        split
        · rfl
        · rw [← ih, ← closeFrame_aside]
          rfl

/-- **One line `endif` more changes only what is said aside**, unless a note takes it in. -/
lemma finish_step_endif (hnote : d.block.swallower ≠ .note) : ∃ block remarks,
    (d.step "endif".toList).finish = d.finish.aside block remarks := by
  cases hblock : d.block with
  | none =>
      have hfinish : d.finish = d.unwind fun _ => false := by rw [finish, endBlock, hblock]
      cases hopen : d.ifOpen with
      | true =>
          refine ⟨d.finish.block, d.finish.remarks, ?_⟩
          rw [step_endif hblock hopen, finish, endBlock, block_closeIf, hblock, hfinish]
          exact unwind_closeIf d
      | false =>
          -- outside of every `if` the line is a remark
          have hread : Line.read false "endif".toList = .unknown := by decide +kernel
          have hstep : d.step "endif".toList = d.skip "endif" := by
            simp only [step, hblock, takeLine, hopen, hread, String.ofList_toList]
          refine ⟨.none, (d.skip "endif").remarks, ?_⟩
          rw [hstep, hfinish, ← unwind_aside]
          simp only [finish, endBlock, skip, aside, hblock]
  | style lines =>
      have hend : isStyleEnd "endif".toList = false := by decide +kernel
      have hstep : d.step "endif".toList
          = d.aside (.style (lines ++ ["endif".toList])) d.remarks := by
        simp only [step, hblock, hend, Bool.false_eq_true, if_false, aside]
      refine ⟨.none, (d.addStyleBlock (lines ++ ["endif".toList])).remarks, ?_⟩
      rw [hstep]
      simp only [finish, endBlock, hblock, ← unwind_aside]
      rfl
  | note target lines => exact absurd (by rw [hblock]; rfl) hnote

lemma finish_foldl_endif (n : ℕ) : ∀ {d : Draft}, d.block.swallower ≠ .note → ∃ block remarks,
    ((List.replicate n "endif".toList).foldl step d).finish = d.finish.aside block remarks := by
  induction n with
  | zero => exact fun {d} _ => ⟨d.finish.block, d.finish.remarks, rfl⟩
  | succ n ih =>
      intro d hnote
      have hstays : (d.step "endif".toList).block.swallower ≠ .note := by
        rw [swallower_step]
        have hfree : (Line.read false "endif".toList).swallower = .nothing := by decide +kernel
        have hend : isStyleEnd "endif".toList = false := by decide +kernel
        cases hblock : d.block.swallower <;> simp_all [Swallower.next]
      obtain ⟨block, remarks, hrest⟩ := ih hstays
      obtain ⟨block', remarks', hfirst⟩ := finish_step_endif hnote
      rw [List.replicate_succ, List.foldl_cons, hrest, hfirst]
      exact ⟨block, remarks, rfl⟩

end Draft

/-! ## Texts -/

/-- A text with a number of lines `endif` behind it. -/
def closedBy (text : String) : ℕ → String
  | 0 => text
  | n + 1 => closedBy text n ++ "\nendif"

lemma prepareLines_closedBy (text : String) (n : ℕ) : prepareLines (closedBy text n).toList
    = prepareLines text.toList ++ List.replicate n "endif".toList := by
  have hendif : prepareLines "endif".toList = ["endif".toList] := by decide +kernel
  induction n with
  | zero => simp [closedBy]
  | succ n ih =>
      have hlist : (closedBy text (n + 1)).toList
          = (closedBy text n).toList ++ '\n' :: "endif".toList := by simp [closedBy]
      rw [List.replicate_succ', ← List.append_assoc, ← ih, ← hendif, hlist,
        prepareLines_append_break (by decide)]

lemma blank_closedBy {text : String} (h : blank text = false) (n : ℕ) :
    blank (closedBy text n) = false := by
  induction n with
  | zero => exact h
  | succ n ih =>
      simp only [blank, isBlankText, closedBy, String.toList_append, List.all_append] at ih ⊢
      rw [ih, Bool.false_and]

/-- **A text reads the same with any number of lines `endif` behind it**, as long as it leaves no
    long note open. -/
theorem read_closedBy (text : String) (id name : Option String) (supply : IdSupply) (n : ℕ)
    (hblank : blank text = false) (hnote : swallower (prepareLines text.toList) ≠ .note) :
    ∃ reading closed supply', read (some text) id name supply = (.ok reading, supply') ∧
      read (some (closedBy text n)) id name supply = (.ok closed, supply') ∧
        closed.definition = reading.definition := by
  have hdefinition : ∀ usedId usedName, (readAs (closedBy text n).toList usedId usedName).definition
      = (readAs text.toList usedId usedName).definition := by
    intro usedId usedName
    have hopen : ((prepareLines text.toList).foldl Draft.step {}).block.swallower ≠ .note := by
      rw [Draft.swallower_foldl]
      exact hnote
    obtain ⟨block, remarks, hfinish⟩ := Draft.finish_foldl_endif n hopen
    simp only [readAs, Draft.ofLines, prepareLines_closedBy, List.foldl_append, hfinish]
    rfl
  simp only [read, hblank, blank_closedBy hblank, Bool.false_eq_true, if_false]
  cases nonEmpty? id with
  | some id => exact ⟨_, _, _, rfl, rfl, hdefinition _ _⟩
  | none => exact ⟨_, _, _, rfl, rfl, hdefinition _ _⟩

/-- A loop left open inside a branch, which two of the lines close and three leave alone. -/
theorem read_closedBy_openLoop :
    blank "if (a) then\nif (b) then\nrepeat\n:C;" = false ∧
      swallower (prepareLines "if (a) then\nif (b) then\nrepeat\n:C;".toList) ≠ .note ∧
      ∃ reading closed supply',
        read (some "if (a) then\nif (b) then\nrepeat\n:C;") (some "w") none {}
          = (.ok reading, supply') ∧
        read (some (closedBy "if (a) then\nif (b) then\nrepeat\n:C;" 5)) (some "w") none {}
          = (.ok closed, supply') ∧
        closed.definition = reading.definition :=
  ⟨by decide, by decide +kernel,
    read_closedBy _ (some "w") none {} 5 (by decide) (by decide +kernel)⟩

end ActivityFlow.Diagram
