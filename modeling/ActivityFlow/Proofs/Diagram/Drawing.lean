import ActivityFlow.Proofs.Diagram.Lowering

/-!
# Reading a structured program

The reader of diagrams has no syntax to recurse over.  It takes one line after the other, keeps open
branches and loops on a stack of frames, and remembers for each branch whether it was entered and
where it ended.  **`read_lowers`** says that for every program, at every depth of nesting, it comes
to the graph that the program lowers to.

* `Draws` — a draft shows a sketch, with the cursor and the frames that belong to it.
* `EndsBranch` — a draft at the end of a branch.  What the frame remembers of its branches is what
  the lowering keeps as their ends (`endOf`).
* `Statement.draws`, `Program.draws`, `Others.draws` — running the lines of a piece of syntax keeps
  a draft at what the piece lowers to.  One induction over the three kinds of syntax.
-/

namespace ActivityFlow.Diagram

open ActivityFlow.Text

namespace Draft

/-! ## Drafts that show a sketch -/

/-- A draft shows a sketch, goes on from a cursor, and has some frames open.  What was declared last
    and what was said beside the graph does not matter. -/
structure Draws (d : Draft) (s : Sketch) (cursor : Option Cursor) (frames : List Frame) :
    Prop where
  entries : d.entries = s.nodes
  transitions : d.transitions = s.links
  counter : d.counter = s.counter
  starts : d.startPoints = [⟨"Start"⟩]
  tail : d.tail = cursor.map (·.tail)
  pending : d.pending = cursor.bind (·.pending)
  frames : d.frames = frames
  block : d.block = .none

variable {d : Draft} {s : Sketch} {cursor : Option Cursor} {frames : List Frame}

lemma edge_eq (hspeaks : Speaks cursor) (target : String) : s.edge cursor target
    = { s with
        links := s.links
          ++ linkOf s.links.length (cursor.map (·.tail)) target (cursor.bind (·.pending)) } := by
  cases cursor with
  | none => simp [Sketch.edge, linkOf]
  | some c =>
      obtain ⟨tail, pending⟩ := c
      cases pending with
      | none =>
          by_cases h : tail = target <;>
            simp [Sketch.edge, linkOf, isBlankCondition, blank?, h]
      | some condition =>
          have hblank := hspeaks _ rfl _ rfl
          simp [Sketch.edge, linkOf, isBlankCondition, blank?, hblank]

/-! ## The moves of a draft that shows a sketch -/

lemma Draws.addMade (h : Draws d s cursor frames) (label : String) (origin : Origin) :
    ∃ d', d.addMade label origin = (d', (s.make label origin).2) ∧
      Draws d' (s.make label origin).1 cursor frames := by
  have hmade : (d.addMade label origin).2 = (s.make label origin).2 := by
    simp [Draft.addMade, Sketch.make, ids, h.entries, h.counter]
  refine ⟨(d.addMade label origin).1, by rw [← hmade], ?_⟩
  constructor
  · simp [Draft.addMade, Sketch.make, addNode, ids, h.entries, h.counter]
  · exact h.transitions
  · simp [Draft.addMade, Sketch.make, addNode, ids, h.entries, h.counter]
  · exact h.starts
  · exact h.tail
  · exact h.pending
  · exact h.frames
  · exact h.block

/-- A word names the same node in the draft as in the sketch. -/
lemma Draws.resolve (h : Draws d s cursor frames) (w : Word) :
    ∃ d', d.resolve w.text = (d', (s.nodeOf w.text).2) ∧
      Draws d' (s.nodeOf w.text).1 cursor frames := by
  have hfind : d.findDeclared? w.text = (s.nodes.find? fun e =>
      e.origin = .declared && e.node.label = some w.text).map (·.node.id) := by
    simp only [findDeclared?, h.entries, Bool.and_comm]
  rw [Draft.resolve, w.strip_text, if_neg w.text_ne_startMarker, Sketch.nodeOf]
  dsimp only
  rw [w.normalizeLabel_text, hfind]
  cases s.nodes.find? fun e => e.origin = .declared && e.node.label = some w.text with
  | some e => exact ⟨d, rfl, h⟩
  | none =>
      have hids : d.ids = s.nodes.map (·.node.id) := by rw [ids, h.entries]
      have hnonempty : w.text.isEmpty = false := by simpa using w.text_ne_empty
      by_cases hused : w.text ∈ s.nodes.map (·.node.id)
      · simp only [hids, hused, List.contains_eq_mem, decide_true, Bool.not_true, Bool.and_false,
          Bool.false_eq_true, if_false, if_true]
        exact h.addMade w.text .declared
      · simp only [hids, hused, hnonempty, List.contains_eq_mem, decide_false, Bool.not_false,
          Bool.and_self, if_true, if_false]
        refine ⟨_, rfl, ?_, h.transitions, h.counter, h.starts, h.tail, h.pending, h.frames,
          h.block⟩
        simp [addNode, h.entries]

/-- The moves that do not look at the sketch leave it alone. -/
lemma Draws.declare (h : Draws d s cursor frames) (id : String) :
    Draws (d.declare id) s cursor frames :=
  ⟨h.entries, h.transitions, h.counter, h.starts, h.tail, h.pending, h.frames, h.block⟩

lemma Draws.attach (h : Draws d s cursor frames) (hspeaks : Speaks cursor) (id : String) :
    Draws (d.attach id) (s.edge cursor id) (some ⟨id, none⟩) (enterTop frames) := by
  rw [attach_eq, edge_eq hspeaks]
  exact ⟨h.entries, by rw [h.transitions, h.tail, h.pending], h.counter, h.starts, rfl, rfl,
    by rw [h.frames], h.block⟩

/-! ## Statements without a body -/

lemma Draws.act (h : Draws d s cursor frames) (hspeaks : Speaks cursor) (label : Word) :
    Draws (d.act (.labelled label.text none)) ((s.nodeOf label.text).1.edge cursor
      (s.nodeOf label.text).2) (some ⟨(s.nodeOf label.text).2, none⟩) (enterTop frames) := by
  obtain ⟨d', hresolve, hdraws⟩ := h.resolve label
  simp only [Draft.act, hresolve]
  exact (hdraws.attach hspeaks _).declare _

/-- The label of the final node is a word. -/
def stopWord : Word :=
  ⟨"Stop".toList, by decide, by decide⟩

lemma Draws.halt (h : Draws d s cursor frames) (hspeaks : Speaks cursor) :
    Draws d.halt ((s.nodeOf "Stop").1.edge cursor (s.nodeOf "Stop").2) none (enterTop frames) := by
  obtain ⟨d', hresolve, hdraws⟩ := h.resolve stopWord
  have htext : stopWord.text = "Stop" := by simp [stopWord, Word.text]
  rw [htext] at hresolve hdraws
  have hdone := (hdraws.attach hspeaks (s.nodeOf "Stop").2).declare (s.nodeOf "Stop").2
  simp only [Draft.halt, hresolve]
  refine ⟨hdone.entries, hdone.transitions, hdone.counter, hdone.starts, rfl, ?_, hdone.frames,
    hdone.block⟩
  simp [Draft.declare, attach_eq]

/-! ## Frames -/

/-- A frame of the kind on top is not unwound. -/
lemma unwind_of_frames {f : Frame} {rest : List Frame} {kind : Frame → Bool}
    (hframes : d.frames = f :: rest) (hkind : kind f = true) : d.unwind kind = d := by
  simp [unwind, closeUpTo, hframes, hkind]

variable {decision : String} {ended : List Branch} {current : Branch}

/-- Where a branch of a decision ends: at its tail, or at the decision when it is not entered. -/
def endOf (decision : String) (b : Branch) : Option Cursor :=
  if b.entered then b.tail.map (⟨·, none⟩) else some ⟨decision, some b.condition⟩

lemma edge_endOf {b : Branch} (hspeak : blank b.condition = false) (join : String) :
    s.edge (endOf decision b) join
      = { s with
          links := s.links ++ if b.entered then linkOf s.links.length b.tail join none
            else linkOf s.links.length (some decision) join (some b.condition) } := by
  cases hentered : b.entered with
  | true =>
      have hspeaks : Speaks (b.tail.map (⟨·, none⟩)) := by
        intro c hc condition hcondition
        obtain ⟨tail, -, rfl⟩ := Option.map_eq_some_iff.mp hc
        simp at hcondition
      simp only [endOf, hentered, if_true, edge_eq hspeaks]
      cases b.tail <;> rfl
  | false =>
      have hspeaks : Speaks (some ⟨decision, some b.condition⟩) := by
        simpa [Speaks] using hspeak
      simp only [endOf, hentered, Bool.false_eq_true, if_false, edge_eq hspeaks]
      rfl

/-- The transitions to a join are the links from where the branches end. -/
lemma foldl_edge_endOf {join : String} (branches : List Branch) :
    ∀ s : Sketch, (∀ b ∈ branches, blank b.condition = false) →
      (branches.map (endOf decision)).foldl (fun s cursor => s.edge cursor join) s
        = { s with links := s.links ++ joinsOf decision join s.links.length branches } := by
  induction branches with
  | nil => intro s _; simp [joinsOf]
  | cons b rest ih =>
      intro s hspeak
      rw [List.map_cons, List.foldl_cons, edge_endOf (hspeak b List.mem_cons_self),
        ih _ fun b' hb' => hspeak b' (List.mem_cons_of_mem _ hb')]
      simp [joinsOf]

lemma Draws.openIf (h : Draws d s cursor frames) (hspeaks : Speaks cursor) (condition : String) :
    Draws (d.openIf condition)
      ((s.make ("if: " ++ condition) .decision).1.edge cursor
        (s.make ("if: " ++ condition) .decision).2)
      (some ⟨(s.make ("if: " ++ condition) .decision).2, some condition⟩)
      (.branches (s.make ("if: " ++ condition) .decision).2 [] ⟨condition, false, none⟩
        :: enterTop frames) := by
  obtain ⟨d', hmade, hdraws⟩ := h.addMade ("if: " ++ condition) .decision
  have hdone := (hdraws.attach hspeaks (s.make ("if: " ++ condition) .decision).2).declare
    (s.make ("if: " ++ condition) .decision).2
  simp only [Draft.openIf, hmade]
  exact ⟨hdone.entries, hdone.transitions, hdone.counter, hdone.starts, hdone.tail, rfl,
    by rw [hdone.frames], hdone.block⟩

/-- A draft at the end of the current branch of an `if`, which ends at the cursor. -/
structure EndsBranch (d : Draft) (s : Sketch) (cursor : Option Cursor) (decision : String)
    (ended : List Branch) (current : Branch) (rest : List Frame) : Prop where
  draws : Draws d s cursor (.branches decision ended current :: rest)
  speaks : ∀ b ∈ ended ++ [current], blank b.condition = false
  ends : endOf decision (endBranch current d.tail) = cursor

lemma EndsBranch.ifOpen (h : EndsBranch d s cursor decision ended current frames) :
    d.ifOpen = true := by
  simp [Draft.ifOpen, h.draws.frames, isBranches]

lemma EndsBranch.speaks_endBranch (h : EndsBranch d s cursor decision ended current frames) :
    ∀ b ∈ ended ++ [endBranch current d.tail], blank b.condition = false := by
  intro b hb
  rcases List.mem_append.mp hb with hb | hb
  · exact h.speaks b (List.mem_append_left _ hb)
  · rw [List.mem_singleton.mp hb]
    exact h.speaks current (List.mem_append_right _ (List.mem_singleton_self _))

lemma EndsBranch.map_endOf (h : EndsBranch d s cursor decision ended current frames) :
    (ended ++ [endBranch current d.tail]).map (endOf decision)
      = ended.map (endOf decision) ++ [cursor] := by
  simp [h.ends]

lemma EndsBranch.nextBranch (h : EndsBranch d s cursor decision ended current frames)
    (condition : String) : Draws (d.nextBranch condition) s (some ⟨decision, some condition⟩)
      (.branches decision (ended ++ [endBranch current d.tail]) ⟨condition, false, none⟩
        :: frames) := by
  have hdraws := h.draws
  have hunwound : d.unwind isBranches = d := unwind_of_frames hdraws.frames rfl
  simp only [Draft.nextBranch, hunwound, hdraws.frames]
  exact ⟨hdraws.entries, hdraws.transitions, hdraws.counter, hdraws.starts, rfl, rfl, rfl,
    hdraws.block⟩

/-- Closing an `if` joins its branches from where they end. -/
lemma EndsBranch.closeIf (h : EndsBranch d s cursor decision ended current frames) :
    Draws d.closeIf (s.joinFrom (ended.map (endOf decision) ++ [cursor])).1
      (s.joinFrom (ended.map (endOf decision) ++ [cursor])).2 (enterTop frames) := by
  have hframes := h.draws.frames
  have hpopped : Draws { d with frames := frames } s cursor frames :=
    ⟨h.draws.entries, h.draws.transitions, h.draws.counter, h.draws.starts, h.draws.tail,
      h.draws.pending, rfl, h.draws.block⟩
  obtain ⟨d', hmade, hdraws⟩ := hpopped.addMade "join" .join
  have hunwound : d.unwind isBranches = d := unwind_of_frames hframes rfl
  have hlinks : (s.make "join" .join).1.links = s.links := rfl
  simp only [Draft.closeIf, hunwound, hframes]
  rw [closeBranches_eq hmade, ← h.map_endOf]
  simp only [Sketch.joinFrom, foldl_edge_endOf _ _ h.speaks_endBranch, hlinks]
  exact ⟨hdraws.entries, by rw [← h.draws.transitions], hdraws.counter, hdraws.starts, rfl, rfl,
    rfl, hdraws.block⟩

lemma Draws.openLoop (h : Draws d s cursor frames) (hspeaks : Speaks cursor) :
    Draws (d.openLoop none)
      ((s.make "loop_entry" .loopEntry).1.edge cursor (s.make "loop_entry" .loopEntry).2)
      (some ⟨(s.make "loop_entry" .loopEntry).2, none⟩)
      (.loop (s.make "loop_entry" .loopEntry).2 :: enterTop frames) := by
  obtain ⟨d', hmade, hdraws⟩ := h.addMade "loop_entry" .loopEntry
  have hdone := hdraws.attach hspeaks (s.make "loop_entry" .loopEntry).2
  simp only [Draft.openLoop, hmade]
  exact ⟨hdone.entries, hdone.transitions, hdone.counter, hdone.starts, hdone.tail, hdone.pending,
    by rw [hdone.frames], hdone.block⟩

/-- The draft tells an empty body by its tail, which is the entry of the loop then and only then. -/
lemma leaveLoop_eq {entry after condition : String} {empty : Bool}
    (hspeak : blank condition = false) (hempty : empty = true → cursor = some ⟨entry, none⟩)
    (hbody : empty = false → ∀ c ∈ cursor, c.tail ≠ entry) :
    s.leaveLoop entry after condition empty cursor
      = { s with
          links := s.links
            ++ exitsOf s.links.length (cursor.map (·.tail)) entry after (some condition) } := by
  have hplain : ∀ tail, Speaks (some ⟨tail, none⟩) := by simp [Speaks]
  cases empty with
  | true =>
      rw [hempty rfl, Sketch.leaveLoop, if_pos rfl, edge_eq (hplain entry)]
      simp [exitsOf]
  | false =>
      cases cursor with
      | none => simp [Sketch.leaveLoop, exitsOf, linkOf]
      | some c =>
          have hne : c.tail ≠ entry := hbody rfl c rfl
          have hback : Speaks (some ⟨c.tail, some condition⟩) := by simpa [Speaks] using hspeak
          simp only [Sketch.leaveLoop, Bool.false_eq_true, if_false, edge_eq hback,
            edge_eq (hplain c.tail)]
          simp [exitsOf, hne]

/-- Closing a loop leads back and on from the end of its body. -/
lemma Draws.endLoop {entry : String} (h : Draws d s cursor (.loop entry :: frames))
    {condition : String} {empty : Bool} (hspeak : blank condition = false)
    (hempty : empty = true → cursor = some ⟨entry, none⟩)
    (hbody : empty = false → ∀ c ∈ cursor, c.tail ≠ entry) :
    Draws (d.endLoop condition)
      ((s.make "after_loop" .afterLoop).1.leaveLoop entry (s.make "after_loop" .afterLoop).2
        condition empty cursor)
      (some ⟨(s.make "after_loop" .afterLoop).2, none⟩) (enterTop frames) := by
  have hpopped : Draws { d with frames := frames } s cursor frames :=
    ⟨h.entries, h.transitions, h.counter, h.starts, h.tail, h.pending, rfl, h.block⟩
  obtain ⟨d', hmade, hdraws⟩ := hpopped.addMade "after_loop" .afterLoop
  have hunwound : d.unwind (fun f => !isBranches f) = d := unwind_of_frames h.frames rfl
  have hlinks : (s.make "after_loop" .afterLoop).1.links = s.links := rfl
  simp only [Draft.endLoop, hunwound, h.frames]
  rw [closeLoop_eq hmade, leaveLoop_eq hspeak hempty hbody, hlinks]
  exact ⟨hdraws.entries, by rw [← h.transitions, ← h.tail], hdraws.counter, hdraws.starts, rfl,
    rfl, rfl, hdraws.block⟩

/-! ## Running the lines of a program -/

lemma step_actionLine (hblock : d.block = .none) (label : Word) :
    d.step (actionLine label) = d.act (.labelled label.text none) := by
  simp only [step, hblock, takeLine, read_actionLine]

lemma step_stop (hblock : d.block = .none) : d.step "stop".toList = d.halt := by
  simp only [step, hblock, takeLine, read_stop]

lemma step_ifLine (hblock : d.block = .none) (condition : Word) :
    d.step (ifLine condition) = d.openIf condition.text := by
  simp only [step, hblock, takeLine, read_ifLine]

lemma step_elseIfLine (hblock : d.block = .none) (hopen : d.ifOpen = true) (condition : Word) :
    d.step (elseIfLine condition) = d.nextBranch condition.text := by
  simp only [step, hblock, takeLine, hopen, read_elseIfLine]

lemma step_else (hblock : d.block = .none) (hopen : d.ifOpen = true) :
    d.step "else".toList = d.nextBranch "else" := by
  simp only [step, hblock, takeLine, hopen, read_else, elseCondition]

lemma step_endif (hblock : d.block = .none) (hopen : d.ifOpen = true) :
    d.step "endif".toList = d.closeIf := by
  simp only [step, hblock, takeLine, hopen, read_endif]

lemma step_repeat (hblock : d.block = .none) : d.step "repeat".toList = d.openLoop none := by
  simp only [step, hblock, takeLine, read_repeat]

lemma step_whileLine (hblock : d.block = .none) (hopen : d.loopOpen = true) (condition : Word) :
    d.step (whileLine condition) = d.endLoop condition.text := by
  simp only [step, hblock, takeLine, read_whileLine, hopen, if_true]

end Draft

open Draft

/-- The frames behind a program: a statement enters the innermost branch, and nothing else does. -/
def Program.enters (p : Program) (frames : List Frame) : List Frame :=
  if p.isEmpty then frames else enterTop frames

lemma Program.enters_loop (p : Program) (entry : String) (rest : List Frame) :
    p.enters (.loop entry :: rest) = .loop entry :: rest := by
  cases p <;> simp [enters]

lemma Program.enters_enterTop (p : Program) (frames : List Frame) :
    p.enters (enterTop frames) = enterTop frames := by
  cases p <;> simp [enters]

lemma Program.enters_nil (p : Program) : p.enters [] = [] := by
  cases p <;> simp [enters]

lemma Program.lower_of_isEmpty {p : Program} (hempty : p.isEmpty = true) (s : Sketch)
    (cursor : Option Cursor) : (p.lower s cursor).2 = cursor := by
  cases p with
  | done => rfl
  | next first rest => simp [isEmpty] at hempty

lemma Program.enters_branches (p : Program) (decision condition : String) (ended : List Branch)
    (rest : List Frame) : p.enters (.branches decision ended ⟨condition, false, none⟩ :: rest)
      = .branches decision ended ⟨condition, !p.isEmpty, none⟩ :: rest := by
  cases p <;> simp [enters, isEmpty]

/-- Behind the lines of a branch, its frame says where it ends. -/
lemma Draft.Draws.endsBranch {d : Draft} {s : Sketch} {body : Program} {decision condition : String}
    {ended : List Branch} {rest : List Frame}
    (h : Draws d (body.lower s (some ⟨decision, some condition⟩)).1
      (body.lower s (some ⟨decision, some condition⟩)).2
      (body.enters (.branches decision ended ⟨condition, false, none⟩ :: rest)))
    (hended : ∀ b ∈ ended, blank b.condition = false)
    (hcondition : blank condition = false) :
    EndsBranch d (body.lower s (some ⟨decision, some condition⟩)).1
      (body.lower s (some ⟨decision, some condition⟩)).2 decision ended
      ⟨condition, !body.isEmpty, none⟩ rest := by
  rw [body.enters_branches] at h
  refine ⟨h, ?_, ?_⟩
  · intro b hb
    rcases List.mem_append.mp hb with hb | hb
    · exact hended b hb
    · rw [List.mem_singleton.mp hb]
      exact hcondition
  · have htail := h.tail
    cases body with
    | done => simp [endOf, endBranch, Program.isEmpty, Program.lower]
    | next first others =>
        -- a statement has arrived, so the frame forgets no pending condition
        have harrived := Program.arrived (.next first others) s
          (some ⟨decision, some condition⟩) rfl
        simp only [endOf, endBranch, Program.isEmpty, Bool.not_false, if_true, htail]
        cases hlast : (Program.lower (.next first others) s
            (some ⟨decision, some condition⟩)).2 with
        | none => rfl
        | some c =>
            obtain ⟨tail, pending⟩ := c
            have hpending : pending = none := (harrived _ hlast).1
            simp [hpending]

/-- The entry of a loop is no tail behind a body with a statement in it. -/
lemma Draft.Draws.tail_ne_entry {d : Draft} {s : Sketch} {cursor : Option Cursor} {entry : String}
    {rest : List Frame} (h : Draws d s cursor (.loop entry :: rest)) (hsound : Sound d)
    (harrived : Arrived s.nodes cursor) : ∀ c ∈ cursor, c.tail ≠ entry := by
  rintro c hc rfl
  obtain ⟨-, origin, hne, hlisted⟩ := harrived c hc
  rw [← h.entries] at hlisted
  have hentry : Listed d.entries c.tail .loopEntry :=
    hsound.cursor.remembered (.loop c.tail) (h.frames ▸ List.mem_cons_self)
  exact hne (hlisted.origin_unique hsound.graph.nodup hentry)

mutual

/-- **Running the lines of a statement draws what the statement lowers to.** -/
theorem Statement.draws : ∀ (statement : Statement) {d : Draft} {s : Sketch}
    {cursor : Option Cursor} {frames : List Frame}, Draws d s cursor frames → Sound d →
      Speaks cursor → Draws (statement.lines.foldl step d) (statement.lower s cursor).1
        (statement.lower s cursor).2 (enterTop frames)
  | .action label, d, s, cursor, frames, h, _, hspeaks => by
      rw [Statement.lines, List.foldl_cons, List.foldl_nil, step_actionLine h.block]
      exact h.act hspeaks label
  | .stop, d, s, cursor, frames, h, _, hspeaks => by
      rw [Statement.lines, List.foldl_cons, List.foldl_nil, step_stop h.block]
      exact h.halt hspeaks
  | .choice condition body others, d, s, cursor, frames, h, hsound, hspeaks => by
      rw [Statement.lines, List.foldl_cons, List.foldl_append, step_ifLine h.block]
      have hsound' := hsound.openIf condition.text
      have hbody := body.draws (h.openIf hspeaks condition.text) hsound'
        (by simp [Speaks, condition.blank_text])
      have hothers := others.draws (hbody.endsBranch (by simp) condition.blank_text)
        (hsound'.foldl body.lines)
      rw [enterTop_enterTop] at hothers
      exact hothers
  | .loop body condition, d, s, cursor, frames, h, hsound, hspeaks => by
      rw [Statement.lines, List.foldl_cons, List.foldl_append, List.foldl_cons, List.foldl_nil,
        step_repeat h.block]
      have hsound' := hsound.openLoop none
      have hbody := body.draws (h.openLoop hspeaks) hsound' (by simp [Speaks])
      rw [body.enters_loop] at hbody
      rw [step_whileLine hbody.block (by simp [loopOpen, hbody.frames, isBranches])]
      have hclosed := hbody.endLoop condition.blank_text
        (fun hempty => Program.lower_of_isEmpty hempty _ _)
        (fun hempty => hbody.tail_ne_entry (hsound'.foldl body.lines) (body.arrived _ _ hempty))
      rw [enterTop_enterTop] at hclosed
      exact hclosed

/-- **Running the lines of a program draws what the program lowers to.** -/
theorem Program.draws : ∀ (p : Program) {d : Draft} {s : Sketch} {cursor : Option Cursor}
    {frames : List Frame}, Draws d s cursor frames → Sound d → Speaks cursor →
      Draws (p.lines.foldl step d) (p.lower s cursor).1 (p.lower s cursor).2 (p.enters frames)
  | .done, d, s, cursor, frames, h, _, _ => by
      rw [Program.lines, List.foldl_nil]
      exact h
  | .next first rest, d, s, cursor, frames, h, hsound, hspeaks => by
      rw [Program.lines, List.foldl_append]
      have hfirst := first.draws h hsound hspeaks
      have hrest := rest.draws hfirst (hsound.foldl first.lines) (first.arrived s cursor).speaks
      rw [rest.enters_enterTop] at hrest
      exact hrest

/-- **Running the further lines of an `if` draws the branches and joins all of them.** -/
theorem Others.draws : ∀ (others : Others) {d : Draft} {s : Sketch} {cursor : Option Cursor}
    {decision : String} {ended : List Branch} {current : Branch} {rest : List Frame},
      EndsBranch d s cursor decision ended current rest → Sound d →
        Draws (others.lines.foldl step d)
          ((others.lower decision s).1.joinFrom
            (ended.map (endOf decision) ++ cursor :: (others.lower decision s).2)).1
          ((others.lower decision s).1.joinFrom
            (ended.map (endOf decision) ++ cursor :: (others.lower decision s).2)).2
          (enterTop rest)
  | .endif, d, s, cursor, decision, ended, current, rest, h, _ => by
      rw [Others.lines, List.foldl_cons, List.foldl_nil, step_endif h.draws.block h.ifOpen]
      exact h.closeIf
  | .otherwise body, d, s, cursor, decision, ended, current, rest, h, hsound => by
      rw [Others.lines, List.foldl_cons, List.foldl_append, List.foldl_cons, List.foldl_nil,
        step_else h.draws.block h.ifOpen]
      have hspeaks : Speaks (some ⟨decision, some "else"⟩) := by
        rintro c ⟨rfl⟩ condition ⟨rfl⟩
        decide
      have hbody := body.draws (h.nextBranch "else") (hsound.nextBranch "else") hspeaks
      have hends := hbody.endsBranch h.speaks_endBranch (by decide)
      rw [step_endif hends.draws.block hends.ifOpen]
      have hclosed := hends.closeIf
      rw [h.map_endOf, List.append_assoc] at hclosed
      exact hclosed
  | .elseIf condition body others, d, s, cursor, decision, ended, current, rest, h, hsound => by
      rw [Others.lines, List.foldl_cons, List.foldl_append, step_elseIfLine h.draws.block h.ifOpen]
      have hsound' := hsound.nextBranch condition.text
      have hbody := body.draws (h.nextBranch condition.text) hsound'
        (by simp [Speaks, condition.blank_text])
      have hothers := others.draws (hbody.endsBranch h.speaks_endBranch condition.blank_text)
        (hsound'.foldl body.lines)
      rw [h.map_endOf, List.append_assoc] at hothers
      exact hothers

end

/-! ## Whole programs -/

lemma Program.prepareLines_text (p : Program) :
    prepareLines p.text.toList = "start".toList :: p.lines := by
  rw [text, String.toList_ofList]
  refine prepareLines_intercalate (List.cons_ne_nil _ _) fun l hl => ?_
  rcases List.mem_cons.mp hl with rfl | hl
  · exact stands_of_ends (by decide) (by decide) (by decide)
  · exact p.stands l hl

lemma Program.blank_text (p : Program) : blank p.text = false := by
  have hmem : 's' ∈ p.text.toList := by
    obtain ⟨rest, hrest⟩ := exists_intercalate_cons ['\n'] "start".toList p.lines
    rw [text, String.toList_ofList, hrest]
    exact List.mem_append_left _ (by decide)
  simp only [blank, isBlankText, List.all_eq_false]
  exact ⟨'s', hmem, by decide⟩

/-- The first line draws the initial node. -/
lemma draws_begin : Draws (begin {}) ⟨[⟨⟨"Start", some "Start", none, none⟩, .declared⟩], [], 0⟩
    (some ⟨"Start", none⟩) [] :=
  ⟨by decide +kernel, by decide +kernel, by decide +kernel, by decide +kernel, by decide +kernel,
    by decide +kernel, by decide +kernel, by decide +kernel⟩

/-- The draft of a program shows its graph, with no frame left to close. -/
lemma Program.ofLines_draws (p : Program) : ∃ cursor,
    Draws (ofLines ("start".toList :: p.lines)) p.graph cursor [] := by
  have hstart : Draft.step {} "start".toList = begin {} := by
    simp only [Draft.step, takeLine, read_start]
  have hrun := p.draws draws_begin sound_empty.begin (by simp [Speaks])
  rw [p.enters_nil] at hrun
  have hdone : ofLines ("start".toList :: p.lines) = p.lines.foldl step (begin {}) := by
    rw [ofLines, List.foldl_cons, hstart, finish, endBlock, hrun.block]
    simp [unwind, closeUpTo, hrun.frames]
  rw [hdone]
  exact ⟨_, hrun⟩

/-- **A structured program is read as the graph it lowers to**, at every depth of nesting. -/
theorem read_lowers (p : Program) (id name : Option String) (supply : IdSupply) :
    ∃ reading supply', read (some p.text) id name supply = (.ok reading, supply') ∧
      reading.definition.nodes = p.graph.nodes.map (·.node) ∧
      reading.definition.transitions = p.graph.links ∧
      reading.definition.startPoints = [⟨"Start"⟩] := by
  obtain ⟨usedId, usedName, supply', hread⟩ := read_of_not_blank p.blank_text id name supply
  obtain ⟨cursor, hdraws⟩ := p.ofLines_draws
  refine ⟨_, supply', hread, ?_, ?_, ?_⟩
  · simp only [readAs, toDefinition, p.prepareLines_text, hdraws.entries]
  · simp only [readAs, toDefinition, p.prepareLines_text, hdraws.transitions]
  · simp only [readAs, toDefinition, p.prepareLines_text, hdraws.starts]

-- a branch that stops is not joined, and an empty one leads from the decision to the join
example : (Program.graph (.next (.choice ⟨"c".toList, by decide, by decide⟩
    (.next .stop .done) (.otherwise .done)) .done)).links
      = [⟨"t_0", "Start", "if__c_0", none⟩, ⟨"t_1", "if__c_0", "Stop", some "c"⟩,
        ⟨"t_2", "if__c_0", "join_1", some "else"⟩] := by
  decide +kernel

end ActivityFlow.Diagram
