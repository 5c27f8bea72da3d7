import ActivityFlow.Proofs.Diagram.Moves

/-!
# Drafts under a view

A **view** looks at each node of a draft in some way of its own and puts remarks of its own in the
place of the draft's.  It always sees the ids and labels, and that is all that lines look at: what a
line does to the graph does not depend on notes, on metadata or on remarks.  So it makes no
difference whether a draft is looked at before a line is taken or behind it (`step_under`), and two
drafts that look alike look alike to the end of the diagram (`foldl_congr`, `finish_congr`).

* `View.whole` — every node as it is.
* `View.names` — ids and labels only.
-/

namespace ActivityFlow.Diagram

/-- **A way to look at nodes.**  What is seen of a note that is put on a node depends on what is
    seen of the node, and bare nodes look like themselves. -/
structure View where
  see : Node → Node
  remarks : Remarks
  id_see : ∀ n, (see n).id = n.id
  label_see : ∀ n, (see n).label = n.label
  see_see : ∀ n, see (see n) = see n
  see_bare : ∀ id label, see ⟨id, some label, none, none⟩ = ⟨id, some label, none, none⟩
  see_annotate : ∀ n (metadata note : Option String),
    see { see n with metadata := metadata <|> (see n).metadata, note := note <|> (see n).note }
      = see { n with metadata := metadata <|> n.metadata, note := note <|> n.note }
  see_noteStereotype : ∀ n name,
    see (Draft.noteStereotype (see n) name) = see (Draft.noteStereotype n name)

/-- Every node as it is. -/
def View.whole (remarks : Remarks) : View where
  see := id
  remarks := remarks
  id_see := fun _ => rfl
  label_see := fun _ => rfl
  see_see := fun _ => rfl
  see_bare := fun _ _ => rfl
  see_annotate := fun _ _ _ => rfl
  see_noteStereotype := fun _ _ => rfl

/-- The id and the label of every node, and nothing else. -/
def View.names (remarks : Remarks) : View where
  see := fun n => ⟨n.id, n.label, none, none⟩
  remarks := remarks
  id_see := fun _ => rfl
  label_see := fun _ => rfl
  see_see := fun _ => rfl
  see_bare := fun _ _ => rfl
  see_annotate := fun _ _ _ => rfl
  see_noteStereotype := fun _ _ => rfl

namespace Draft

variable {v : View} {d d' : Draft}

/-- A draft as it looks under a view. -/
def under (v : View) (d : Draft) : Draft :=
  { d with entries := d.entries.map fun e => { e with node := v.see e.node }, remarks := v.remarks }

@[simp] lemma counter_under : (d.under v).counter = d.counter := rfl

@[simp] lemma tail_under : (d.under v).tail = d.tail := rfl

@[simp] lemma declared_under : (d.under v).declared = d.declared := rfl

@[simp] lemma frames_under : (d.under v).frames = d.frames := rfl

@[simp] lemma block_under : (d.under v).block = d.block := rfl

@[simp] lemma ifOpen_under : (d.under v).ifOpen = d.ifOpen := rfl

@[simp] lemma loopOpen_under : (d.under v).loopOpen = d.loopOpen := rfl

lemma under_under (v : View) (d : Draft) : (d.under v).under v = d.under v := by
  simp [under, v.see_see]

/-- What is the other draft under the view already looks like it. -/
lemma under_of_eq (h : d = d'.under v) : d.under v = d'.under v := by
  rw [h, under_under]

lemma under_whole (d : Draft) : d.under (.whole d.remarks) = d := by
  simp [under, View.whole]

/-- What commutes with looking leaves the remarks alone. -/
lemma remarks_of_under (op : Draft → Draft) (h : ∀ v d, op (under v d) = (op d).under v)
    (d : Draft) : (op d).remarks = d.remarks := by
  have hwhole := h (.whole d.remarks) d
  rw [under_whole] at hwhole
  rw [hwhole]
  rfl

/-! ## Nodes -/

lemma ids_under : (d.under v).ids = d.ids := by
  simp [ids, under, v.id_see, Function.comp_def]

lemma findDeclared?_under (label : String) :
    (d.under v).findDeclared? label = d.findDeclared? label := by
  simp [findDeclared?, under, v.id_see, v.label_see, List.find?_map, Function.comp_def]

lemma addNode_under (id label : String) (origin : Origin) :
    (d.under v).addNode id label origin = (d.addNode id label origin).under v := by
  simp [addNode, under, v.see_bare]

lemma addMade_under (label : String) (origin : Origin) : (d.under v).addMade label origin
    = ((d.addMade label origin).1.under v, (d.addMade label origin).2) := by
  simp only [addMade, ids_under, counter_under, ← addNode_under]
  rfl

lemma resolve_under (token : String) :
    (d.under v).resolve token = ((d.resolve token).1.under v, (d.resolve token).2) := by
  simp only [resolve, ids_under, findDeclared?_under, addNode_under, addMade_under]
  split
  · split <;> rfl
  · split
    · rfl
    · split <;> rfl

lemma resolved_under {token id : String} (h : d.resolve token = (d', id)) :
    (d.under v).resolve token = (d'.under v, id) := by
  rw [resolve_under, h]

lemma modifyNode_under (id : String) {change : Node → Node}
    (hchange : ∀ n, v.see (change (v.see n)) = v.see (change n)) :
    ((d.under v).modifyNode id change).under v = (d.modifyNode id change).under v := by
  simp only [modifyNode, under, List.map_map, Draft.mk.injEq, and_true]
  refine List.map_congr_left fun e _ => ?_
  simp only [Function.comp_apply, v.id_see]
  split
  · rw [hchange]
  · rw [v.see_see]

/-! ## Lines that open and close nothing -/

lemma link_under (source : Option String) (target : String) (condition : Option String) :
    (d.under v).link source target condition = (d.link source target condition).under v := by
  rw [link_eq, link_eq]
  rfl

lemma attach_under (id : String) : (d.under v).attach id = (d.attach id).under v := by
  rw [attach_eq, attach_eq]
  rfl

lemma begin_under : (d.under v).begin = d.begin.under v := by
  rcases hresolve : d.resolve "Start" with ⟨d', id⟩
  simp only [begin, hresolve, resolved_under hresolve]
  rfl

lemma halt_under : (d.under v).halt = d.halt.under v := by
  rcases hresolve : d.resolve "Stop" with ⟨d', id⟩
  simp only [halt, hresolve, resolved_under hresolve, attach_under]
  rfl

lemma addArrow_under (source target : String) (condition : Option String) :
    (d.under v).addArrow source target condition
      = (d.addArrow source target condition).under v := by
  rcases htarget : d.resolve target with ⟨d', id⟩
  rcases hsource : d.resolve source with ⟨d₁, from?⟩
  rcases hboth : d₁.resolve target with ⟨d₂, id'⟩
  simp only [addArrow, htarget, hsource, resolved_under htarget, resolved_under hsource,
    tail_under]
  split
  · rfl
  · split
    · simp only [htarget, resolved_under htarget, link_under]
      rfl
    · simp only [hboth, resolved_under hboth, link_under]
      rfl

lemma annotate_under (id body : String) :
    ((d.under v).annotate id body).under v = (d.annotate id body).under v :=
  modifyNode_under id fun n => v.see_annotate n _ _

lemma annotateTarget_under (target : Option String) (body : String) :
    ((d.under v).annotateTarget target body).under v = (d.annotateTarget target body).under v := by
  cases target with
  | some token =>
      rcases hresolve : d.resolve token with ⟨d', id⟩
      simp only [annotateTarget, hresolve, resolved_under hresolve]
      exact annotate_under id body
  | none =>
      simp only [annotateTarget, declared_under]
      split
      · exact annotate_under _ body
      · exact under_under v d

lemma act_under (text : ActionText) : ((d.under v).act text).under v = (d.act text).under v := by
  cases text with
  | empty written => exact under_under v d
  | labelled label stereotype =>
      rcases hresolve : d.resolve label with ⟨d', id⟩
      have hdeclare : ((d'.under v).attach id).declare id
          = ((d'.attach id).declare id).under v := by
        rw [attach_under]
        rfl
      simp only [act, hresolve, resolved_under hresolve, hdeclare]
      cases stereotype with
      | none => exact under_under v _
      | some name => exact modifyNode_under id fun n => v.see_noteStereotype n name

/-! ## Frames -/

lemma closeBranches_under (decision : String) (ended : List Branch) (current : Branch) :
    (d.under v).closeBranches decision ended current
      = (d.closeBranches decision ended current).under v := by
  rcases hmade : d.addMade "join" .join with ⟨d', join⟩
  have hunder : (d.under v).addMade "join" .join = (d'.under v, join) := by
    rw [addMade_under, hmade]
  rw [closeBranches_eq hmade, closeBranches_eq hunder]
  rfl

lemma closeLoop_under (entry : String) (condition : Option String) :
    (d.under v).closeLoop entry condition = (d.closeLoop entry condition).under v := by
  rcases hmade : d.addMade "after_loop" .afterLoop with ⟨d', after⟩
  have hunder : (d.under v).addMade "after_loop" .afterLoop = (d'.under v, after) := by
    rw [addMade_under, hmade]
  rw [closeLoop_eq hmade, closeLoop_eq hunder]
  rfl

lemma closeFrame_under (f : Frame) : (d.under v).closeFrame f = (d.closeFrame f).under v := by
  cases f with
  | branches decision ended current => exact closeBranches_under decision ended current
  | loop entry => exact closeLoop_under entry none

lemma unwind_under (kind : Frame → Bool) : (d.under v).unwind kind = (d.unwind kind).under v := by
  suffices ∀ count (d : Draft),
      closeUpTo kind count (d.under v) = (closeUpTo kind count d).under v from this _ d
  intro count
  induction count with
  | zero => exact fun _ => rfl
  | succ count ih =>
      intro d
      simp only [closeUpTo, frames_under]
      split
      · rfl
      · rename_i f rest _
        split
        · rfl
        · rw [← ih, ← closeFrame_under]
          rfl

lemma openIf_under (condition : String) :
    (d.under v).openIf condition = (d.openIf condition).under v := by
  rcases hmade : d.addMade ("if: " ++ condition) .decision with ⟨d', decision⟩
  simp only [openIf, addMade_under, hmade, attach_under]
  rfl

lemma nextBranch_under (condition : String) :
    (d.under v).nextBranch condition = (d.nextBranch condition).under v := by
  simp only [nextBranch, unwind_under]
  generalize d.unwind isBranches = d'
  rw [frames_under]
  split <;> rfl

lemma closeIf_under : (d.under v).closeIf = d.closeIf.under v := by
  simp only [closeIf, unwind_under]
  generalize d.unwind isBranches = d'
  rw [frames_under]
  split
  · rename_i decision ended current rest _
    exact closeBranches_under (d := { d' with frames := rest }) decision ended current
  · rfl

lemma endLoop_under (condition : String) :
    (d.under v).endLoop condition = (d.endLoop condition).under v := by
  simp only [endLoop, unwind_under]
  generalize d.unwind (fun f => !isBranches f) = d'
  rw [frames_under]
  split
  · rename_i entry rest _
    exact closeLoop_under (d := { d' with frames := rest }) entry (some condition)
  · rfl

lemma openLoop_under (first : Option ActionText) :
    ((d.under v).openLoop first).under v = (d.openLoop first).under v := by
  have hopened : (d.under v).openLoop none = (d.openLoop none).under v := by
    rcases hmade : d.addMade "loop_entry" .loopEntry with ⟨d', entry⟩
    simp only [openLoop, addMade_under, hmade, attach_under]
    rfl
  cases first with
  | none => rw [hopened, under_under]
  | some text =>
      change (((d.under v).openLoop none).act text).under v = ((d.openLoop none).act text).under v
      rw [hopened, act_under]

/-! ## Lines -/

lemma takeLine_under (raw : List Char) :
    ((d.under v).takeLine raw).under v = (d.takeLine raw).under v := by
  simp only [takeLine, ifOpen_under]
  cases Line.read d.ifOpen raw with
  | style ends =>
      cases ends with
      | true => exact under_under v d
      | false => exact under_under v { d with block := .style [raw] }
  | skinparam name value => exact under_under v d
  | pragma name value => exact under_under v d
  | shortNote body => exact annotateTarget_under none body
  | inlineNote target body => exact annotateTarget_under (some target) body
  | blockNote target => exact under_under v { d with block := .note target [] }
  | start => exact under_of_eq begin_under
  | stop => exact under_of_eq halt_under
  | openIf condition => exact under_of_eq (openIf_under condition)
  | nextBranch condition => exact under_of_eq (nextBranch_under condition)
  | closeIf => exact under_of_eq closeIf_under
  | closeLoop condition =>
      by_cases hopen : d.loopOpen = true
      · simp only [loopOpen_under, hopen, if_true]
        exact under_of_eq (endLoop_under condition)
      · simp only [loopOpen_under, hopen]
        exact under_under v d
  | openLoop first => exact openLoop_under first
  | arrow source target condition => exact under_of_eq (addArrow_under source target condition)
  | looseArrow report => exact under_under v d
  | action text => exact act_under text
  | unknown => exact under_under v d

/-- **A line does the same to what is seen of a draft**, inside a block or outside. -/
theorem step_under (raw : List Char) : ((d.under v).step raw).under v = (d.step raw).under v := by
  simp only [step, block_under]
  split
  · exact takeLine_under raw
  · rename_i lines _
    split
    · exact under_under v { d with block := .none }
    · exact under_under v { d with block := .style (lines ++ [raw]) }
  · rename_i target lines _
    split
    · exact annotateTarget_under (d := { d with block := .none }) _ _
    · exact under_under v { d with block := .note target (lines ++ [raw]) }

/-- Drafts that look alike look alike behind a line. -/
lemma step_congr (h : d.under v = d'.under v) (raw : List Char) :
    (d.step raw).under v = (d'.step raw).under v := by
  rw [← step_under, h, step_under]

/-- **Drafts that look alike look alike behind any lines.** -/
theorem foldl_congr (h : d.under v = d'.under v) (lines : List (List Char)) :
    (lines.foldl step d).under v = (lines.foldl step d').under v := by
  induction lines generalizing d d' with
  | nil => exact h
  | cons raw rest ih => exact ih (step_congr h raw)

lemma endBlock_under : (d.under v).endBlock.under v = d.endBlock.under v := by
  simp only [endBlock, block_under]
  split
  · exact under_under v d
  · exact under_under v { d with block := .none }
  · exact annotateTarget_under (d := { d with block := .none }) _ _

/-- **They look alike at the end of the diagram.** -/
theorem finish_congr (h : d.under v = d'.under v) : d.finish.under v = d'.finish.under v := by
  rw [finish, finish, ← unwind_under, ← unwind_under, ← endBlock_under, h, endBlock_under]

end Draft

end ActivityFlow.Diagram
