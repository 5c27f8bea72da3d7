import ActivityFlow.Proofs.Diagram.Moves

/-!
# What lines keep of the table

The table of nodes is changed in four ways only: a token is resolved, a synthetic node is made, a
note is put on a node, or a stereotype is noted on it.  Whatever these four keep, every line keeps,
and so does the end of the diagram (`Upheld.step`, `Upheld.finish`).  A law of the table has to
look at nothing else.

* `resolve_cases` — resolving a token leaves the draft as it is or puts one bare node at the end.
* `Upheld` — the four ways keep a property of the table.
* `upheld_of_add`, `upheld_of_each` — where less is enough: any node behind the others, notes and
  stereotypes; or, for a property of each node by itself, bare nodes, notes and stereotypes.
-/

namespace ActivityFlow.Diagram.Draft

variable {d : Draft}

/-- Resolving a token finds a node, or puts a bare one behind the others, under its label or under a
    made id. -/
lemma resolve_cases (d : Draft) (token : String) : (d.resolve token).1 = d ∨
    ∃ counter id label,
      d.resolve token = (addNode { d with counter := counter } id label .declared, id) ∧
        (id = label ∨ ∃ stem index, id = makeId stem index) := by
  simp only [resolve]
  split
  · split
    · exact Or.inl rfl
    · exact Or.inr ⟨d.counter, startMarker, startMarker, rfl, Or.inl rfl⟩
  · split
    · exact Or.inl rfl
    · split
      · exact Or.inr ⟨d.counter, _, _, rfl, Or.inl rfl⟩
      · exact Or.inr ⟨_, _, _, rfl, Or.inr ⟨_, _, rfl⟩⟩

/-- **The four ways in which lines change the table keep a property of it.** -/
structure Upheld (P : List Entry → Prop) : Prop where
  resolve : ∀ (d : Draft) (token : String), P d.entries → P (d.resolve token).1.entries
  addMade : ∀ (d : Draft) (label : String) (origin : Origin), origin ≠ .declared →
    P d.entries → P (d.addMade label origin).1.entries
  annotate : ∀ (d : Draft) (id body : String), P d.entries → P (d.annotate id body).entries
  noteStereotype : ∀ (d : Draft) (id name : String), P d.entries →
    P (d.modifyNode id (noteStereotype · name)).entries

/-- A property that any node behind the others leaves alone is looked at under notes and under
    stereotypes. -/
theorem upheld_of_add {P : List Entry → Prop}
    (hadd : ∀ (d : Draft) (id label : String) (origin : Origin), P d.entries →
      P (d.addNode id label origin).entries)
    (hannotate : ∀ (d : Draft) (id body : String), P d.entries → P (d.annotate id body).entries)
    (hstereotype : ∀ (d : Draft) (id name : String), P d.entries →
      P (d.modifyNode id (noteStereotype · name)).entries) : Upheld P := by
  refine ⟨?_, ?_, hannotate, hstereotype⟩
  · intro d token h
    rcases d.resolve_cases token with hfound | ⟨counter, id, label, hmade, -⟩
    · rwa [hfound]
    · rw [hmade]
      exact hadd { d with counter := counter } id label .declared h
  · intro d label origin _ h
    exact hadd { d with counter := _ } _ label origin h

/-- A property of each node by itself is looked at on bare nodes, under notes and under
    stereotypes. -/
theorem upheld_of_each {Q : Node → Prop} (hbare : ∀ id label, Q ⟨id, some label, none, none⟩)
    (hannotate : ∀ n body, Q n → Q { n with
      metadata := (splitNote body).1 <|> n.metadata, note := (splitNote body).2 <|> n.note })
    (hstereotype : ∀ n name, Q n → Q (noteStereotype n name)) :
    Upheld fun entries => ∀ e ∈ entries, Q e.node := by
  have hmodify : ∀ (d : Draft) (id : String) (change : Node → Node),
      (∀ n, Q n → Q (change n)) → (∀ e ∈ d.entries, Q e.node) →
        ∀ e ∈ (d.modifyNode id change).entries, Q e.node := by
    intro d id change hchange h e' he'
    obtain ⟨e, he, rfl⟩ := List.mem_map.mp he'
    split
    · exact hchange e.node (h e he)
    · exact h e he
  refine upheld_of_add ?_ ?_ ?_
  · intro d id label origin h e he
    rcases List.mem_append.mp he with he | he
    · exact h e he
    · rw [List.mem_singleton.mp he]
      exact hbare id label
  · exact fun d id body h => hmodify d id _ (fun n => hannotate n body) h
  · exact fun d id name h => hmodify d id _ (fun n => hstereotype n name) h

namespace Upheld

variable {P : List Entry → Prop} (hP : Upheld P)
include hP

lemma resolved {d' : Draft} {token id : String} (h : P d.entries)
    (hresolve : d.resolve token = (d', id)) : P d'.entries := by
  have hkept := hP.resolve d token h
  rwa [hresolve] at hkept

/-! ## Lines that open and close nothing -/

lemma act (h : P d.entries) (text : ActionText) : P (d.act text).entries := by
  cases text with
  | empty written => exact h
  | labelled label stereotype =>
      rcases hresolve : d.resolve label with ⟨d', id⟩
      have hresolved := hP.resolved h hresolve
      have hattached : P ((d'.attach id).declare id).entries := by
        rw [attach_eq]
        exact hresolved
      simp only [Draft.act, hresolve]
      cases stereotype with
      | none => exact hattached
      | some name => exact hP.noteStereotype _ id name hattached

lemma annotateTarget (h : P d.entries) (target : Option String) (body : String) :
    P (d.annotateTarget target body).entries := by
  cases target with
  | some token =>
      rcases hresolve : d.resolve token with ⟨d', id⟩
      simp only [Draft.annotateTarget, hresolve]
      exact hP.annotate d' id body (hP.resolved h hresolve)
  | none =>
      simp only [Draft.annotateTarget]
      split
      · exact hP.annotate d _ body h
      · exact h

lemma addArrow (h : P d.entries) (source target : String) (condition : Option String) :
    P (d.addArrow source target condition).entries := by
  rcases htarget : d.resolve target with ⟨d', id⟩
  rcases hsource : d.resolve source with ⟨d₁, from?⟩
  rcases hboth : d₁.resolve target with ⟨d₂, id'⟩
  have hone := hP.resolved h htarget
  have htwo := hP.resolved (hP.resolved h hsource) hboth
  simp only [Draft.addArrow, htarget, hsource]
  split
  · exact hone
  · split
    · simp only [htarget, link_eq]
      exact hone
    · simp only [hboth, link_eq]
      exact htwo

lemma begin (h : P d.entries) : P d.begin.entries := by
  rcases hresolve : d.resolve "Start" with ⟨d', id⟩
  have hresolved := hP.resolved h hresolve
  simp only [Draft.begin, hresolve]
  exact hresolved

lemma halt (h : P d.entries) : P d.halt.entries := by
  rcases hresolve : d.resolve "Stop" with ⟨d', id⟩
  have hresolved := hP.resolved h hresolve
  simp only [Draft.halt, hresolve, Draft.declare, attach_eq]
  exact hresolved

/-! ## Frames -/

lemma closeFrame (h : P d.entries) (f : Frame) : P (d.closeFrame f).entries := by
  cases f with
  | branches decision ended current =>
      rw [Draft.closeFrame, closeBranches_eq rfl]
      exact hP.addMade d "join" .join (by decide) h
  | loop entry =>
      rw [Draft.closeFrame, closeLoop_eq rfl]
      exact hP.addMade d "after_loop" .afterLoop (by decide) h

lemma unwind (h : P d.entries) (kind : Frame → Bool) : P (d.unwind kind).entries :=
  unwind_induction (P := fun d' => P d'.entries)
    (fun d' f rest _ _ h => hP.closeFrame (d := { d' with frames := rest }) h f) h

lemma closeIf (h : P d.entries) : P d.closeIf.entries := by
  have hunwound := hP.unwind h isBranches
  simp only [Draft.closeIf]
  split
  · rename_i decision ended current rest _
    exact hP.closeFrame (d := { d.unwind isBranches with frames := rest }) hunwound
      (.branches decision ended current)
  · exact hunwound

lemma endLoop (h : P d.entries) (condition : String) : P (d.endLoop condition).entries := by
  have hunwound := hP.unwind h fun f => !isBranches f
  simp only [Draft.endLoop]
  split
  · rw [closeLoop_eq rfl]
    exact hP.addMade _ "after_loop" .afterLoop (by decide) hunwound
  · exact hunwound

lemma openIf (h : P d.entries) (condition : String) : P (d.openIf condition).entries := by
  simp only [Draft.openIf, Draft.declare, attach_eq]
  exact hP.addMade d _ .decision (by decide) h

lemma nextBranch (h : P d.entries) (condition : String) : P (d.nextBranch condition).entries := by
  simp only [Draft.nextBranch]
  split <;> exact hP.unwind h isBranches

lemma openLoop (h : P d.entries) (first : Option ActionText) :
    P (d.openLoop first).entries := by
  have hopened : P (d.openLoop none).entries := by
    simp only [Draft.openLoop, attach_eq]
    exact hP.addMade d _ .loopEntry (by decide) h
  cases first with
  | none => exact hopened
  | some text => exact hP.act hopened text

/-! ## Lines -/

lemma takeLine (h : P d.entries) (raw : List Char) : P (d.takeLine raw).entries := by
  simp only [Draft.takeLine]
  cases Line.read d.ifOpen raw with
  | style ends => cases ends <;> exact h
  | skinparam name value => exact h
  | pragma name value => exact h
  | shortNote body => exact hP.annotateTarget h none body
  | inlineNote target body => exact hP.annotateTarget h (some target) body
  | blockNote target => exact h
  | start => exact hP.begin h
  | stop => exact hP.halt h
  | openIf condition => exact hP.openIf h condition
  | nextBranch condition => exact hP.nextBranch h condition
  | closeIf => exact hP.closeIf h
  | closeLoop condition =>
      dsimp only
      split
      · exact hP.endLoop h condition
      · exact h
  | openLoop first => exact hP.openLoop h first
  | arrow source target condition => exact hP.addArrow h source target condition
  | looseArrow report => exact h
  | action text => exact hP.act h text
  | unknown => exact h

/-- **One line keeps what the four ways keep**, inside a block or outside. -/
theorem step (h : P d.entries) (raw : List Char) : P (d.step raw).entries := by
  simp only [Draft.step]
  split
  · exact hP.takeLine h raw
  · split <;> exact h
  · split
    · exact hP.annotateTarget (d := { d with block := .none }) h _ _
    · exact h

lemma foldl (h : P d.entries) (lines : List (List Char)) :
    P (lines.foldl Draft.step d).entries := by
  induction lines generalizing d with
  | nil => exact h
  | cons raw rest ih => exact ih (hP.step h raw)

lemma endBlock (h : P d.entries) : P d.endBlock.entries := by
  simp only [Draft.endBlock]
  split
  · exact h
  · exact h
  · exact hP.annotateTarget (d := { d with block := .none }) h _ _

/-- **The end of the diagram keeps it too.** -/
theorem finish (h : P d.entries) : P d.finish.entries :=
  hP.unwind (hP.endBlock h) _

/-- What holds of the empty table holds of the table of every diagram. -/
theorem ofLines (h : P []) (lines : List (List Char)) : P (Draft.ofLines lines).entries :=
  hP.finish (hP.foldl (d := {}) h lines)

end Upheld

end ActivityFlow.Diagram.Draft
