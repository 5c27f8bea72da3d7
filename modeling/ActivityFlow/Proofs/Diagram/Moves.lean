import ActivityFlow.Diagram.Draft
import ActivityFlow.Proofs.Diagram.MadeIds

/-!
# The moves behind the operations

Each line of a diagram does several things to a draft at once.  This file takes the operations
apart into moves and says of each move which parts of the draft it touches:

* **Linking** only adds transitions, and says which (`linkOf`, `joinsOf`, `exitsOf`).
* **Entering** only marks the innermost frame (`enterTop`).
* **Supplying** a node only changes the table: the node is found there, or it stands at the end
  under an id that was not in use (`Supplied`).
* **Blocks** collect lines up to the one that ends them (`foldl_styleBlock`, `foldl_blockNote`).
* **Closing** takes one frame away, so unwinding comes to its end (`frames_unwind`), and what each
  closing keeps the unwinding keeps (`unwind_induction`).

Every law about a line is put together from these.
-/

namespace ActivityFlow.Diagram

/-! ## Frames -/

/-- The frames with the current branch of the innermost one entered. -/
def enterTop : List Frame → List Frame
  | .branches decision ended current :: rest =>
      .branches decision ended { current with entered := true } :: rest
  | frames => frames

/-- Whether the current branch of a frame is entered; a loop has no branch to enter. -/
def Frame.isEntered : Frame → Bool
  | .branches _ _ current => current.entered
  | .loop _ => true

@[simp] lemma enterTop_nil : enterTop [] = [] := rfl

@[simp] lemma enterTop_branches (decision : String) (ended : List Branch) (current : Branch)
    (rest : List Frame) : enterTop (.branches decision ended current :: rest)
      = .branches decision ended { current with entered := true } :: rest := rfl

@[simp] lemma enterTop_loop (entry : String) (rest : List Frame) :
    enterTop (.loop entry :: rest) = .loop entry :: rest := rfl

@[simp] lemma enterTop_enterTop : ∀ frames : List Frame,
    enterTop (enterTop frames) = enterTop frames
  | [] => rfl
  | .branches .. :: _ => rfl
  | .loop _ :: _ => rfl

@[simp] lemma length_enterTop : ∀ frames : List Frame, (enterTop frames).length = frames.length
  | [] => rfl
  | .branches .. :: _ => rfl
  | .loop _ :: _ => rfl

/-- Where the outer frames are entered already, entering the innermost makes all of them so. -/
lemma isEntered_of_mem_enterTop : ∀ {frames : List Frame},
    (∀ f ∈ frames.tail, f.isEntered = true) → ∀ f ∈ enterTop frames, f.isEntered = true
  | [], _, f, hf => by simp at hf
  | .branches _ _ _ :: _, h, f, hf => by
      rcases List.mem_cons.mp hf with rfl | hf
      · rfl
      · exact h f hf
  | .loop _ :: _, h, f, hf => by
      rcases List.mem_cons.mp hf with rfl | hf
      · rfl
      · exact h f hf

/-- Entering frames that are all entered changes nothing. -/
lemma enterTop_of_isEntered : ∀ {frames : List Frame},
    (∀ f ∈ frames, f.isEntered = true) → enterTop frames = frames
  | [], _ => rfl
  | .branches decision ended ⟨condition, entered, tail⟩ :: rest, h => by
      have hentered : entered = true := h _ List.mem_cons_self
      subst hentered
      rfl
  | .loop _ :: _, _ => rfl

namespace Draft

/-! ## Linking -/

/-- The transitions that a link adds behind `count` others: one, or none. -/
def linkOf (count : ℕ) (source : Option String) (target : String) (condition : Option String) :
    List Transition :=
  match source with
  | none => []
  | some source =>
      if source = target && isBlankCondition condition then []
      else [⟨"t_" ++ toString count, source, target, condition⟩]

/-- A link between two nodes, or under a condition that says something, is written. -/
lemma linkOf_eq_singleton (count : ℕ) {source target : String} {condition : Option String}
    (hproper : source = target → isBlankCondition condition = false) :
    linkOf count (some source) target condition
      = [⟨"t_" ++ toString count, source, target, condition⟩] := by
  have hwritten : (decide (source = target) && isBlankCondition condition) = false := by
    by_cases hself : source = target
    · rw [hproper hself, Bool.and_false]
    · simp [hself]
  simp [linkOf, hwritten]

/-- The transitions to a join from the branches of a decision, in their order. -/
def joinsOf (decision join : String) : (count : ℕ) → List Branch → List Transition
  | _, [] => []
  | count, b :: rest =>
      let links := if b.entered then linkOf count b.tail join none
        else linkOf count (some decision) join (some b.condition)
      links ++ joinsOf decision join (count + links.length) rest

/-- The transitions behind a loop: the way back, if there is a condition for it, and the way on. -/
def exitsOf (count : ℕ) (tail : Option String) (entry after : String) (condition : Option String) :
    List Transition :=
  let back := if tail = some entry then [] else match condition with
    | some condition => linkOf count tail entry (some condition)
    | none => []
  back ++ linkOf (count + back.length) tail after none

lemma link_eq (d : Draft) (source : Option String) (target : String)
    (condition : Option String) : d.link source target condition
      = { d with transitions := d.transitions
            ++ linkOf d.transitions.length source target condition } := by
  cases source with
  | none => simp [link, linkOf]
  | some source =>
      simp only [link, linkOf]
      split
      · simp
      · rfl

lemma foldl_joinBranch (decision join : String) (branches : List Branch) :
    ∀ d : Draft, branches.foldl (joinBranch decision join) d
      = { d with transitions := d.transitions
            ++ joinsOf decision join d.transitions.length branches } := by
  induction branches with
  | nil => intro d; simp [joinsOf]
  | cons b rest ih =>
      intro d
      rw [List.foldl_cons, ih, joinBranch]
      split
      · rename_i hentered
        simp [link_eq, joinsOf, hentered]
      · rename_i hentered
        simp [link_eq, joinsOf, hentered]

/-! ## Entering -/

lemma markEntered_eq (d : Draft) : d.markEntered = { d with frames := enterTop d.frames } := by
  obtain ⟨_, _, _, _, _, _, _, frames, _, _⟩ := d
  cases frames with
  | nil => rfl
  | cons f rest => cases f <;> rfl

lemma attach_eq (d : Draft) (id : String) : d.attach id
    = { d with transitions := d.transitions
                 ++ linkOf d.transitions.length d.tail id d.pending,
               frames := enterTop d.frames, tail := some id, pending := none } := by
  simp [attach, link_eq, markEntered_eq]

@[simp] lemma entries_attach (d : Draft) (id : String) : (d.attach id).entries = d.entries := by
  rw [attach_eq]

lemma continueFrom_eq (d : Draft) (id : String) : d.continueFrom id
    = { d with frames := enterTop d.frames, tail := some id, pending := none } := by
  simp [continueFrom, markEntered_eq]

/-! ## Supplying a node -/

/-- Whether a table lists a node with an id and an origin. -/
def Listed (entries : List Entry) (id : String) (origin : Origin) : Prop :=
  ∃ e ∈ entries, e.node.id = id ∧ e.origin = origin

/-- The two ways to come by a node of an origin: it was in the table, or it is put at the end under
    an id that was not in use.  The marker of the beginning is never the id of a synthetic node. -/
inductive Supplied (d : Draft) (origin : Origin) : Draft × String → Prop
  | found {id : String} (listed : Listed d.entries id origin) : Supplied d origin (d, id)
  | made (counter : ℕ) {id label : String} (fresh : id ∉ d.ids) (nonempty : id ≠ "")
      (marker : id = startMarker → origin = .declared) :
      Supplied d origin (addNode { d with counter := counter } id label origin, id)

/-- Supplying a node touches the table and the counter, and nothing else. -/
lemma Supplied.exists_eq {d : Draft} {origin : Origin} {p : Draft × String}
    (hs : Supplied d origin p) :
    ∃ entries counter, p.1 = { d with entries := entries, counter := counter } := by
  cases hs with
  | found listed => exact ⟨d.entries, d.counter, rfl⟩
  | made counter fresh nonempty marker => exact ⟨_, counter, rfl⟩

lemma Supplied.listed {d : Draft} {origin : Origin} {p : Draft × String}
    (hs : Supplied d origin p) : Listed p.1.entries p.2 origin := by
  cases hs with
  | found listed => exact listed
  | made counter fresh nonempty marker =>
      exact ⟨_, List.mem_append_right _ (List.mem_singleton_self _), rfl, rfl⟩

lemma Supplied.ids_eq {d : Draft} {origin : Origin} {p : Draft × String}
    (hs : Supplied d origin p) : p.1.entries.map (·.node.id) = d.entries.map (·.node.id) ∨
      p.1.entries.map (·.node.id) = d.entries.map (·.node.id) ++ [p.2] := by
  cases hs with
  | found listed => exact Or.inl rfl
  | made counter fresh nonempty marker => exact Or.inr (by simp [addNode])

/-- The marker of the beginning is no made id. -/
lemma makeId_ne_startMarker (label : String) (index : Int) : makeId label index ≠ startMarker :=
  makeId_ne (by decide) label index

lemma supplied_addMade (d : Draft) (label : String) (origin : Origin) :
    Supplied d origin (d.addMade label origin) := by
  refine .made _ (makeId_freshIndex_not_mem label d.ids d.counter) (makeId_ne_empty _ _) ?_
  intro hmarker
  exact absurd hmarker (makeId_ne_startMarker _ _)

/-- Making a node comes to another table, another counter and an id. -/
lemma exists_addMade (d : Draft) (label : String) (origin : Origin) :
    ∃ entries counter id,
      d.addMade label origin = ({ d with entries := entries, counter := counter }, id) ∧
        Supplied d origin ({ d with entries := entries, counter := counter }, id) := by
  have hs := supplied_addMade d label origin
  obtain ⟨entries, counter, heq⟩ := hs.exists_eq
  refine ⟨entries, counter, (d.addMade label origin).2, ?_, ?_⟩
  · rw [← heq]
  · rw [← heq]
    exact hs

lemma supplied_resolve {d : Draft}
    (hmarker : ∀ o, Listed d.entries startMarker o → o = .declared) (token : String) :
    Supplied d .declared (d.resolve token) := by
  rw [resolve]
  split
  · by_cases hmem : startMarker ∈ d.ids
    · rw [if_pos hmem]
      obtain ⟨e, he, hid⟩ := List.mem_map.mp hmem
      exact .found ⟨e, he, hid, hmarker _ ⟨e, he, hid, rfl⟩⟩
    · rw [if_neg hmem]
      exact .made d.counter hmem (by simp [startMarker]) fun _ => rfl
  · dsimp only
    generalize normalizeLabel (Text.strip token) = label
    cases hfind : d.findDeclared? label with
    | some id =>
        obtain ⟨e, he, rfl⟩ := Option.map_eq_some_iff.mp hfind
        have hprop := List.find?_some he
        simp only [Bool.and_eq_true, decide_eq_true_eq] at hprop
        exact .found ⟨e, List.mem_of_find?_eq_some he, rfl, hprop.2⟩
    | none =>
        dsimp only
        split
        · rename_i hfree
          simp only [Bool.and_eq_true, Bool.not_eq_true', List.contains_eq_mem,
            decide_eq_false_iff_not, String.isEmpty_eq_false_iff] at hfree
          exact .made d.counter hfree.2 hfree.1 fun _ => rfl
        · exact supplied_addMade d label .declared

/-! ## Blocks -/

/-- Outside of blocks a line takes its effect. -/
lemma step_of_none {d : Draft} (hblock : d.block = .none) (line : List Char) :
    d.step line = d.takeLine line := by
  simp only [step, hblock]

/-- A block collects the lines that do not end it. -/
lemma foldl_collect (block : List (List Char) → Block) (ends : List Char → Bool)
    (hstep : ∀ (d : Draft) (lines : List (List Char)) (line : List Char), d.block = block lines →
      ends line = false → d.step line = { d with block := block (lines ++ [line]) }) :
    ∀ {lines before : List (List Char)} {d : Draft}, d.block = block before →
      (∀ l ∈ lines, ends l = false) →
        lines.foldl step d = { d with block := block (before ++ lines) }
  | [], before, d, hblock, _ => by
      rw [List.foldl_nil, List.append_nil, ← hblock]
  | line :: lines, before, d, hblock, hlines => by
      rw [List.forall_mem_cons] at hlines
      rw [List.foldl_cons, hstep d before line hblock hlines.1,
        foldl_collect block ends hstep rfl hlines.2, List.append_assoc]
      rfl

section Blocks

variable {d : Draft} {first last : List Char} {lines : List (List Char)}

/-- From its first line to its last, a style block is a remark. -/
lemma foldl_styleBlock (hblock : d.block = .none) (hfirst : Line.read d.ifOpen first = .style false)
    (hlines : ∀ l ∈ lines, isStyleEnd l = false) (hlast : isStyleEnd last = true) :
    (first :: (lines ++ [last])).foldl step d = d.addStyleBlock (first :: (lines ++ [last])) := by
  have hopen : d.step first = { d with block := .style [first] } := by
    simp [step_of_none hblock, takeLine, hfirst]
  have hcollect : lines.foldl step { d with block := .style [first] }
      = { d with block := .style ([first] ++ lines) } := by
    refine foldl_collect .style isStyleEnd ?_ rfl hlines
    intro d lines line hblock hline
    simp [step, hblock, hline]
  rw [List.foldl_cons, hopen, List.foldl_append, hcollect, List.foldl_cons, List.foldl_nil]
  simp only [step, hlast, if_true, List.cons_append, List.nil_append]
  rw [← hblock]

/-- From its first line to its last, a note puts the lines between them on its node. -/
lemma foldl_blockNote {target : Option String} (hblock : d.block = .none)
    (hfirst : Line.read d.ifOpen first = .blockNote target)
    (hlines : ∀ l ∈ lines, isNoteEnd l = false) (hlast : isNoteEnd last = true) :
    (first :: (lines ++ [last])).foldl step d = d.endNote target lines := by
  have hopen : d.step first = { d with block := .note target [] } := by
    simp only [step_of_none hblock, takeLine, hfirst]
  have hcollect : lines.foldl step { d with block := .note target [] }
      = { d with block := .note target ([] ++ lines) } := by
    refine foldl_collect (.note target) isNoteEnd ?_ rfl hlines
    intro d lines line hblock hline
    simp [step, hblock, hline]
  rw [List.foldl_cons, hopen, List.foldl_append, hcollect, List.foldl_cons, List.foldl_nil]
  simp only [step, hlast, if_true, List.nil_append]
  rw [← hblock]

end Blocks

/-! ## Closing -/

lemma closeBranches_eq {d d' : Draft} {join : String} (hmade : d.addMade "join" .join = (d', join))
    (decision : String) (ended : List Branch) (current : Branch) :
    d.closeBranches decision ended current
      = { d' with
          transitions := d.transitions ++ joinsOf decision join d.transitions.length
            (ended ++ [endBranch current d.tail]),
          frames := enterTop d.frames, tail := some join, pending := none } := by
  simp only [closeBranches, foldl_joinBranch, continueFrom_eq, hmade]
  simp only [addMade, Prod.mk.injEq] at hmade
  obtain ⟨rfl, rfl⟩ := hmade
  rfl

lemma closeLoop_eq {d d' : Draft} {after : String}
    (hmade : d.addMade "after_loop" .afterLoop = (d', after)) (entry : String)
    (condition : Option String) : d.closeLoop entry condition
      = { d' with
          transitions := d.transitions
            ++ exitsOf d.transitions.length d.tail entry after condition,
          frames := enterTop d.frames, tail := some after, pending := none } := by
  simp only [closeLoop, continueFrom_eq, link_eq, exitsOf, hmade]
  simp only [addMade, Prod.mk.injEq] at hmade
  obtain ⟨rfl, rfl⟩ := hmade
  split
  · rfl
  · cases condition with
    | none => split <;> simp_all [addNode, linkOf]
    | some c => split <;> simp_all [addNode, linkOf]

@[simp] lemma frames_closeFrame (d : Draft) (f : Frame) :
    (d.closeFrame f).frames = enterTop d.frames := by
  cases f with
  | branches decision ended current => rw [closeFrame, closeBranches_eq rfl]
  | loop entry => rw [closeFrame, closeLoop_eq rfl]

/-- What each closing keeps, unwinding keeps. -/
theorem unwind_induction {P : Draft → Prop} {kind : Frame → Bool}
    (hclose : ∀ d f rest, d.frames = f :: rest → kind f = false → P d →
      P ({ d with frames := rest }.closeFrame f)) {d : Draft} (h : P d) : P (d.unwind kind) := by
  suffices ∀ count d, P d → P (closeUpTo kind count d) from this _ d h
  intro count
  induction count with
  | zero => exact fun _ h => h
  | succ count ih =>
      intro d h
      rw [closeUpTo]
      split
      · exact h
      · rename_i f rest hframes
        split
        · exact h
        · rename_i hkind
          exact ih _ (hclose d f rest hframes (by simpa using hkind) h)

/-- Unwinding stops at a frame of the kind, or with no frame left. -/
lemma frames_unwind (d : Draft) (kind : Frame → Bool) :
    (d.unwind kind).frames = [] ∨
      ∃ f rest, (d.unwind kind).frames = f :: rest ∧ kind f = true := by
  suffices ∀ count d, d.frames.length ≤ count → (closeUpTo kind count d).frames = [] ∨
      ∃ f rest, (closeUpTo kind count d).frames = f :: rest ∧ kind f = true from
    this _ d (Nat.le_refl _)
  intro count
  induction count with
  | zero =>
      intro d hlen
      exact Or.inl (List.eq_nil_of_length_eq_zero (Nat.le_zero.mp hlen))
  | succ count ih =>
      intro d hlen
      rw [closeUpTo]
      split
      · rename_i hframes
        exact Or.inl hframes
      · rename_i f rest hframes
        split
        · rename_i hkind
          exact Or.inr ⟨f, rest, hframes, hkind⟩
        · -- closing opens no frame, so one less is left to count
          refine ih _ ?_
          rw [frames_closeFrame, length_enterTop]
          rw [hframes, List.length_cons] at hlen
          exact Nat.le_of_succ_le_succ hlen

/-- Where the outer frames are entered already, unwinding only takes frames away. -/
lemma frames_unwind_of_isEntered {d : Draft} (houter : ∀ f ∈ d.frames.tail, f.isEntered = true)
    (kind : Frame → Bool) : (d.unwind kind).frames = d.frames.dropWhile fun f => !kind f := by
  suffices ∀ count d, d.frames.length ≤ count → (∀ f ∈ d.frames.tail, f.isEntered = true) →
      (closeUpTo kind count d).frames = d.frames.dropWhile fun f => !kind f from
    this _ d (Nat.le_refl _) houter
  intro count
  induction count with
  | zero =>
      intro d hlen _
      rw [closeUpTo, List.eq_nil_of_length_eq_zero (Nat.le_zero.mp hlen), List.dropWhile_nil]
  | succ count ih =>
      intro d hlen houter
      rw [closeUpTo]
      split
      · rename_i hframes
        rw [hframes, List.dropWhile_nil]
      · rename_i f rest hframes
        rw [hframes] at hlen houter
        have hclosed : ({ d with frames := rest }.closeFrame f).frames = rest := by
          rw [frames_closeFrame]
          exact enterTop_of_isEntered houter
        split
        · rename_i hkind
          rw [hframes, List.dropWhile_cons_of_neg (by simp [hkind])]
        · rename_i hkind
          rw [ih _ (by simpa [hclosed] using hlen) (by
            rw [hclosed]
            exact fun f hf => houter f (List.mem_of_mem_tail hf)), hclosed, hframes,
            List.dropWhile_cons_of_pos (by simp [hkind])]

/-- At the end of a diagram no frame is open. -/
lemma frames_ofLines (lines : List (List Char)) : (ofLines lines).frames = [] := by
  rcases frames_unwind (lines.foldl step {}).endBlock (fun _ => false) with h | ⟨_, _, _, h⟩
  · exact h
  · exact Bool.noConfusion h

end Draft

end ActivityFlow.Diagram
