import ActivityFlow.Proofs.Diagram.Bookkeeping
import ActivityFlow.Proofs.Diagram.Reading
import Mathlib.Logic.Relation

/-!
# Nothing is cut off

In a diagram of actions, branches and loops, **every node is reached from the first one, and the
node the diagram ends in is reached from every one**.  The lines need not be balanced: a closing
line may close frames of the other kind on its way, and the end of the diagram closes the rest.

The first half is easy to keep, since a new node is linked from the tail.  For the second the tail
is not enough: while an `if` is open, the branches that have ended do not lead to the tail.  They
lead to the *open ends* of the frames (`openEnds`): the node a branch ended in, or the decision
itself when the branch was not entered.  Closing the frame links exactly these to the join.

* `Flowing` — every node is reached from the first and reaches an open end.
* `Flowing.takeLine` — one structured line keeps it.
* **`read_reaches`** — the definition that is read flows from its first node to its last tail.

Arrows, further starts and stops are left out because they do cut off nodes, by what they mean.
-/

namespace ActivityFlow.Diagram

/-! ## Reaching along transitions -/

/-- Whether a transition leads from one node to another. -/
def Leads (transitions : List Transition) (a b : String) : Prop :=
  ∃ t ∈ transitions, t.source = a ∧ t.target = b

/-- Whether any number of transitions leads from one node to another. -/
def Reaches (transitions : List Transition) : String → String → Prop :=
  Relation.ReflTransGen (Leads transitions)

lemma Reaches.mono {ts ts' : List Transition} (hsub : ts ⊆ ts') {a b : String}
    (h : Reaches ts a b) : Reaches ts' a b :=
  Relation.ReflTransGen.mono (fun _ _ ⟨t, ht, hends⟩ => ⟨t, hsub ht, hends⟩) a b h

/-- What is reached from every node listed, and from where.  The ends are the nodes that later
    lines link from. -/
structure Flows (ids : List String) (transitions : List Transition) (ends : List String) :
    Prop where
  reached : ∀ first ∈ ids.head?, ∀ id ∈ ids, Reaches transitions first id
  live : ∀ id ∈ ids, ∃ x ∈ ends, Reaches transitions id x

/-- The ends may move on, as long as each old one reaches a new one. -/
lemma Flows.moveEnds {ids : List String} {ts : List Transition} {ends ends' : List String}
    (h : Flows ids ts ends) (hends : ∀ x ∈ ends, ∃ y ∈ ends', Reaches ts x y) :
    Flows ids ts ends' := by
  refine ⟨h.reached, fun id hid => ?_⟩
  obtain ⟨x, hx, hreach⟩ := h.live id hid
  obtain ⟨y, hy, hxy⟩ := hends x hx
  exact ⟨y, hy, hreach.trans hxy⟩

/-- A node may be put at the end when a node listed before reaches it and it is an end itself. -/
lemma Flows.extend {ids ids' : List String} {ts ts' : List Transition} {ends ends' : List String}
    {new : String} (h : Flows ids ts ends) (hids : ids' = ids ∨ ids' = ids ++ [new])
    (hsub : ts ⊆ ts') (hfrom : ids ≠ [] → ∃ x ∈ ids, Reaches ts' x new)
    (hends : ∀ x ∈ ends, ∃ y ∈ ends', Reaches ts' x y) (hnew : new ∈ ends') :
    Flows ids' ts' ends' := by
  have hold : Flows ids ts' ends' := by
    refine Flows.moveEnds ⟨fun first hfirst id hid => ?_, fun id hid => ?_⟩ hends
    · exact (h.reached first hfirst id hid).mono hsub
    · obtain ⟨x, hx, hreach⟩ := h.live id hid
      exact ⟨x, hx, hreach.mono hsub⟩
  rcases hids with rfl | rfl
  · exact hold
  · refine ⟨fun first hfirst id hid => ?_, fun id hid => ?_⟩
    · cases ids with
      | nil =>
          simp only [List.nil_append, List.head?_cons, Option.mem_some_iff] at hfirst
          rw [← hfirst, List.mem_singleton.mp hid]
          exact Relation.ReflTransGen.refl
      | cons a rest =>
          have hfirst' : first ∈ (a :: rest).head? := hfirst
          rcases List.mem_append.mp hid with hid | hid
          · exact hold.reached first hfirst' id hid
          · obtain ⟨x, hx, hreach⟩ := hfrom (List.cons_ne_nil a rest)
            rw [List.mem_singleton.mp hid]
            exact (hold.reached first hfirst' x hx).trans hreach
    · rcases List.mem_append.mp hid with hid | hid
      · exact hold.live id hid
      · exact ⟨new, hnew, by rw [List.mem_singleton.mp hid]; exact Relation.ReflTransGen.refl⟩

namespace Draft

/-! ## What a link reaches -/

/-- A link that is dropped leads from a node to itself, so its target is reached all the same. -/
lemma reaches_linkOf {ts : List Transition} {count : ℕ} {source target : String}
    {condition : Option String} (hsub : linkOf count (some source) target condition ⊆ ts) :
    Reaches ts source target := by
  simp only [linkOf] at hsub
  split at hsub
  · rename_i hdropped
    simp only [Bool.and_eq_true, decide_eq_true_eq] at hdropped
    rw [hdropped.1]
    exact Relation.ReflTransGen.refl
  · exact Relation.ReflTransGen.single ⟨_, hsub (List.mem_singleton_self _), rfl, rfl⟩

/-- The node that a branch is linked to its join from. -/
def openEnd? (decision : String) (b : Branch) : Option String :=
  if b.entered then b.tail else some decision

/-- Every open end of the branches reaches the join. -/
lemma reaches_joinsOf {decision join : String} {b : Branch} {x : String}
    {ts : List Transition} (hend : openEnd? decision b = some x) :
    ∀ {branches : List Branch} {count : ℕ}, b ∈ branches →
      joinsOf decision join count branches ⊆ ts → Reaches ts x join
  | [], _, hb, _ => by simp at hb
  | b' :: rest, count, hb, hsub => by
      rw [joinsOf, List.append_subset] at hsub
      rcases List.mem_cons.mp hb with rfl | hb
      · rw [openEnd?] at hend
        cases hentered : b.entered with
        | true =>
            simp only [hentered, if_true] at hend hsub
            rw [hend] at hsub
            exact reaches_linkOf hsub.1
        | false =>
            simp only [hentered, Bool.false_eq_true, if_false, Option.some.injEq] at hend hsub
            rw [hend] at hsub
            exact reaches_linkOf hsub.1
      · exact reaches_joinsOf hend hb hsub.2

lemma reaches_exitsOf {count : ℕ} {tail entry after : String} {condition : Option String}
    {ts : List Transition} (hsub : exitsOf count (some tail) entry after condition ⊆ ts) :
    Reaches ts tail after :=
  reaches_linkOf (List.append_subset.mp hsub).2

/-! ## Drafts that flow -/

/-- The nodes that the branches already ended in a frame are linked to its join from. -/
def frameEnds : Frame → List String
  | .branches decision ended _ => ended.filterMap (openEnd? decision)
  | .loop _ => []

/-- The nodes that later lines link from: the tail, and what the frames keep. -/
def openEnds (frames : List Frame) (tail : Option String) : List String :=
  tail.toList ++ frames.flatMap frameEnds

@[simp] lemma flatMap_enterTop : ∀ frames : List Frame,
    (enterTop frames).flatMap frameEnds = frames.flatMap frameEnds
  | [] => rfl
  | .branches _ _ _ :: _ => rfl
  | .loop _ :: _ => rfl

/-- Until its current branch is entered, the innermost `if` has its decision for a tail. -/
def AtDecision (frames : List Frame) (tail : Option String) : Prop :=
  ∀ decision ended current rest, frames = .branches decision ended current :: rest →
    current.entered = false → tail = some decision

lemma atDecision_enterTop (frames : List Frame) (tail : Option String) :
    AtDecision (enterTop frames) tail := by
  intro decision ended current rest hframes hentered
  cases frames with
  | nil => simp at hframes
  | cons f outer =>
      cases f with
      | branches _ _ _ =>
          simp only [enterTop_branches, List.cons.injEq, Frame.branches.injEq] at hframes
          rw [← hframes.1.2.2] at hentered
          exact Bool.noConfusion hentered
      | loop _ => simp at hframes

/-- **Every node is reached from the first one and reaches an open end.** -/
structure Flowing (d : Draft) : Prop where
  sound : Sound d
  flows : Flows (d.entries.map (·.node.id)) d.transitions (openEnds d.frames d.tail)
  started : d.entries ≠ [] → ∃ id, d.tail = some id
  atDecision : AtDecision d.frames d.tail
  noNote : ∀ target lines, d.block ≠ .note target lines

variable {d d' : Draft} {id : String} {origin : Origin}

/-- Linking a supplied node from the tail keeps the flow.  A tail is missing only at the very
    beginning, when there is no node to be cut off. -/
lemma Flowing.flows_attach (h : Flowing d) (hs : Supplied d origin (d', id)) :
    Flows (d'.entries.map (·.node.id))
      (d.transitions ++ linkOf d.transitions.length d.tail id d.pending)
      (openEnds (enterTop d.frames) (some id)) := by
  have hlink : ∀ x, d.tail = some x → Reaches
      (d.transitions ++ linkOf d.transitions.length d.tail id d.pending) x id := by
    intro x hx
    rw [hx]
    exact reaches_linkOf (List.subset_append_right _ _)
  refine h.flows.extend hs.ids_eq (List.subset_append_left _ _) ?_ ?_ (by simp [openEnds])
  · intro hne
    obtain ⟨x, hx⟩ := h.started fun hnil => hne (by rw [hnil]; rfl)
    exact ⟨x, h.sound.cursor.tail_mem x hx, hlink x hx⟩
  · intro x hx
    rcases List.mem_append.mp hx with hx | hx
    · exact ⟨id, by simp [openEnds], hlink x (by simpa using hx)⟩
    · exact ⟨x, by simp only [openEnds, flatMap_enterTop]; exact List.mem_append_right _ hx,
        Relation.ReflTransGen.refl⟩

lemma Flowing.attachDeclare (h : Flowing d) (hs : Supplied d origin (d', id))
    (hid : Settled d'.entries id) : Flowing ((d'.attach id).declare id) := by
  have hsound := (h.sound.supply hs).attachDeclare hid
  have hflows := h.flows_attach hs
  obtain ⟨entries, counter, rfl⟩ := hs.exists_eq
  rw [attach_eq] at hsound ⊢
  exact ⟨hsound, hflows, fun _ => ⟨id, rfl⟩, atDecision_enterTop _ _, h.noNote⟩

lemma Flowing.modifyNode (h : Flowing d) (id : String) {change : Node → Node}
    (hid : ∀ n, (change n).id = n.id) : Flowing (d.modifyNode id change) := by
  refine ⟨h.sound.modifyNode id hid, ?_, ?_, h.atDecision, h.noNote⟩
  · rw [ids_modifyNode id hid]
    exact h.flows
  · intro hne
    exact h.started fun hnil => hne (by simp [Draft.modifyNode, hnil])

lemma Flowing.act (h : Flowing d) (text : ActionText) : Flowing (d.act text) := by
  cases text with
  | empty written =>
      exact ⟨h.sound.act (.empty written), h.flows, h.started, h.atDecision, h.noNote⟩
  | labelled label stereotype =>
      have hs := supplied_resolve h.sound.graph.marker label
      have hid := (h.sound.resolve label).2
      rcases hresolve : d.resolve label with ⟨d', id⟩
      rw [hresolve] at hs hid
      have hdone := h.attachDeclare hs hid
      simp only [Draft.act, hresolve]
      cases stereotype with
      | none => exact hdone
      | some name => exact hdone.modifyNode id fun _ => rfl

/-! ## Opening and closing frames -/

lemma Flowing.openIf (h : Flowing d) (condition : String) : Flowing (d.openIf condition) := by
  have hsound := h.sound.openIf condition
  obtain ⟨entries, counter, decision, hmade, hs⟩ :=
    exists_addMade d ("if: " ++ condition) .decision
  have hflows := h.flows_attach hs
  simp only [Draft.openIf, hmade, Draft.declare, attach_eq] at hsound ⊢
  refine ⟨hsound, hflows, fun _ => ⟨decision, rfl⟩, ?_, h.noNote⟩
  intro decision' ended current rest hframes _
  simp only [List.cons.injEq, Frame.branches.injEq] at hframes
  rw [hframes.1.1]

lemma Flowing.openLoop (h : Flowing d) (first : Option ActionText) :
    Flowing (d.openLoop first) := by
  have hsound := h.sound.openLoop none
  obtain ⟨entries, counter, entry, hmade, hs⟩ := exists_addMade d "loop_entry" .loopEntry
  have hflows := h.flows_attach hs
  have hopened : Flowing (d.openLoop none) := by
    simp only [Draft.openLoop, hmade, attach_eq] at hsound ⊢
    refine ⟨hsound, hflows, fun _ => ⟨entry, rfl⟩, ?_, h.noNote⟩
    intro decision' ended current rest hframes _
    simp at hframes
  cases first with
  | none => exact hopened
  | some text => exact hopened.act text

/-- What is left to check when a frame is closed: the tail and the open ends of the frame reach the
    new node. -/
lemma Flowing.close (h : Flowing d) {f : Frame} {rest : List Frame}
    (hframes : d.frames = f :: rest) {entries : List Entry} {counter : ℕ}
    {links : List Transition}
    (hids : entries.map (·.node.id) = d.entries.map (·.node.id) ∨
      entries.map (·.node.id) = d.entries.map (·.node.id) ++ [id])
    (hsound : Sound
      { d with
        entries := entries, transitions := d.transitions ++ links, counter := counter,
        tail := some id, pending := none, frames := enterTop rest })
    (htail : ∀ x ∈ d.tail, Reaches (d.transitions ++ links) x id)
    (hends : ∀ x ∈ frameEnds f, Reaches (d.transitions ++ links) x id) :
    Flowing
      { d with
        entries := entries, transitions := d.transitions ++ links, counter := counter,
        tail := some id, pending := none, frames := enterTop rest } := by
  refine ⟨hsound, ?_, fun _ => ⟨id, rfl⟩, atDecision_enterTop _ _, h.noNote⟩
  refine h.flows.extend hids (List.subset_append_left _ _) ?_ ?_ (by simp [openEnds])
  · intro hne
    obtain ⟨x, hx⟩ := h.started fun hnil => hne (by rw [hnil]; rfl)
    exact ⟨x, h.sound.cursor.tail_mem x hx, htail x hx⟩
  · intro x hx
    rw [hframes, openEnds, List.flatMap_cons, List.mem_append, List.mem_append] at hx
    rcases hx with hx | hx | hx
    · exact ⟨id, by simp [openEnds], htail x (by simpa using hx)⟩
    · exact ⟨id, by simp [openEnds], hends x hx⟩
    · exact ⟨x, by simp only [openEnds, flatMap_enterTop]; exact List.mem_append_right _ hx,
        Relation.ReflTransGen.refl⟩

lemma Flowing.closeBranches (h : Flowing d) {decision : String} {ended : List Branch}
    {current : Branch} {rest : List Frame}
    (hframes : d.frames = .branches decision ended current :: rest) :
    Flowing ({ d with frames := rest }.closeBranches decision ended current) := by
  have hsound := h.sound.closeFrame hframes
  rw [Draft.closeFrame] at hsound
  obtain ⟨entries, counter, join, hmade, hs⟩ :=
    exists_addMade { d with frames := rest } "join" .join
  have hids := hs.ids_eq
  rw [closeBranches_eq hmade] at hsound ⊢
  refine h.close hframes hids hsound ?_ ?_
  · intro x hx
    refine reaches_joinsOf (b := endBranch current d.tail) ?_
      (List.mem_append_right _ (List.mem_singleton_self _)) (List.subset_append_right _ _)
    -- the current branch ends in the tail, or the tail is still its decision
    rw [Option.mem_def] at hx
    cases hentered : current.entered with
    | true => simpa [openEnd?, endBranch, hentered] using hx
    | false =>
        have htail := h.atDecision _ _ _ _ hframes hentered
        simpa [openEnd?, endBranch, hentered] using htail.symm.trans hx
  · intro x hx
    obtain ⟨b, hb, hend⟩ := List.mem_filterMap.mp hx
    exact reaches_joinsOf hend (List.mem_append_left _ hb) (List.subset_append_right _ _)

lemma Flowing.closeLoop (h : Flowing d) {entry : String} {rest : List Frame}
    (hframes : d.frames = .loop entry :: rest) (condition : Option String) :
    Flowing ({ d with frames := rest }.closeLoop entry condition) := by
  have hcursor := h.sound.cursor
  rw [hframes] at hcursor
  have hsound := sound_closeLoop (d := { d with frames := rest }) h.sound.graph hcursor condition
  obtain ⟨entries, counter, after, hmade, hs⟩ :=
    exists_addMade { d with frames := rest } "after_loop" .afterLoop
  have hids := hs.ids_eq
  rw [closeLoop_eq hmade] at hsound ⊢
  refine h.close hframes hids hsound ?_ (by simp [frameEnds])
  intro x hx
  rw [Option.mem_def] at hx
  simp only [hx]
  exact reaches_exitsOf (List.subset_append_right _ _)

lemma Flowing.unwind (h : Flowing d) (kind : Frame → Bool) : Flowing (d.unwind kind) := by
  refine unwind_induction (fun d f rest hframes _ h => ?_) h
  cases f with
  | branches decision ended current => exact h.closeBranches hframes
  | loop entry => exact h.closeLoop hframes none

lemma Flowing.closeIf (h : Flowing d) : Flowing d.closeIf := by
  simp only [Draft.closeIf]
  split
  · rename_i hframes
    exact (h.unwind _).closeBranches hframes
  · exact h.unwind _

lemma Flowing.endLoop (h : Flowing d) (condition : String) : Flowing (d.endLoop condition) := by
  simp only [Draft.endLoop]
  split
  · rename_i hframes
    exact (h.unwind _).closeLoop hframes _
  · exact h.unwind _

/-- Beginning a further branch leaves the old tail behind as an open end. -/
lemma Flowing.nextBranch (h : Flowing d) (condition : String) :
    Flowing (d.nextBranch condition) := by
  have hsound := h.sound.nextBranch condition
  simp only [Draft.nextBranch] at hsound ⊢
  split at hsound
  · rename_i decision ended current rest hframes
    have hflowing := h.unwind isBranches
    refine ⟨hsound, ?_, fun _ => ⟨decision, rfl⟩, ?_, hflowing.noNote⟩
    · refine hflowing.flows.moveEnds fun x hx => ?_
      refine ⟨x, ?_, Relation.ReflTransGen.refl⟩
      rw [hframes, openEnds, List.mem_append] at hx
      simp only [openEnds, List.flatMap_cons, frameEnds, List.filterMap_append, List.mem_append]
      rcases hx with hx | hx
      · -- the old tail is where an entered branch ends; otherwise it is the decision again
        rw [Option.mem_toList] at hx
        cases hentered : current.entered with
        | true =>
            exact Or.inr (Or.inl (Or.inr (by simp [openEnd?, endBranch, hentered, hx])))
        | false =>
            have htail := hflowing.atDecision _ _ _ _ hframes hentered
            exact Or.inl (by simpa using hx.symm.trans htail)
      · rw [List.flatMap_cons, List.mem_append] at hx
        exact hx.elim (fun hx => Or.inr (Or.inl (Or.inl hx))) fun hx => Or.inr (Or.inr hx)
    · intro decision' ended' current' rest' hframes' _
      simp only [List.cons.injEq, Frame.branches.injEq] at hframes'
      rw [hframes'.1.1]
  · exact h.unwind _

/-! ## Lines -/

end Draft

/-- The lines of actions, branches and loops, and those that say nothing about the graph. -/
def Line.isStructured : Line → Bool
  | .action _ | .openIf _ | .nextBranch _ | .closeIf | .openLoop _ | .closeLoop _ => true
  | .unknown | .looseArrow _ | .skinparam _ _ | .pragma _ _ | .style _ => true
  | .start | .stop | .arrow _ _ _ | .shortNote _ | .inlineNote _ _ | .blockNote _ => false

namespace Draft

/-- Whether all lines that are read behind a draft are structured.  What a line is depends on
    whether an `if` is open there, and the lines of a style block are not read at all. -/
def structuredFrom : Draft → List (List Char) → Bool
  | _, [] => true
  | d, raw :: rest =>
      (d.block != .none || (Line.read d.ifOpen raw).isStructured) &&
        structuredFrom (d.step raw) rest

lemma Flowing.withAside (h : Flowing d) (block : Block) (remarks : Remarks)
    (hblock : ∀ target lines, block ≠ .note target lines) :
    Flowing { d with block := block, remarks := remarks } :=
  ⟨h.sound.withAside block remarks, h.flows, h.started, h.atDecision, hblock⟩

/-- **One structured line keeps the flow.** -/
theorem Flowing.takeLine (h : Flowing d) {raw : List Char}
    (hline : (Line.read d.ifOpen raw).isStructured = true) : Flowing (d.takeLine raw) := by
  simp only [Draft.takeLine]
  cases hread : Line.read d.ifOpen raw with
  | style ends => cases ends <;> exact h.withAside _ _ (by simp [h.noNote])
  | skinparam name value => exact h.withAside _ _ h.noNote
  | pragma name value => exact h.withAside _ _ h.noNote
  | openIf condition => exact h.openIf condition
  | nextBranch condition => exact h.nextBranch condition
  | closeIf => exact h.closeIf
  | closeLoop condition =>
      dsimp only
      split
      · exact h.endLoop condition
      · exact h.withAside _ _ h.noNote
  | openLoop first => exact h.openLoop first
  | looseArrow report => exact h.withAside _ _ h.noNote
  | action text => exact h.act text
  | unknown => exact h.withAside _ _ h.noNote
  | _ => simp [hread, Line.isStructured] at hline

lemma Flowing.step (h : Flowing d) {raw : List Char}
    (hline : d.block = .none → (Line.read d.ifOpen raw).isStructured = true) :
    Flowing (d.step raw) := by
  simp only [Draft.step]
  split
  · rename_i hblock
    exact h.takeLine (hline hblock)
  · split
    · exact h.withAside .none _ (by simp)
    · exact h.withAside _ _ (by simp)
  · rename_i hblock
    exact absurd hblock (h.noNote _ _)

/-- Any number of structured lines keeps the flow. -/
lemma Flowing.foldl (h : Flowing d) {lines : List (List Char)}
    (hlines : structuredFrom d lines = true) : Flowing (lines.foldl Draft.step d) := by
  induction lines generalizing d with
  | nil => exact h
  | cons raw rest ih =>
      simp only [structuredFrom, Bool.and_eq_true, Bool.or_eq_true, bne_iff_ne] at hlines
      refine ih (h.step fun hblock => ?_) hlines.2
      exact hlines.1.resolve_left fun hne => hne hblock

lemma Flowing.finish (h : Flowing d) : Flowing d.finish := by
  refine Flowing.unwind ?_ _
  simp only [Draft.endBlock]
  split
  · exact h
  · exact h.withAside .none _ (by simp)
  · rename_i hblock
    exact absurd hblock (h.noNote _ _)

lemma flowing_empty : Flowing {} :=
  ⟨sound_empty, ⟨by simp, by simp⟩, by simp, by simp [AtDecision], by simp⟩

/-- A first line that begins the diagram puts one node into it. -/
lemma flowing_begin : Flowing (begin {}) := by
  have hs := supplied_resolve sound_empty.graph.marker "Start"
  rcases hresolve : resolve {} "Start" with ⟨d', id⟩
  rw [hresolve] at hs
  have hsound := sound_empty.begin
  have hids := hs.ids_eq
  simp only [Draft.begin, hresolve, beginAt] at hsound ⊢
  have hone : ∀ x ∈ d'.entries.map (·.node.id), x = id := by
    intro x hx
    rcases hids with hids | hids
    · rw [hids] at hx
      simp at hx
    · rw [hids] at hx
      simpa using hx
  obtain ⟨entries, counter, rfl⟩ := hs.exists_eq
  refine ⟨hsound, ⟨fun first hfirst x hx => ?_, fun x hx => ⟨id, by simp [openEnds], ?_⟩⟩,
    fun _ => ⟨id, rfl⟩, by simp [AtDecision], by simp⟩
  · rw [hone x hx, hone first (List.mem_of_mem_head? hfirst)]
    exact Relation.ReflTransGen.refl
  · rw [hone x hx]
    exact Relation.ReflTransGen.refl

end Draft

/-! ## Whole diagrams -/

/-- Whether a list of lines is structured, behind an optional first `start`. -/
def isStructured : List (List Char) → Bool
  | [] => true
  | raw :: rest => Draft.structuredFrom {} (raw :: rest) ||
      (Line.read false raw == .start && Draft.structuredFrom (Draft.begin {}) rest)

lemma Draft.flowing_ofLines {lines : List (List Char)} (h : isStructured lines = true) :
    Flowing (ofLines lines) := by
  cases lines with
  | nil => exact flowing_empty.finish
  | cons raw rest =>
      simp only [isStructured, Bool.or_eq_true, Bool.and_eq_true, beq_iff_eq] at h
      rcases h with h | ⟨hstart, h⟩
      · exact (flowing_empty.foldl h).finish
      · have hstep : Draft.step {} raw = begin {} := by
          simp [Draft.step, Draft.takeLine, ifOpen, hstart]
        rw [ofLines, List.foldl_cons, hstep]
        exact (flowing_begin.foldl h).finish

/-- **No node of a structured diagram is cut off.**  Every node is reached from the first one, and
    the node in which the diagram ends is reached from every one. -/
theorem read_reaches (text : String) (id name : Option String) (supply : IdSupply)
    (h : Text.blank text = false) (hlines : isStructured (prepareLines text.toList) = true) :
    ∃ reading supply', read (some text) id name supply = (.ok reading, supply') ∧
      ∀ n ∈ reading.definition.nodes,
        (∃ first, reading.definition.nodes.head? = some first ∧
          Reaches reading.definition.transitions first.id n.id) ∧
        ∃ last, (Draft.ofLines (prepareLines text.toList)).tail = some last ∧
          Reaches reading.definition.transitions n.id last := by
  obtain ⟨usedId, usedName, supply', hread⟩ := read_of_not_blank h id name supply
  refine ⟨_, supply', hread, fun n hn => ?_⟩
  have hflowing := Draft.flowing_ofLines hlines
  have hframes := Draft.frames_ofLines (prepareLines text.toList)
  simp only [readAs, Draft.toDefinition, List.mem_map] at hn ⊢
  generalize Draft.ofLines (prepareLines text.toList) = draft at hn hflowing hframes ⊢
  obtain ⟨e, he, rfl⟩ := hn
  have hid : e.node.id ∈ draft.entries.map (·.node.id) := List.mem_map_of_mem he
  obtain ⟨last, hlast⟩ := hflowing.started (List.ne_nil_of_mem he)
  constructor
  · cases hentries : draft.entries with
    | nil => simp [hentries] at he
    | cons first rest =>
        refine ⟨first.node, rfl, hflowing.flows.reached _ ?_ _ hid⟩
        rw [hentries]
        rfl
  · obtain ⟨x, hx, hreach⟩ := hflowing.flows.live _ hid
    rw [hframes, hlast] at hx
    refine ⟨last, hlast, ?_⟩
    rw [List.mem_singleton.mp hx] at hreach
    exact hreach

/-- A loop that is closed out of an open branch, and an `endif` that finds nothing to close. -/
def crossedFrames : String :=
  "start\nrepeat\nif (a) then\n:A;\nelse\nrepeat while (b)\nendif\n:A;"

theorem read_reaches_crossedFrames :
    Text.blank crossedFrames = false ∧ isStructured (prepareLines crossedFrames.toList) = true ∧
      ∃ reading supply', read (some crossedFrames) none none {} = (.ok reading, supply') ∧
        ∀ n ∈ reading.definition.nodes,
          (∃ first, reading.definition.nodes.head? = some first ∧
            Reaches reading.definition.transitions first.id n.id) ∧
          ∃ last, (Draft.ofLines (prepareLines crossedFrames.toList)).tail = some last ∧
            Reaches reading.definition.transitions n.id last :=
  ⟨by decide, by decide +kernel,
    read_reaches crossedFrames none none {} (by decide) (by decide +kernel)⟩

end ActivityFlow.Diagram
