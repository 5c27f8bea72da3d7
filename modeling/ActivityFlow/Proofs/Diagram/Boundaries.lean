import ActivityFlow.Proofs.Diagram.Bookkeeping

/-!
# Between two lines

A diagram may be cut between any two of its lines, and what the draft has noted down there still
holds together: every id it remembers is the id of a node, and a condition that waits for its link
waits at the decision it leads out of, in the branch that was opened last and is still empty
(`Draft.Bookkept`).  A decision is the tail at no other time.

Soundness of the draft (`Draft.Sound`) says so in its own terms, and every line keeps it; here it is
said of the frames and the branches themselves, at every cut of every text.
-/

namespace ActivityFlow.Diagram

/-- The node that a frame is opened with: the decision of its branches, or the entry of its loop. -/
def Frame.anchor : Frame → String
  | .branches decision _ _ => decision
  | .loop entry => entry

/-- The branches of a frame in the order in which they were opened, the current one last. -/
def Frame.opened : Frame → List Branch
  | .branches _ ended current => ended ++ [current]
  | .loop _ => []

namespace Draft

/-- A condition waits at the decision of the innermost frame: the branch opened last is under this
    condition, and no node was linked in it. -/
def WaitsUnder (d : Draft) (condition : String) : Prop :=
  ∃ decision ended current rest, d.frames = .branches decision ended current :: rest ∧
    d.tail = some decision ∧ current.condition = condition ∧ current.entered = false

/-- **The books of a draft are in order.** -/
structure Bookkept (d : Draft) : Prop where
  tail : ∀ id ∈ d.tail, id ∈ d.ids
  declared : ∀ id ∈ d.declared, id ∈ d.ids
  anchors : ∀ f ∈ d.frames, f.anchor ∈ d.ids
  /-- A branch that has ended keeps the node it ended in, if there is one. -/
  branchTails : ∀ f ∈ d.frames, ∀ b ∈ f.opened, ∀ id ∈ b.tail, id ∈ d.ids
  pending : ∀ condition ∈ d.pending, d.WaitsUnder condition
  /-- A decision is the tail only while a condition is pending. -/
  atDecision : d.pending.isSome = true ↔ ∃ id ∈ d.tail, Listed d.entries id .decision

variable {d : Draft} {entries : List Entry}

lemma FrameSound.anchor_mem : ∀ {f : Frame}, FrameSound entries f →
    f.anchor ∈ entries.map (·.node.id)
  | .branches _ _ _, ⟨hdecision, _, _⟩ => hdecision.mem_ids
  | .loop _, h => Listed.mem_ids h

lemma FrameSound.tail_mem : ∀ {f : Frame}, FrameSound entries f →
    ∀ b ∈ f.opened, ∀ id ∈ b.tail, id ∈ entries.map (·.node.id)
  | .branches _ _ _, ⟨_, hcurrent, hended⟩ => by
      intro b hb id hid
      rcases List.mem_append.mp hb with hb | hb
      · exact (hended b hb id hid).mem_ids
      · rw [List.mem_singleton.mp hb, hcurrent] at hid
        exact absurd hid (by simp)
  | .loop _, _ => by simp [Frame.opened]

/-- A node is no decision if it is listed as something else. -/
lemma Settled.not_decision (hnodup : (entries.map (·.node.id)).Nodup) {id : String}
    (h : Settled entries id) : ¬ Listed entries id .decision := by
  obtain ⟨origin, hne, hlisted⟩ := h
  exact fun hdecision => hne (hlisted.origin_unique hnodup hdecision)

lemma Sound.waitsUnder (h : Sound d) : ∀ condition ∈ d.pending, d.WaitsUnder condition := by
  intro condition hcondition
  rcases h.cursor.position with
    ⟨decision, ended, current, rest, hframes, hentered, htail, hpending⟩ | ⟨hpending, -⟩
  · rw [hpending, Option.mem_some_iff] at hcondition
    exact ⟨decision, ended, current, rest, hframes, htail, hcondition, hentered⟩
  · simp [hpending] at hcondition

/-- A condition is pending just while the tail is a decision. -/
lemma Sound.isSome_pending_iff (h : Sound d) :
    d.pending.isSome = true ↔ ∃ id ∈ d.tail, Listed d.entries id .decision := by
  rcases h.cursor.position with
    ⟨decision, ended, current, rest, hframes, -, htail, hpending⟩ | ⟨hpending, hsettled⟩
  · have hframe := h.cursor.remembered _ (hframes ▸ List.mem_cons_self)
    exact iff_of_true (by simp [hpending]) ⟨decision, by simp [htail], hframe.1⟩
  · refine iff_of_false (by simp [hpending]) ?_
    rintro ⟨id, hid, hdecision⟩
    exact (hsettled id hid).not_decision h.graph.nodup hdecision

lemma Sound.bookkept (h : Sound d) : Bookkept d :=
  ⟨h.cursor.tail_mem, h.cursor.lastDeclared, fun f hf => (h.cursor.remembered f hf).anchor_mem,
    fun f hf => (h.cursor.remembered f hf).tail_mem, h.waitsUnder, h.isSome_pending_iff⟩

/-- The draft of the first lines of a text. -/
def ofFirst (lines : List (List Char)) (count : ℕ) : Draft :=
  (lines.take count).foldl step {}

/-- **The books are in order between any two lines of any text**, and also when a block that is open
    there ends with the text.  The reading goes on from there with the rest of the lines. -/
theorem ofFirst_bookkept (lines : List (List Char)) (count : ℕ) :
    (ofFirst lines count).Bookkept ∧ (ofFirst lines count).endBlock.Bookkept ∧
      ofLines lines = ((lines.drop count).foldl step (ofFirst lines count)).finish := by
  have hsound : Sound (ofFirst lines count) := sound_empty.foldl _
  refine ⟨hsound.bookkept, hsound.endBlock.bookkept, ?_⟩
  rw [ofFirst, ← List.foldl_append, List.take_append_drop, ofLines]

end Draft

end ActivityFlow.Diagram
