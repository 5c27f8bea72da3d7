import ActivityFlow.Controller.Operations
import ActivityFlow.Proofs.Action.Stillness

/-!
# Where operations lead an instance

An operation of a controller moves one instance, and pauses while handlers and the persistence work.
Others go on in these pauses, but only with handlers of their own, and handlers move nobody
(`World.Unmoved`).  So what an operation comes to is a course: its instance is moved from stop to
stop, and the persistence is told of every move.  What a call of the persistence comes to is not
touched by others either (`Controller.ensures_zoom_archive`).

* `World.Course`, `World.Moved` — the courses, and those with at least one move.
* `Controller.ensures_enterNode`, `ensures_enterStart`, `ensures_follow` — the course of each.
* **`Controller.ensures_resume`** — the instance stays where it stands, or is recalled by the
  persistence, or begins (`World.Resumed`).  Who is recalled is moved without a word to the
  persistence, which knows it already.
-/

namespace ActivityFlow

open Diagram Routine

variable {π : Type}

/-- Where an instance may be moved to: its beginning, and wherever a transition leads. -/
def Definition.Stop (d : Definition) (node : Option String) : Prop :=
  node = d.start? ∨ ∃ t ∈ d.transitions, node = some t.target

lemma Definition.stop_of_mem_outgoing {d : Definition} {node : String} {way : Transition}
    (h : way ∈ d.outgoing node) : d.Stop (some way.target) :=
  .inr ⟨way, (mem_outgoing.mp h).1, rfl⟩

namespace InstanceStates

variable {states states' : InstanceStates}

/-- Who is placed in states with the same nodes is placed in states with the same nodes. -/
lemma node?_place_congr (h : ∀ id, states'.node? id = states.node? id) (id : String)
    (node other : Option String) :
    (states'.place id node).node? other = (states.place id node).node? other := by
  cases other with
  | none => rfl
  | some other =>
      cases hblank : Text.blank other with
      | true => simp [node?, Text.blank?, hblank]
      | false => rw [node?_place _ id other node hblank, node?_place _ id other node hblank, h]

/-- Who is forgotten in states with the same nodes leaves states with the same nodes. -/
lemma node?_clear_congr (h : ∀ id, states'.node? id = states.node? id) (id : String)
    (other : Option String) :
    (states'.clear (some id)).node? other = (states.clear (some id)).node? other := by
  by_cases hother : other = some id
  · simp [hother, node?, state?, clear, KeyedMap.get?_erase]
  · have hothers (states : InstanceStates) : (states.clear (some id)).node? other =
        states.node? other := by
      cases other with
      | none => rfl
      | some other =>
          have hne : other ≠ id := fun heq => hother (congrArg some heq)
          simp [node?, state?, clear, KeyedMap.get?_erase, hne]
    rw [hothers, hothers, h]

end InstanceStates

namespace World

@[simp] lemma states_withStates (w : World π) (states : InstanceStates) :
    (w.withStates states).states = states := rfl

/-! ## What others may do -/

/-- Between two worlds nobody was moved, and nothing was stored or kept. -/
structure Unmoved (w w' : World π) : Prop where
  definitions : w'.definitions = w.definitions
  archive : w'.archive = w.archive
  node : ∀ id, w'.states.node? id = w.states.node? id

lemma Unmoved.refl (w : World π) : w.Unmoved w :=
  ⟨rfl, rfl, fun _ => rfl⟩

lemma Unmoved.trans {w w' w'' : World π} (h : w.Unmoved w') (h' : w'.Unmoved w'') :
    w.Unmoved w'' :=
  ⟨h'.definitions.trans h.definitions, h'.archive.trans h.archive,
    fun id => (h'.node id).trans (h.node id)⟩

/-- Who is placed where others moved nobody is placed where they will move nobody. -/
lemma Unmoved.place {w w' : World π} (h : w.Unmoved w') (id : String) (node : Option String) :
    (w.place id node).Unmoved (w'.place id node) :=
  ⟨h.definitions, h.archive, InstanceStates.node?_place_congr h.node id node⟩

lemma Unmoved.withArchive {w w' : World π} (h : w.Unmoved w') (archive : π) :
    (w.withArchive archive).Unmoved (w'.withArchive archive) :=
  ⟨h.definitions, rfl, h.node⟩

/-- Who moves nobody in the state that actions work on moves nobody in the world. -/
lemma unmoved_withExecution {w : World π} {execution : ExecutionState}
    (h : w.execution.Still execution) : w.Unmoved (w.withExecution execution) :=
  ⟨rfl, rfl, h⟩

/-- Between two worlds nobody was moved, and no work was left for later. -/
structure Quiet (w w' : World π) : Prop where
  still : w.Unmoved w'
  queue : w.execution.queue = [] → w'.execution.queue = []

lemma Quiet.refl (w : World π) : w.Quiet w :=
  ⟨.refl w, fun h => h⟩

lemma Quiet.trans {w w' w'' : World π} (h : w.Quiet w') (h' : w'.Quiet w'') : w.Quiet w'' :=
  ⟨h.still.trans h'.still, fun hqueue => h'.queue (h.queue hqueue)⟩

/-- Those who are hired move nobody, and being hired moves nobody. -/
lemma quiet_hire (w : World π) :
    w.Quiet (Employer.hire w).2 ∧ ∀ t ∈ (Employer.hire w).1, t.Keeps Quiet := by
  refine ⟨⟨⟨rfl, rfl, fun _ => rfl⟩, fun _ => rfl⟩, ?_⟩
  intro t ht
  obtain ⟨newcomer, hmem, rfl⟩ := List.mem_map.mp ht
  refine (w.execution.keeps_hire newcomer hmem).zoom (fun _ _ => rfl) fun w execution hcalm => ?_
  exact ⟨unmoved_withExecution hcalm.still, fun hqueue => hcalm.queue.trans hqueue⟩

/-! ## What an operation does -/

/-- The world with an instance moved to a node, or to none, and the persistence told of it. -/
def move (p : Persistence π) (id : String) (node : Option String) (w : World π) : World π :=
  { w.place id node with archive := (p.update id node w.archive).2 }

/-- The world behind a question to the persistence. -/
def asking (p : Persistence π) (id : String) (w : World π) : World π :=
  { w with archive := (p.load id w.archive).2 }

lemma node?_place (w : World π) (id other : String) (node : Option String)
    (h : Text.blank other = false) : (w.place id node).states.node? (some other) =
      if other = id then node else w.states.node? (some other) :=
  w.states.node?_place id other node h

lemma node?_move (p : Persistence π) (w : World π) (id other : String) (node : Option String)
    (h : Text.blank other = false) : (w.move p id node).states.node? (some other) =
      if other = id then node else w.states.node? (some other) :=
  w.states.node?_place id other node h

/-- Who is forgotten moves nobody else. -/
lemma node?_forget_of_ne (w : World π) {id other : String} (h : other ≠ id) :
    (w.forget id).states.node? (some other) = w.states.node? (some other) := by
  simp [forget, withStates, states, InstanceStates.node?, InstanceStates.clear,
    InstanceStates.state?, KeyedMap.get?_erase, h]

/-- **A course**: the instance of a definition is moved from stop to stop, among others who move
    nobody. -/
inductive Course (p : Persistence π) (d : Definition) : World π → World π → Prop
  | rest {w w' : World π} (still : w.Unmoved w') : Course p d w w'
  | move {node : Option String} {w w₁ w' : World π} (still : w.Unmoved w₁) (stop : d.Stop node)
      (rest : Course p d (w₁.move p d.id node) w') : Course p d w w'

/-- A course with at least one move. -/
def Moved (p : Persistence π) (d : Definition) (w w' : World π) : Prop :=
  ∃ node w₁, w.Unmoved w₁ ∧ d.Stop node ∧ Course p d (w₁.move p d.id node) w'

/-- How an instance was resumed: it stands on a node of its definition, or the persistence recalls
    it to one, or it begins. -/
inductive Resumed (p : Persistence π) (d : Definition) (w w' : World π) : Prop
  | stayed {node : String}
      (known : Controller.knownNode d (w.states.node? (some d.id)) = some node)
      (still : w.Unmoved w')
  | recalled {node : String}
      (unknown : Controller.knownNode d (w.states.node? (some d.id)) = none)
      (known : Controller.knownNode d (p.load d.id w.archive).1.toOption.join = some node)
      (still : ((w.asking p d.id).place d.id (some node)).Unmoved w')
  | begun
      (unknown : Controller.knownNode d (w.states.node? (some d.id)) = none)
      (forgotten : Controller.knownNode d (p.load d.id w.archive).1.toOption.join = none)
      (moved : Moved p d (w.asking p d.id) w')

variable {p : Persistence π} {d : Definition} {w w' w'' : World π}

namespace Course

lemma behind (still : w.Unmoved w') (h : Course p d w' w'') : Course p d w w'' := by
  cases h with
  | rest still' => exact .rest (still.trans still')
  | move still' stop rest => exact .move (still.trans still') stop rest

lemma append (h : Course p d w w') (h' : Course p d w' w'') : Course p d w w'' := by
  induction h with
  | rest still => exact h'.behind still
  | move still stop _ ih => exact .move still stop (ih h')

lemma still (h : Course p d w w') (still : w'.Unmoved w'') : Course p d w w'' :=
  h.append (.rest still)

/-- What others and every move keep, a course keeps. -/
theorem keeps {I : World π → Prop} (hstill : ∀ {w w'}, w.Unmoved w' → I w → I w')
    (hmove : ∀ {node w}, d.Stop node → I w → I (w.move p d.id node)) (h : Course p d w w')
    (hw : I w) : I w' := by
  induction h with
  | rest still => exact hstill still hw
  | move still stop _ ih => exact ih (hmove stop (hstill still hw))

lemma definitions (h : Course p d w w') : w'.definitions = w.definitions :=
  h.keeps (I := fun w' => w'.definitions = w.definitions)
    (fun still heq => still.definitions.trans heq) (fun _ heq => heq) rfl

end Course

lemma Moved.course (h : Moved p d w w') : Course p d w w' := by
  obtain ⟨node, w₁, still, stop, rest⟩ := h
  exact .move still stop rest

lemma Moved.behind (still : w.Unmoved w') (h : Moved p d w' w'') : Moved p d w w'' := by
  obtain ⟨node, w₁, still', stop, rest⟩ := h
  exact ⟨node, w₁, still.trans still', stop, rest⟩

lemma Moved.append (h : Moved p d w w') (h' : Course p d w' w'') : Moved p d w w'' := by
  obtain ⟨node, w₁, still, stop, rest⟩ := h
  exact ⟨node, w₁, still, stop, rest.append h'⟩

lemma Resumed.still (h : Resumed p d w w') (still : w'.Unmoved w'') : Resumed p d w w'' := by
  cases h with
  | stayed known still' => exact .stayed known (still'.trans still)
  | recalled unknown known still' => exact .recalled unknown known (still'.trans still)
  | begun unknown forgotten moved => exact .begun unknown forgotten (moved.append (.rest still))

lemma Moved.definitions (h : Moved p d w w') : w'.definitions = w.definitions :=
  h.course.definitions

lemma Resumed.definitions (h : Resumed p d w w') : w'.definitions = w.definitions := by
  cases h with
  | stayed known still => exact still.definitions
  | recalled unknown known still => exact still.definitions
  | begun unknown forgotten moved => exact moved.definitions

end World

/-! ## The routines of the controller -/

namespace Controller

open World

variable (c : Controller π) (d : Definition) (w : World π)

/-- Executing the action of a node moves nobody. -/
lemma keeps_performAt (node : String) : (c.performAt d node).Keeps Unmoved := by
  unfold performAt
  split
  · unfold perform
    split
    · exact keeps_pure _
    · refine Keeps.bind ((keeps_execute _ _).zoom (fun _ _ => rfl) fun _ _ =>
        unmoved_withExecution) fun answer => ?_
      split
      · exact keeps_pure _
      · exact keeps_pure _
  · exact keeps_pure _

lemma ensures_performAt (node : String) :
    (c.performAt d node).Ensures Unmoved (fun _ w' => w.Unmoved w') w :=
  (c.keeps_performAt d node).ensures (fun still still' => still.trans still') (Unmoved.refl w)

lemma ensures_performPassedOver :
    (c.performPassedOver d).Ensures Unmoved (fun _ w' => w.Unmoved w') w := by
  unfold performPassedOver
  split
  · exact (c.ensures_performAt d w _).bind fun _ _ still => still
  · exact Unmoved.refl w

/-- **A call of the persistence among others** comes to what it comes to on its own, since others
    leave the persistence alone. -/
lemma ensures_zoom_archive {α : Type} (t : Routine π α) (w : World π) :
    (zoom World.archive World.withArchive t).Ensures Unmoved (fun answer w' =>
      answer = (t.run w.archive).1 ∧ (w.withArchive (t.run w.archive).2).Unmoved w') w := by
  have view_put (archive : π) (w : World π) : (w.withArchive archive).archive = archive := rfl
  exact ensures_zoom view_put (fun _ _ _ => rfl) (fun _ => rfl) Unmoved.refl Unmoved.trans
    (fun still => still.archive) (fun archive still => still.withArchive archive) t w

lemma run_zoom_archive {α : Type} (t : Routine π α) (w : World π) :
    (zoom World.archive World.withArchive t).run w =
      ((t.run w.archive).1, w.withArchive (t.run w.archive).2) := by
  have view_put (archive : π) (w : World π) : (w.withArchive archive).archive = archive := rfl
  exact run_zoom view_put (fun _ _ _ => rfl) (fun _ => rfl) t w

/-- The persistence does not see what actions work on. -/
lemma keeps_zoom_archive {α : Type} (t : Routine π α) :
    (zoom World.archive World.withArchive t).Keeps fun w w' => w'.execution = w.execution := by
  have view_put (archive : π) (w : World π) : (w.withArchive archive).archive = archive := rfl
  have hkeeps : t.Keeps fun _ _ => True := keeps_of_forall (fun _ _ => trivial) t
  exact hkeeps.zoom view_put fun _ _ _ => rfl

@[simp] lemma run_loadNode (id : String) : (c.loadNode id).run w =
    ((c.persistence.load id w.archive).1.toOption.join, w.asking c.persistence id) := by
  rw [loadNode, run_bind, run_zoom_archive]
  rfl

@[simp] lemma run_persistNode (id : String) (node : Option String) : (c.persistNode id node).run w =
    ((), w.withArchive (c.persistence.update id node w.archive).2) :=
  (run_bind ..).trans (by rw [run_zoom_archive]; rfl)

@[simp] lemma run_moveTo (id node : String) :
    (c.moveTo id node).run w = ((), w.move c.persistence id (some node)) := by
  rw [moveTo, run_bind, run_modify, run_persistNode]
  rfl

lemma ensures_persistNode (id : String) (node : Option String) :
    (c.persistNode id node).Ensures Unmoved (fun _ w' =>
      (w.withArchive (c.persistence.update id node w.archive).2).Unmoved w') w :=
  (ensures_zoom_archive _ w).bind fun _ _ hcall => hcall.2

lemma ensures_loadNode (id : String) :
    (c.loadNode id).Ensures Unmoved (fun node w' =>
      node = (c.persistence.load id w.archive).1.toOption.join ∧
        (w.asking c.persistence id).Unmoved w') w :=
  (ensures_zoom_archive _ w).bind fun _ _ hcall => ⟨by rw [hcall.1]; rfl, hcall.2⟩

lemma ensures_moveTo (id node : String) : (c.moveTo id node).Ensures Unmoved (fun _ w' =>
    (w.move c.persistence id (some node)).Unmoved w') w := by
  rw [moveTo, ensures_bind, ensures_modify]
  exact c.ensures_persistNode (w.place id (some node)) id (some node)

/-- Behind the action of a node there is at most one move. -/
lemma ensures_enterNode (node : String) :
    (c.enterNode d node).Ensures Unmoved (fun _ w' => Course c.persistence d w w') w := by
  refine (c.ensures_performAt d w node).bind fun completed w₁ still => ?_
  split
  · split
    · rename_i way hway
      have hmem : way ∈ d.outgoing node := by simp [Choice.only_eq_some_iff.mp hway]
      refine (c.ensures_moveTo w₁ d.id way.target).bind fun _ w' still' => ?_
      exact .move still (d.stop_of_mem_outgoing hmem) (.rest still')
    · exact .rest still
  · exact .rest still

/-- There is a place at which an instance may begin or be found. -/
def HasPlace (d : Definition) : Prop :=
  d.start? ≠ none ∨ ∃ node, d.hasNode node = true

/-- **An instance that begins is moved to its beginning**, and perhaps behind it. -/
theorem ensures_enterStart : (c.enterStart d).Ensures Unmoved (fun node w' =>
    Moved c.persistence d w w' ∧ (node ≠ none → HasPlace d)) w := by
  rw [enterStart, ensures_bind, ensures_modify]
  refine (c.ensures_persistNode (w.place d.id d.start?) d.id d.start?).bind fun _ w₁ moved => ?_
  refine (c.ensures_performPassedOver d w₁).bind fun _ w₂ still => ?_
  split
  · rename_i node hstart
    have hplace : HasPlace d := .inl fun hnone => by simp [hnone, nonEmpty?] at hstart
    refine (c.ensures_enterNode d w₂ _).bind fun _ w' course => ⟨?_, fun _ => hplace⟩
    exact ⟨d.start?, w, .refl w, .inl rfl, course.behind (moved.trans still)⟩
  · exact ⟨⟨d.start?, w, .refl w, .inl rfl, .rest (moved.trans still)⟩, .inl⟩

lemma hasPlace_of_knownNode {d : Definition} {node : Option String} {known : String}
    (h : knownNode d node = some known) : HasPlace d :=
  .inr ⟨known, (Option.filter_eq_some_iff.mp h).2⟩

/-- **An instance that is resumed** stays, or is recalled, or begins. -/
theorem ensures_resume : (c.resume d.id d).Ensures Unmoved (fun node w' =>
    Resumed c.persistence d w w' ∧ (node ≠ none → HasPlace d)) w := by
  rw [resume, ensures_bind, ensures_get]
  split
  · rename_i node known
    exact ⟨.stayed known (.refl w), fun _ => hasPlace_of_knownNode known⟩
  · rename_i unknown
    refine (c.ensures_loadNode w d.id).bind fun loaded w₁ hload => ?_
    obtain ⟨rfl, asked⟩ := hload
    split
    · rename_i node known
      rw [ensures_bind, ensures_modify, ensures_pure]
      exact ⟨.recalled unknown known (asked.place d.id (some node)),
        fun _ => hasPlace_of_knownNode known⟩
    · rename_i forgotten
      exact (c.ensures_enterStart d w₁).mono fun _ w' begun =>
        ⟨.begun unknown forgotten (begun.1.behind asked), begun.2⟩

/-- What an instance comes to that follows a value: it is moved along the transition that the value
    chooses, and perhaps further.  A value that chooses nothing may have no text, and then there is
    no answer. -/
def Followed (p : Persistence π) (d : Definition) (node : String) (value : Json) (w : World π) :
    Except ControllerError Bool → World π → Prop
  | .ok _, w' => Course p d w w'
  | .error e, w' => Choice.select d (d.outgoing node) value = none ∧
      (∃ cause, value.checkText = .error cause ∧ e = .text cause) ∧ w' = w

/-- **An instance that follows a value** is moved along the transition that it chooses, and perhaps
    further. -/
theorem ensures_follow (node : String) (value : Json) :
    (c.follow d.id d node value).Ensures Unmoved (Followed c.persistence d node value w) w := by
  unfold follow
  split
  · rename_i hnone
    cases hshown : value.checkText with
    | error cause => exact ⟨hnone, ⟨cause, hshown, rfl⟩, rfl⟩
    | ok _ => exact Course.rest (.refl w)
  · rename_i way hway
    have hstop := d.stop_of_mem_outgoing (Choice.mem_of_select hway)
    refine (c.ensures_moveTo w d.id way.target).bind fun _ w₁ moved => ?_
    refine Ensures.bind (t := discard (c.enterNode d way.target))
      ((c.ensures_enterNode d w₁ way.target).bind fun _ w' course => ?_) fun _ w' course => course
    exact Course.move (.refl w) hstop (course.behind moved)

end Controller

end ActivityFlow
