import ActivityFlow.Persistence.Recorder
import ActivityFlow.Proofs.Controller.Standing

/-!
# A crash loses no position

A controller keeps nodes in memory, and tells a persistence of them.  When the persistence does its
work (`Persistence.Faithful`), both know the same after every operation (`World.Mirrored`): every
move is told at once, a restart that forgets an instance moves it again, and what an import writes
with its definition is where the instance stands.

So a process that begins with empty memory loses nothing.  It asks the persistence, and a node that
the persistence knows is a node of the definition (`Story.stands_after`), so the instance is
recalled to it and no handler works.  If the definition has no nodes there is nothing to work on
either.

* **`Story.position_survives`** — both halves, for every list of scenes.
* `Recorder.faithful` — the recording persistence is faithful as long as no calls fail.
-/

namespace ActivityFlow

open Diagram Controller

variable {π : Type}

/-- **A persistence that does its work**: it never fails, and answers with the node that it was told
    last.  Which nodes a state keeps is said by a relation; the node of a checkpoint may be kept as
    well or left out. -/
structure Persistence.Faithful (p : Persistence π)
    (keeps : π → (String → Option String) → Prop) : Prop where
  load : ∀ {archive nodes} (id : String), keeps archive nodes →
    (p.load id archive).1 = .ok (nodes id) ∧ keeps (p.load id archive).2 nodes
  update : ∀ {archive nodes} (id : String) (node : Option String), keeps archive nodes →
    (p.update id node archive).1 = .ok () ∧
      keeps (p.update id node archive).2 (Function.update nodes id node)
  create : ∀ {archive nodes} (s : Checkpoint), keeps archive nodes →
    (p.create s archive).1 = .ok () ∧ (keeps (p.create s archive).2 nodes ∨
      keeps (p.create s archive).2 (Function.update nodes s.definition.id s.current))

namespace World

variable {p : Persistence π} {keeps : π → (String → Option String) → Prop} {d : Definition}
  {w w' : World π}

/-- The persistence knows where every instance stands. -/
def Mirrored (keeps : π → (String → Option String) → Prop) (w : World π) : Prop :=
  ∃ nodes, keeps w.archive nodes ∧
    ∀ id, Text.blank id = false → nodes id = w.states.node? (some id)

/-- The persistence knows where every instance stands, but perhaps for one. -/
def MirroredBut (keeps : π → (String → Option String) → Prop) (id : String) (w : World π) : Prop :=
  ∃ nodes, keeps w.archive nodes ∧
    ∀ other, Text.blank other = false → other ≠ id → nodes other = w.states.node? (some other)

lemma Mirrored.but (h : w.Mirrored keeps) (id : String) : w.MirroredBut keeps id := by
  obtain ⟨nodes, hkeeps, hnodes⟩ := h
  exact ⟨nodes, hkeeps, fun other hblank _ => hnodes other hblank⟩

lemma Mirrored.congr (h : w.Mirrored keeps) (harchive : w'.archive = w.archive)
    (hnode : ∀ id, w'.states.node? id = w.states.node? id) : w'.Mirrored keeps := by
  obtain ⟨nodes, hkeeps, hnodes⟩ := h
  exact ⟨nodes, harchive ▸ hkeeps, fun id hblank => (hnodes id hblank).trans (hnode _).symm⟩

lemma MirroredBut.congr {id : String} (h : w.MirroredBut keeps id)
    (harchive : w'.archive = w.archive)
    (hnode : ∀ other, other ≠ id → w'.states.node? (some other) = w.states.node? (some other)) :
    w'.MirroredBut keeps id := by
  obtain ⟨nodes, hkeeps, hnodes⟩ := h
  refine ⟨nodes, harchive ▸ hkeeps, fun other hblank hne => ?_⟩
  rw [hnodes other hblank hne, hnode other hne]

lemma Mirrored.of_unmoved (still : w.Unmoved w') (h : w.Mirrored keeps) : w'.Mirrored keeps :=
  h.congr still.archive still.node

/-- What is told of a move is where the move leads. -/
lemma MirroredBut.move (hp : p.Faithful keeps) (h : w.MirroredBut keeps d.id)
    (node : Option String) : (w.move p d.id node).Mirrored keeps := by
  obtain ⟨nodes, hkeeps, hnodes⟩ := h
  refine ⟨Function.update nodes d.id node, (hp.update d.id node hkeeps).2, fun id hblank => ?_⟩
  rw [node?_move _ _ _ _ _ hblank]
  split
  · rename_i hid
    rw [hid, Function.update_self]
  · rename_i hid
    rw [Function.update_of_ne hid, hnodes id hblank hid]

lemma Mirrored.asking (hp : p.Faithful keeps) (h : w.Mirrored keeps) (id : String) :
    (w.asking p id).Mirrored keeps := by
  obtain ⟨nodes, hkeeps, hnodes⟩ := h
  exact ⟨nodes, (hp.load id hkeeps).2, hnodes⟩

lemma Mirrored.load (hp : p.Faithful keeps) (h : w.Mirrored keeps) {id : String}
    (hblank : Text.blank id = false) :
    (p.load id w.archive).1 = .ok (w.states.node? (some id)) := by
  obtain ⟨nodes, hkeeps, hnodes⟩ := h
  rw [(hp.load id hkeeps).1, hnodes id hblank]

lemma Mirrored.told {c : Controller π} (hp : c.persistence.Faithful keeps) (h : w.Mirrored keeps)
    (d : Definition) : (c.told d w).Mirrored keeps := by
  obtain ⟨nodes, hkeeps, hnodes⟩ := h
  rcases (hp.create ⟨d, w.states.node? (some d.id)⟩ hkeeps).2 with hkeeps' | hkeeps'
  · exact ⟨nodes, hkeeps', hnodes⟩
  · refine ⟨_, hkeeps', fun id hblank => ?_⟩
    by_cases hid : id = d.id
    · rw [hid, Function.update_self]
      rfl
    · rw [Function.update_of_ne hid]
      exact hnodes id hblank

lemma Course.mirrored (course : Course p d w w') (hp : p.Faithful keeps)
    (h : w.Mirrored keeps) : w'.Mirrored keeps :=
  course.keeps Mirrored.of_unmoved (fun _ hw => (hw.but d.id).move hp _) h

lemma Moved.mirrored (moved : Moved p d w w') (hp : p.Faithful keeps)
    (h : w.MirroredBut keeps d.id) : w'.Mirrored keeps := by
  obtain ⟨node, w₁, still, _, course⟩ := moved
  exact course.mirrored hp
    ((h.congr still.archive fun _ _ => still.node _).move hp node)

/-- Nobody is recalled to another node than the one it stands on. -/
lemma Resumed.mirrored (resumed : Resumed p d w w') (hp : p.Faithful keeps)
    (hblank : Text.blank d.id = false) (h : w.Mirrored keeps) : w'.Mirrored keeps := by
  cases resumed with
  | stayed known still => exact h.of_unmoved still
  | recalled unknown known still =>
      -- the persistence would know another node than memory
      rw [h.load hp hblank] at known
      exact absurd (unknown.symm.trans known) (by simp)
  | begun unknown forgotten moved => exact moved.mirrored hp ((h.asking hp d.id).but d.id)

end World

namespace Story

open World

variable {c : Controller π} {keeps : π → (String → Option String) → Prop}

/-- **Every step leaves memory and persistence in agreement.** -/
theorem mirrored_step (hp : c.persistence.Faithful keeps) {s s' : Session (World π)}
    {op : Operation} {answer : Except ControllerError Answer} (h : s.state.Mirrored keeps)
    (step : Step c s op answer s') : s'.state.Mirrored keeps := by
  cases step with
  | refused hrefusal hstray => exact h
  | stray hrefusal hstray => exact h
  | asked accepted hquestion still => exact h.of_unmoved still
  | imported accepted read usable stored resumed still =>
      have hresumed := resumed.mirrored hp usable (h.congr stored.archive stored.node)
      exact (hresumed.told hp _).of_unmoved still
  | started stored resumed => exact resumed.mirrored hp stored.usable h
  | @restarted d answer s' stored moved =>
      refine moved.mirrored hp ((h.but d.id).congr rfl fun other hother => ?_)
      exact node?_forget_of_ne _ hother
  | stumbled stored accepted nowhere hplace resumed => exact resumed.mirrored hp stored.usable h
  | advanced stored accepted resumed course =>
      rcases resumed with rfl | resumed
      · exact course.mirrored hp h
      · exact course.mirrored hp (resumed.mirrored hp stored.usable h)

lemma node?_opening (registry : Registry) (archive : π) (id : Option String) :
    (opening registry archive).session.state.states.node? id = none := by
  cases id with
  | none => rfl
  | some id => simp [opening, Session.start, World.start, World.withExecution, World.states,
      ExecutionState.empty, InstanceStates.node?, InstanceStates.state?]

lemma mirrored_after (hp : c.persistence.Faithful keeps) (registry : Registry) {archive : π}
    (hempty : keeps archive fun _ => none) (scenes : List Scene) :
    (after c registry archive scenes).session.state.Mirrored keeps := by
  refine (after_keeps (I := fun story => story.session.state.Mirrored keeps) ?_
    (fun _ h step => mirrored_step hp h step) (fun h still => h.of_unmoved still) scenes).2
  exact ⟨fun _ => none, hempty, fun id _ => (node?_opening registry archive (some id)).symm⟩

end Story

/-! ## A process that begins anew -/

namespace Controller

variable (c : Controller π) {d : Definition} {w : World π}

lemma run_resume_recalled {node : String}
    (unknown : knownNode d (w.states.node? (some d.id)) = none)
    (known : knownNode d (c.persistence.load d.id w.archive).1.toOption.join = some node) :
    (c.resume d.id d).run w =
      (some node, (w.asking c.persistence d.id).place d.id (some node)) := by
  simp only [resume, Routine.run_bind, Routine.run_get, unknown, run_loadNode, known,
    Routine.run_modify, Routine.run_pure]

/-- Where there is no beginning nothing is executed. -/
lemma enterStart_of_nowhere (hnone : d.declaredStart? = none) : c.enterStart d = (do
    Routine.modify (World.place d.id none)
    c.persistNode d.id none
    return none) := by
  simp [enterStart, performPassedOver, passedOver?, Definition.start?, hnone, nonEmpty?]

lemma run_resume_nowhere (hnone : d.declaredStart? = none)
    (unknown : knownNode d (w.states.node? (some d.id)) = none)
    (forgotten : knownNode d (c.persistence.load d.id w.archive).1.toOption.join = none) :
    (c.resume d.id d).run w =
      (none, (w.asking c.persistence d.id).move c.persistence d.id none) := by
  simp only [resume, Routine.run_bind, Routine.run_get, unknown, run_loadNode, forgotten,
    c.enterStart_of_nowhere hnone, Routine.run_modify, run_persistNode, Routine.run_pure]
  rfl

lemma run_importDiagram {text id name : Option String} {reading : Reading} {supply : IdSupply}
    (hread : Diagram.read text id name w.supply = (.ok reading, supply))
    (husable : Text.blank reading.definition.id = false) :
    (c.importDiagram text id name).run w = (.ok reading.definition, c.told reading.definition
      ((c.resume reading.definition.id reading.definition).run
        ({ w with supply }.storeDefinition reading.definition)).2) := by
  have hstores := { w with supply }.stores_storeDefinition_self husable
  simp only [importDiagram, Routine.run_bind, Routine.run_update, World.readDiagram_of_read hread,
    Routine.run_modify, start, onWorkflow, Routine.run_get, World.require_of_stores hstores,
    map_eq_pure_bind, Routine.run_pure, run_persistDefinition]

/-! ### Nobody is left to work -/

/-- Between two worlds no work was left for others. -/
def LeavesIdle (w w' : World π) : Prop :=
  Employer.Idle w → Employer.Idle w'

lemma leavesIdle_of_queue_eq {w w' : World π} (h : w'.execution.queue = w.execution.queue) :
    LeavesIdle w w' := by
  rw [LeavesIdle, idle_iff, idle_iff, h]
  exact id

lemma leavesIdle_zoom_archive {α : Type} (t : Routine π α) :
    (Routine.zoom World.archive World.withArchive t).Keeps LeavesIdle :=
  (keeps_zoom_archive t).weaken fun h => leavesIdle_of_queue_eq (congrArg ExecutionState.queue h)

lemma leavesIdle_loadNode (id : String) : (c.loadNode id).Keeps LeavesIdle :=
  (leavesIdle_zoom_archive _).bind fun _ => Routine.keeps_pure _

lemma leavesIdle_persistNode (id : String) (node : Option String) :
    (c.persistNode id node).Keeps LeavesIdle :=
  (leavesIdle_zoom_archive _).bind fun _ => Routine.keeps_pure _

lemma leavesIdle_persistDefinition (d : Definition) :
    (c.persistDefinition d).Keeps LeavesIdle :=
  Routine.keeps_get.bind fun _ =>
    Routine.Keeps.bind (leavesIdle_zoom_archive _) fun _ => Routine.keeps_pure _

lemma leavesIdle_modify {f : World π → World π}
    (h : ∀ w, (f w).execution.queue = w.execution.queue) :
    (Routine.modify f).Keeps LeavesIdle :=
  Routine.keeps_modify fun w => leavesIdle_of_queue_eq (h w)

/-- Who is recalled, or has no beginning, leaves no work to others. -/
lemma leavesIdle_resume_of_load {node : Option String} (hd : d.WellFormed) (hholds : d.Holds node)
    (hnew : w.states.node? (some d.id) = none)
    (hload : (c.persistence.load d.id w.archive).1 = .ok node) :
    (c.resume d.id d).Conducts Eq LeavesIdle (fun _ _ => True) w := by
  have unknown : knownNode d (w.states.node? (some d.id)) = none := by rw [hnew]; rfl
  have known : knownNode d (c.persistence.load d.id w.archive).1.toOption.join = node := by
    rw [hload]
    exact d.knownNode_of_holds hd hholds
  refine Routine.conducts_bind_alone Routine.keeps_get.alone ?_
  simp only [Routine.run_get, unknown]
  refine Routine.conducts_bind_alone (c.leavesIdle_loadNode d.id).alone ?_
  simp only [run_loadNode, known]
  cases node with
  | some node =>
      have hplace := leavesIdle_modify (f := World.place (π := π) d.id (some node)) fun _ => rfl
      exact (hplace.bind fun _ => Routine.keeps_pure (some node)).alone
  | none =>
      dsimp only
      rw [c.enterStart_of_nowhere (d.declaredStart?_eq_none hd hholds)]
      have hplace := leavesIdle_modify (f := World.place (π := π) d.id none) fun _ => rfl
      exact (hplace.bind fun _ =>
        (c.leavesIdle_persistNode d.id none).bind fun _ => Routine.keeps_pure none).alone

/-- An import leaves no work to others if the start of its instance leaves none. -/
lemma leavesIdle_importDiagram {text id name : Option String} {reading : Reading} {supply : IdSupply}
    (hread : Diagram.read text id name w.supply = (.ok reading, supply))
    (husable : Text.blank reading.definition.id = false)
    (hresume : (c.resume reading.definition.id reading.definition).Conducts Eq LeavesIdle
      (fun _ _ => True) ({ w with supply }.storeDefinition reading.definition)) :
    (c.importDiagram text id name).Conducts Eq LeavesIdle (fun _ _ => True) w := by
  have hstores := { w with supply }.stores_storeDefinition_self husable
  have hupdate : (Routine.update (World.readDiagram (π := π) text id name)).Keeps LeavesIdle :=
    Routine.keeps_update fun w => leavesIdle_of_queue_eq rfl
  refine Routine.conducts_bind_alone hupdate.alone ?_
  simp only [Routine.run_update, World.readDiagram_of_read hread]
  have hstore := leavesIdle_modify (f := World.storeDefinition (π := π) reading.definition)
    fun _ => rfl
  refine Routine.conducts_bind_alone hstore.alone ?_
  refine Routine.conducts_bind_alone ?_ (Routine.Keeps.alone ?_)
  · rw [Routine.run_modify, start, onWorkflow]
    refine Routine.conducts_bind_alone Routine.keeps_get.alone ?_
    simp only [Routine.run_get, World.require_of_stores hstores, map_eq_pure_bind]
    exact Routine.conducts_bind_alone hresume (Routine.keeps_pure _).alone
  · split
    · exact Routine.keeps_pure _
    · exact (c.leavesIdle_persistDefinition _).bind fun _ => Routine.keeps_pure _

/-- **Who is not in memory is recalled**, to a place or to none, and nothing is executed for it. -/
theorem run_resume_of_load (hd : d.WellFormed) {node : Option String} (hholds : d.Holds node)
    (hblank : Text.blank d.id = false) (hnew : w.states.node? (some d.id) = none)
    (hload : (c.persistence.load d.id w.archive).1 = .ok node) :
    ((c.resume d.id d).run w).2.states.node? (some d.id) = node ∧
      ((c.resume d.id d).run w).2.execution =
        { w.execution with states := ((c.resume d.id d).run w).2.states } := by
  have unknown : knownNode d (w.states.node? (some d.id)) = none := by rw [hnew]; rfl
  have known : knownNode d (c.persistence.load d.id w.archive).1.toOption.join = node := by
    rw [hload]
    exact d.knownNode_of_holds hd hholds
  cases node with
  | some node =>
      rw [c.run_resume_recalled unknown known]
      exact ⟨by rw [World.node?_place _ _ _ _ hblank, if_pos rfl], rfl⟩
  | none =>
      rw [c.run_resume_nowhere (d.declaredStart?_eq_none hd hholds) unknown known]
      exact ⟨by rw [World.node?_move _ _ _ _ _ hblank, if_pos rfl], rfl⟩

end Controller

namespace Story

/-- **A process that begins over a persistence** recalls an instance to the place that the
    persistence knows, and no handler works for that, then or later. -/
theorem recovers (c : Controller π) (registry : Registry) (archive : π) {text id : String}
    (htext : Text.blank text = false) (hid : Text.blank id = false) (name : Option String)
    {usedName : String} {node : Option String}
    (hholds : (readAs text.toList id usedName).definition.Holds node)
    (hload : (c.persistence.load id archive).1 = .ok node) :
    let fresh := opening registry archive
    let recovered := (fresh.next c (.ask (.importDiagram (some text) (some id) name))).session
    recovered.state.states.node? (some id) = node ∧ recovered.state.execution =
        { fresh.session.state.execution with states := recovered.state.states } ∧
      recovered.company.members = [] := by
  intro fresh recovered
  let reading := readAs text.toList id ((nonEmpty? name).getD defaultName)
  let stored := fresh.session.state.storeDefinition reading.definition
  let resumed := ((c.resume reading.definition.id reading.definition).run stored).2
  have hread := Diagram.read_eq_readAs htext hid name fresh.session.state.supply
  have hd : reading.definition.WellFormed := (Draft.sound_ofLines _).wellFormed _ _
  obtain ⟨hnode, hexecution⟩ := c.run_resume_of_load (w := stored) hd hholds hid
    (node?_opening registry archive _) hload
  have hidle : ((Operation.importDiagram (some text) (some id) name).routine c).Conducts Eq
      (fun w w' => Employer.Idle w → Employer.Idle w') (fun _ _ => True) fresh.session.state :=
    Routine.conducts_bind_alone (c.leavesIdle_importDiagram hread hid
      (c.leavesIdle_resume_of_load hd hholds (node?_opening registry archive _) hload))
      (Routine.keeps_pure _).alone
  obtain ⟨company, hcompany, hperform⟩ := Session.perform_alone (s := fresh.session)
    rfl (idle_iff.mpr rfl) hidle
  have hrecovered : recovered = ⟨c.told reading.definition resumed, company⟩ := by
    have hqueue : (c.told reading.definition resumed).execution.queue = [] :=
      congrArg ExecutionState.queue hexecution
    rw [← hire_of_queue_eq_nil hqueue company]
    show (fresh.next c _).session = _
    rw [next_eq hperform, Operation.routine, Routine.run_map, c.run_importDiagram hread hid]
  rw [hrecovered]
  exact ⟨hnode, hexecution, hcompany⟩

/-- **A crash loses no position.**  Over a persistence that does its work, and that kept nothing at
    first, the persisted node of every imported id is the one in memory after any operations.  A
    process that begins anew and imports the text under the id again comes to the same node, and
    no handler works for that. -/
theorem position_survives (c : Controller π) {keeps : π → (String → Option String) → Prop}
    (hp : c.persistence.Faithful keeps) (registry : Registry) {archive : π}
    (hempty : keeps archive fun _ => none) (scenes : List Scene) {id text : String}
    (himported : (after c registry archive scenes).imported id = some text) :
    let w := (after c registry archive scenes).session.state
    (c.persistence.load id w.archive).1 = .ok (w.states.node? (some id)) ∧
      ∀ (engine : Engine) (registry' : Registry) (name : Option String),
        let c' : Controller π := ⟨engine, c.persistence⟩
        let fresh := opening registry' w.archive
        let recovered := fresh.next c' (.ask (.importDiagram (some text) (some id) name))
        recovered.imported id = some text ∧
          recovered.session.state.states.node? (some id) = w.states.node? (some id) ∧
          recovered.session.state.execution = { fresh.session.state.execution with
            states := recovered.session.state.states } ∧
          recovered.session.company.members = [] := by
  intro w
  obtain ⟨htext, d, rfl, stores⟩ := (drawn_after c registry archive scenes).stored id text himported
  obtain ⟨text', name₀, htext', hd⟩ := (drawn_after c registry archive scenes).drawn d stores
  obtain rfl : text' = text := Option.some.inj (htext'.symm.trans himported)
  have hload := (mirrored_after hp registry hempty scenes).load hp stores.usable
  have hholds := stands_after c registry archive scenes d stores
  refine ⟨hload, ?_⟩
  intro engine registry' name c' fresh recovered
  constructor
  · exact imported_next (orderly_opening registry' w.archive) htext stores.usable name
  · rw [hd] at hholds
    exact recovers c' registry' w.archive htext stores.usable name hholds hload

end Story

/-- A recorder of which no calls fail does its work; it leaves the nodes of checkpoints out. -/
theorem Recorder.faithful : Recorder.persistence.Faithful fun r nodes =>
    r.failing = [] ∧ ∀ id, nodes id = (r.current.get? id).join where
  load id h := by
    obtain ⟨hfailing, hnodes⟩ := h
    simp [load_eq, answer, hfailing, hnodes]
  update id node h := by
    obtain ⟨hfailing, hnodes⟩ := h
    refine ⟨by simp [update_eq, answer, hfailing], by simp [update_eq, answer, hfailing], ?_⟩
    intro other
    by_cases hother : other = id
    · simp [update_eq, answer, hfailing, hother]
    · simp [update_eq, answer, hfailing, KeyedMap.get?_put, hother, hnodes]
  create s h := by
    obtain ⟨hfailing, hnodes⟩ := h
    exact ⟨by simp [create_eq, answer, hfailing], .inl ⟨by simp [create_eq, answer, hfailing],
      by simp [create_eq, answer, hfailing, hnodes]⟩⟩

namespace Story

/-- A tour that has moved on when the process ends. -/
theorem position_survives_tour :
    let c : Controller Recorder := ⟨.working ⟨.unlimited, true⟩, Recorder.persistence⟩
    let text := "start\n:Museum;\n:Park;"
    let scenes := [.ask (.importDiagram (some text) (some "tour") none),
      .ask (.advance (some "tour") .null), .wait]
    let story := after c .empty ⟨.empty, [], []⟩ scenes
    let w := story.session.state
    story.imported "tour" = some text ∧
      (c.persistence.load "tour" w.archive).1 = .ok (w.states.node? (some "tour")) ∧
      ∀ (engine : Engine) (registry' : Registry) (name : Option String),
        let c' : Controller Recorder := ⟨engine, c.persistence⟩
        let fresh := opening registry' w.archive
        let recovered := fresh.next c' (.ask (.importDiagram (some text) (some "tour") name))
        recovered.imported "tour" = some text ∧
          recovered.session.state.states.node? (some "tour") = w.states.node? (some "tour") ∧
          recovered.session.state.execution = { fresh.session.state.execution with
            states := recovered.session.state.states } ∧
          recovered.session.company.members = [] := by
  intro c text scenes story w
  have himported : story.imported "tour" = some text :=
    imported_next (orderly_opening .empty _) (by decide) (by decide) none
  have hempty : (fun r nodes => r.failing = [] ∧ ∀ id, nodes id = (r.current.get? id).join)
      (⟨.empty, [], []⟩ : Recorder) fun _ => none := ⟨rfl, fun _ => rfl⟩
  exact ⟨himported, position_survives c Recorder.faithful .empty hempty scenes himported⟩

end Story

end ActivityFlow
