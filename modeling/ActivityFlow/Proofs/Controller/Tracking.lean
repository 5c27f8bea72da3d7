import ActivityFlow.Proofs.Controller.Failing

/-!
# Operations without a persistence

A persistence that fails, that knows nothing, or that names a node the stored definition does not
have is as good as none.  So beside a controller there is one that is `alone`, with the same engine
and no persistence.  An operation of the first is run among others, since the calls of its
persistence are waited for; that of the second is run on its own, and comes to the same.

* `Controller.Tracks` — a routine comes to the same as another one that is run alone.  What is the
  same of their worlds is left open, as long as every step keeps it (`Controller.Shares`).
* **`Controller.tracks_routine`** — an operation for which the persistence is of no use tracks that of
  the controller that is alone.
* `Controller.run_routine_apart` — if nobody comes between, all is the same but what the persistence
  keeps.
* `Controller.shares_abreast` — if others come between, the worlds are still side by side
  (`World.Abreast`): who is hired works elsewhere, and an engine with a background completes nothing
  at once.
-/

namespace ActivityFlow

open Diagram Routine

variable {π : Type}

/-! ## Worlds -/

/-- The world without what the persistence keeps. -/
def World.apart (w : World π) : World Unit :=
  { w with archive := () }

lemma World.require_apart (w : World π) (id : Option String) :
    w.apart.require id = w.require id := rfl

lemma World.variablesOf_apart (w : World π) (id : Option String) :
    w.apart.variablesOf id = ((w.variablesOf id).1, (w.variablesOf id).2.apart) := by
  simp only [World.variablesOf, World.require_apart]
  cases w.require id with
  | error e => rfl
  | ok found => rfl

/-- **Two worlds side by side**: the same definitions are stored, the instances stand on the same
    nodes, and the same ids are to come. -/
structure World.Abreast (w : World π) (w' : World Unit) : Prop where
  definitions : w'.definitions = w.definitions
  supply : w'.supply = w.supply
  node : ∀ id, w'.states.node? id = w.states.node? id

/-- Between two worlds nothing happened but to what actions work on, and nobody was moved. -/
structure World.Elsewhere (w w' : World π) : Prop where
  rest : w' = w.withExecution w'.execution
  still : w.execution.Still w'.execution

namespace World

variable {w v : World π} {w' v' : World Unit}

lemma Elsewhere.refl (w : World π) : w.Elsewhere w :=
  ⟨rfl, fun _ => rfl⟩

lemma Elsewhere.trans {w w' w'' : World π} (h : w.Elsewhere w') (h' : w'.Elsewhere w'') :
    w.Elsewhere w'' := by
  refine ⟨?_, fun id => (h'.still id).trans (h.still id)⟩
  rw [h'.rest, h.rest]
  rfl

lemma elsewhere_withExecution {w : World π} {execution : ExecutionState}
    (h : w.execution.Still execution) : w.Elsewhere (w.withExecution execution) :=
  ⟨rfl, h⟩

/-- Those who are hired work elsewhere. -/
lemma elsewhere_hire (w : World π) :
    w.Elsewhere (Employer.hire w).2 ∧ ∀ t ∈ (Employer.hire w).1, t.Keeps Elsewhere := by
  refine ⟨⟨rfl, fun _ => rfl⟩, fun t ht => ?_⟩
  obtain ⟨newcomer, hmem, rfl⟩ := List.mem_map.mp ht
  exact (w.execution.keeps_hire newcomer hmem).zoom (fun _ _ => rfl) fun _ _ hcalm =>
    elsewhere_withExecution hcalm.still

namespace Abreast

/-- What happens elsewhere leaves two worlds side by side. -/
lemma elsewhere (h : w.Abreast w') (hw : w.Elsewhere v) (hw' : w'.Elsewhere v') :
    v.Abreast v' where
  definitions := by
    rw [hw.rest, hw'.rest]
    exact h.definitions
  supply := by
    rw [hw.rest, hw'.rest]
    exact h.supply
  node id := (hw'.still id).trans ((h.node id).trans (hw.still id).symm)

lemma withArchive (h : w.Abreast w') (archive : π) : (w.withArchive archive).Abreast w' :=
  ⟨h.definitions, h.supply, h.node⟩

lemma require (h : w.Abreast w') (id : Option String) : w'.require id = w.require id := by
  rw [World.require, World.require, h.definitions]

lemma prompt (h : w.Abreast w') (id : Option String) : w'.prompt id = w.prompt id := by
  simp only [World.prompt, h.require, h.node]

lemma nodeOf (h : w.Abreast w') (id : Option String) : w'.nodeOf id = w.nodeOf id := by
  simp only [World.nodeOf, h.require, h.node]

lemma place (h : w.Abreast w') (id : String) (node : Option String) :
    (w.place id node).Abreast (w'.place id node) :=
  ⟨h.definitions, h.supply, InstanceStates.node?_place_congr h.node id node⟩

lemma forget (h : w.Abreast w') (id : String) : (w.forget id).Abreast (w'.forget id) :=
  ⟨h.definitions, h.supply, InstanceStates.node?_clear_congr h.node id⟩

lemma storeDefinition (h : w.Abreast w') (d : Definition) :
    (w.storeDefinition d).Abreast (w'.storeDefinition d) :=
  ⟨congrArg (DefinitionStore.store · d) h.definitions, h.supply, h.node⟩

lemma readDiagram (h : w.Abreast w') (text id name : Option String) :
    (w'.readDiagram text id name).1 = (w.readDiagram text id name).1 ∧
      (w.readDiagram text id name).2.Abreast (w'.readDiagram text id name).2 := by
  simp only [World.readDiagram, h.supply, true_and]
  exact ⟨h.definitions, rfl, h.node⟩

end Abreast

end World

/-- An answer, but for the variables in it. -/
def Answer.veiled : Answer → Answer
  | .bag _ => .bag .empty
  | answer => answer

namespace Controller

/-- The controller without its persistence. -/
def alone (c : Controller π) : Controller Unit :=
  ⟨c.engine, Persistence.none⟩

/-! ## What is the same of two worlds -/

/-- **What is the same of two worlds**, one of a controller and one of the controller that is alone,
    is the same behind every step. -/
structure Shares (c : Controller π) (rely : World π → World π → Prop)
    (same : World π → World Unit → Prop) : Prop where
  abreast : ∀ {w w'}, same w w' → w.Abreast w'
  place : ∀ {w w'}, same w w' → ∀ id node, same (w.place id node) (w'.place id node)
  forget : ∀ {w w'}, same w w' → ∀ id, same (w.forget id) (w'.forget id)
  store : ∀ {w w'}, same w w' → ∀ d, same (w.storeDefinition d) (w'.storeDefinition d)
  read : ∀ {w w'}, same w w' → ∀ text id name,
    same (w.readDiagram text id name).2 (w'.readDiagram text id name).2
  /-- A call of the persistence leaves the same what is the same. -/
  call : ∀ {w w'}, same w w' → ∀ {α : Type} (t : Routine π α),
    (zoom World.archive World.withArchive t).Ensures rely
      (fun answer v => answer = (t.run w.archive).1 ∧ same v w') w
  perform : ∀ {w w'}, same w w' → ∀ d node, (c.perform d node).Ensures rely (fun completed v =>
    completed = ((c.alone.perform d node).run w').1 ∧
      same v ((c.alone.perform d node).run w').2) w

/-- **A routine tracks another one that is run alone**: it comes to the same answer, and leaves the
    same what is the same of their worlds. -/
def Tracks (rely : World π → World π → Prop) (same : World π → World Unit → Prop) {α : Type}
    (t : Routine (World π) α) (t' : Routine (World Unit) α) (w : World π) (w' : World Unit) : Prop :=
  t.Ensures rely (fun answer v => answer = (t'.run w').1 ∧ same v (t'.run w').2) w

section

variable {c : Controller π} {rely : World π → World π → Prop} {same : World π → World Unit → Prop}
  {α β : Type} {t : Routine (World π) α} {t' : Routine (World Unit) α} {w : World π} {w' : World Unit}

lemma tracks_pure (h : same w w') (value : α) :
    Tracks rely same (pure value) (pure value) w w' :=
  ⟨rfl, h⟩

lemma Tracks.bind {f : α → Routine (World π) β} {f' : α → Routine (World Unit) β}
    (h : Tracks rely same t t' w w')
    (hf : ∀ {v}, same v (t'.run w').2 →
      Tracks rely same (f (t'.run w').1) (f' (t'.run w').1) v (t'.run w').2) :
    Tracks rely same (t >>= f) (t' >>= f') w w' := by
  refine Ensures.bind h fun answer v hends => ?_
  rw [hends.1, run_bind]
  exact hf hends.2

lemma Tracks.map (h : Tracks rely same t t' w w') (f : α → β) :
    Tracks rely same (t.map f) (t'.map f) w w' :=
  h.bind fun hsame => tracks_pure hsame _

/-! ### Telling the persistence -/

variable (hc : Shares c rely same) (h : same w w')
include hc h

lemma tracks_performAt (d : Definition) (node : String) :
    Tracks rely same (c.performAt d node) (c.alone.performAt d node) w w' := by
  unfold performAt
  split
  · exact hc.perform h d _
  · exact tracks_pure h false

lemma tracks_place (id : String) (node : Option String) :
    Tracks rely same (modify (World.place id node)) (modify (World.place id node)) w w' := by
  rw [Tracks, ensures_modify]
  exact ⟨rfl, hc.place h id node⟩

lemma tracks_persistNode (id : String) (node : Option String) :
    Tracks rely same (c.persistNode id node) (c.alone.persistNode id node) w w' := by
  rw [Tracks, run_persistNode]
  exact (hc.call h _).bind fun _ _ hends => ⟨rfl, hends.2⟩

lemma tracks_persistDefinition (d : Definition) :
    Tracks rely same (c.persistDefinition d) (c.alone.persistDefinition d) w w' := by
  rw [Tracks, run_persistDefinition, persistDefinition, ensures_bind, ensures_get]
  exact (hc.call h _).bind fun _ _ hends => ⟨rfl, hends.2⟩

lemma tracks_moveTo (id node : String) :
    Tracks rely same (c.moveTo id node) (c.alone.moveTo id node) w w' :=
  (tracks_place hc h id _).bind fun h => tracks_persistNode hc h id _

lemma tracks_enterNode (d : Definition) (node : String) :
    Tracks rely same (c.enterNode d node) (c.alone.enterNode d node) w w' := by
  refine (tracks_performAt hc h d node).bind fun h => ?_
  split
  · split
    · exact (tracks_moveTo hc h _ _).bind fun h => tracks_pure h _
    · exact tracks_pure h node
  · exact tracks_pure h node

lemma tracks_performPassedOver (d : Definition) :
    Tracks rely same (c.performPassedOver d) (c.alone.performPassedOver d) w w' := by
  unfold performPassedOver
  split
  · exact (tracks_performAt hc h d _).map _
  · exact tracks_pure h ()

lemma tracks_enterStart (d : Definition) :
    Tracks rely same (c.enterStart d) (c.alone.enterStart d) w w' := by
  refine (tracks_place hc h d.id _).bind fun h => (tracks_persistNode hc h d.id _).bind fun h =>
    (tracks_performPassedOver hc h d).bind fun h => ?_
  split
  · exact (tracks_enterNode hc h d _).bind fun h => tracks_pure h _
  · exact tracks_pure h d.start?

lemma tracks_follow (id : String) (d : Definition) (node : String) (value : Json) :
    Tracks rely same (c.follow id d node value) (c.alone.follow id d node value) w w' := by
  unfold follow
  split
  · exact tracks_pure h _
  · exact (tracks_moveTo hc h id _).bind fun h => ((tracks_enterNode hc h d _).map _).bind fun h =>
      tracks_pure h _

/-! ### Asking the persistence -/

lemma tracks_resume {id : String} {d : Definition}
    (hnoUse : knownNode d (w.states.node? (some id)) = none →
      c.persistence.NoUse w (some (id, d))) :
    Tracks rely same (c.resume id d) (c.alone.resume id d) w w' := by
  rw [Tracks, resume, resume, run_bind, run_get, ensures_bind, ensures_get,
    (hc.abreast h).node (some id)]
  cases hknown : knownNode d (w.states.node? (some id)) with
  | some node => exact tracks_pure h _
  | none =>
      -- the two may be answered differently here, but both answers are passed over
      have hforgotten := knownNode_of_noUse (hnoUse hknown id d rfl)
      have hnobody : knownNode d (c.alone.persistence.load id ()).1.toOption.join = none := rfl
      dsimp only
      rw [run_bind, run_loadNode]
      dsimp only
      rw [hnobody]
      have hload : (c.loadNode id).Ensures rely
          (fun node v => knownNode d node = none ∧ same v w') w :=
        (hc.call h _).bind fun answer v hends => ⟨by rw [hends.1]; exact hforgotten, hends.2⟩
      refine hload.bind fun node v hends => ?_
      rw [hends.1]
      exact tracks_enterStart hc hends.2 d

/-! ### Operations -/

omit hc in
lemma tracks_onWorkflow (habreast : w.Abreast w') {id : Option String}
    {body : String → Definition → Routine (World π) (Except ControllerError α)}
    {body' : String → Definition → Routine (World Unit) (Except ControllerError α)}
    (hbody : ∀ usable d, w.require id = .ok (usable, d) →
      Tracks rely same (body usable d) (body' usable d) w w') :
    Tracks rely same (onWorkflow id body) (onWorkflow id body') w w' := by
  rw [Tracks, onWorkflow, onWorkflow, run_bind, run_get, ensures_bind, ensures_get,
    habreast.require]
  cases hrequire : w.require id with
  | error e => exact tracks_pure h _
  | ok found => exact hbody _ _ hrequire

lemma tracks_start {id : Option String} (hnoUse : c.persistence.NoUse w (w.unplaced? id)) :
    Tracks rely same (c.start id) (c.alone.start id) w w' :=
  tracks_onWorkflow h (hc.abreast h) fun _ _ hrequire => (tracks_resume hc h fun hunknown =>
    unplaced?_of_require hrequire hunknown ▸ hnoUse).bind fun h => tracks_pure h _

lemma tracks_restart (id : Option String) :
    Tracks rely same (c.restart id) (c.alone.restart id) w w' := by
  refine tracks_onWorkflow h (hc.abreast h) fun usable d _ => ?_
  have hforgotten : Tracks rely same (modify (World.forget usable)) (modify (World.forget usable))
      w w' := by
    rw [Tracks, ensures_modify]
    exact ⟨rfl, hc.forget h usable⟩
  exact hforgotten.bind fun h => (tracks_enterStart hc h d).bind fun h => tracks_pure h _

lemma tracks_importDiagram {text id name : Option String}
    (hnoUse : c.persistence.NoUse w ((Operation.importDiagram text id name).recalls? w)) :
    Tracks rely same (c.importDiagram text id name) (c.alone.importDiagram text id name) w w' := by
  have hread := hc.read h text id name
  rw [Tracks, importDiagram, importDiagram, run_bind, run_update, ensures_bind, ensures_update,
    ((hc.abreast h).readDiagram text id name).1]
  cases hanswer : (w.readDiagram text id name).1 with
  | error e => exact tracks_pure hread _
  | ok d =>
      have hrecalls : (Operation.importDiagram text id name).recalls? w
          = ((w.readDiagram text id name).2.storeDefinition d).unplaced? (some d.id) := by
        simp [Operation.recalls?, hanswer, Except.toOption]
      rw [hrecalls] at hnoUse
      -- reading and storing leave alone what the persistence keeps
      have hstored := hc.store hread d
      dsimp only
      rw [run_bind, run_modify, ensures_bind, ensures_modify]
      refine (tracks_start hc hstored hnoUse).bind fun h => ?_
      split
      · exact tracks_pure h _
      · exact (tracks_persistDefinition hc h d).bind fun h => tracks_pure h _

lemma tracks_advance {id : Option String} {value : Json}
    (hnoUse : c.persistence.NoUse w ((Operation.advance id value).recalls? w)) :
    Tracks rely same (c.advance id value) (c.alone.advance id value) w w' := by
  refine tracks_onWorkflow h (hc.abreast h) fun usable d hrequire => ?_
  rw [Tracks, run_bind, run_get, ensures_bind, ensures_get, (hc.abreast h).node (some usable)]
  cases hnode : nonEmpty? (w.states.node? (some usable)) with
  | some node => exact tracks_follow hc h usable d node value
  | none =>
      refine Tracks.bind (tracks_resume hc h fun hunknown => ?_) fun h => ?_
      · simpa [Operation.recalls?, unplaced?_of_require hrequire hunknown, hnode, Option.filter]
          using hnoUse
      · split
        · exact tracks_follow hc h usable d _ value
        · exact tracks_pure h _

/-- **An operation for which the persistence is of no use** tracks the operation of the controller
    that is alone, unless it is asked for variables. -/
theorem tracks_routine {op : Operation} (hop : ∀ id, op ≠ .variablesOf id)
    (hnoUse : c.persistence.NoUse w (op.recalls? w)) :
    Tracks rely same (op.routine c) (op.routine c.alone) w w' := by
  have habreast := hc.abreast h
  cases op with
  | importDiagram text id name => exact (tracks_importDiagram hc h hnoUse).map _
  | start id => exact (tracks_start hc h hnoUse).map _
  | restart id => exact (tracks_restart hc h id).map _
  | advance id value => exact (tracks_advance hc h hnoUse).map _
  | promptOf id =>
      rw [Tracks, Operation.routine, Operation.routine, ensures_update, run_update, habreast.prompt]
      exact ⟨rfl, h⟩
  | nodeOf id =>
      rw [Tracks, Operation.routine, Operation.routine, ensures_update, run_update, habreast.nodeOf]
      exact ⟨rfl, h⟩
  | variablesOf id => exact absurd rfl (hop id)
  | has id =>
      rw [Tracks, Operation.routine, Operation.routine, ensures_update, run_update,
        habreast.definitions]
      exact ⟨rfl, h⟩

end

/-! ## Nobody comes between -/

variable (c : Controller π)

/-- Actions work on what is not forgotten. -/
lemma run_onExecution_apart {α : Type} (t : Routine ExecutionState α) (w : World π) :
    (zoom World.execution World.withExecution t).run w.apart =
      (((zoom World.execution World.withExecution t).run w).1,
        ((zoom World.execution World.withExecution t).run w).2.apart) := by
  have hrun {ρ : Type} (w : World ρ) : (zoom World.execution World.withExecution t).run w =
      ((t.run w.execution).1, w.withExecution (t.run w.execution).2) := by
    apply run_zoom
    all_goals intros; rfl
  rw [hrun, hrun]
  rfl

lemma run_perform_apart (d : Definition) (node : Node) (w : World π) :
    (c.alone.perform d node).run w.apart =
      (((c.perform d node).run w).1, ((c.perform d node).run w).2.apart) := by
  unfold perform alone
  cases c.engine with
  | broken => rfl
  | working options =>
      dsimp only
      rw [run_bind, run_bind, run_onExecution_apart]
      generalize (zoom World.execution World.withExecution _).run w = answered
      rcases answered with ⟨_ | outcome, v⟩
      · rfl
      · rfl

/-- Run without others, all is the same but what the persistence keeps. -/
lemma shares_apart : Shares c Eq fun w w' => w' = w.apart where
  abreast := by
    rintro w _ rfl
    exact ⟨rfl, rfl, fun _ => rfl⟩
  place := by rintro w _ rfl id node; rfl
  forget := by rintro w _ rfl id; rfl
  store := by rintro w _ rfl d; rfl
  read := by rintro w _ rfl text id name; rfl
  call := by
    rintro w _ rfl α t
    rw [ensures_alone, run_zoom_archive]
    exact ⟨rfl, rfl⟩
  perform := by
    rintro w _ rfl d node
    rw [ensures_alone, c.run_perform_apart]
    exact ⟨rfl, rfl⟩

/-- **An operation for which the persistence is of no use runs the same without it.** -/
theorem run_routine_apart {w : World π} {op : Operation}
    (hnoUse : c.persistence.NoUse w (op.recalls? w)) : (op.routine c.alone).run w.apart =
      (((op.routine c).run w).1, ((op.routine c).run w).2.apart) := by
  by_cases hop : ∃ id, op = .variablesOf id
  · obtain ⟨id, rfl⟩ := hop
    rw [Operation.routine, Operation.routine, run_update, run_update, World.variablesOf_apart]
  · obtain ⟨hanswer, hworld⟩ := ensures_alone.mp
      (tracks_routine c.shares_apart rfl (fun id h => hop ⟨id, h⟩) hnoUse)
    rw [hanswer, ← hworld]

/-! ## Others come between -/

/-- In the background nothing is completed at once. -/
lemma status_execute_background {limit : Limit} {q : Request} {s : ExecutionState}
    {outcome : Outcome} (h : ((execute ⟨limit, true⟩ q).run s).1 = .ok outcome) :
    outcome.status ≠ .completed := by
  unfold execute at h
  split at h
  · obtain rfl := Except.ok.inj h
    exact Status.noConfusion
  · rw [run_bind, run_get] at h
    dsimp only at h
    split at h
    · split at h
      · exact absurd h (by simp)
      · rw [run_bind, run_update, run_bind] at h
        unfold dispatch at h
        split at h
        · exact absurd h (by simp [Except.mapError])
        · obtain rfl := Except.ok.inj h
          exact Status.noConfusion
    · obtain rfl := Except.ok.inj h
      exact Status.noConfusion

/-- The action of a node is left to the background. -/
lemma run_perform_background {c : Controller π} {limit : Limit}
    (hengine : c.engine = .working ⟨limit, true⟩) (d : Definition) (node : Node) (w : World π) :
    ((c.perform d node).run w).1 = false ∧ w.Elsewhere ((c.perform d node).run w).2 := by
  have hkeeps : (c.perform d node).Keeps World.Elsewhere := by
    unfold perform
    split
    · exact keeps_pure _
    · refine Keeps.bind ((keeps_execute _ _).zoom (fun _ _ => rfl) fun _ _ =>
        World.elsewhere_withExecution) fun answer => ?_
      split
      · exact keeps_pure _
      · exact keeps_pure _
  refine ⟨?_, hkeeps.run World.Elsewhere.refl World.Elsewhere.trans w⟩
  have hrun (t : Routine ExecutionState (Except ExecutionError Outcome)) :
      ((zoom World.execution World.withExecution t).run w).1 = (t.run w.execution).1 := by
    rw [run_zoom]
    all_goals intros; rfl
  unfold perform
  rw [hengine]
  dsimp only
  rw [run_bind, hrun]
  split
  · rename_i outcome hanswer
    simpa using status_execute_background hanswer
  · rfl

lemma shares_abreast {c : Controller π} (hwaits : ¬ c.Waits) :
    Shares c World.Elsewhere World.Abreast where
  abreast h := h
  place h := h.place
  forget h := h.forget
  store h := h.storeDefinition
  read h text id name := (h.readDiagram text id name).2
  call := by
    intro w w' h α t
    have view_put (archive : π) (w : World π) : (w.withArchive archive).archive = archive := rfl
    have hput {a b : World π} (archive : π) (h : a.Elsewhere b) :
        (a.withArchive archive).Elsewhere (b.withArchive archive) := by
      refine ⟨?_, h.still⟩
      rw [h.rest]
      rfl
    have hcall := ensures_zoom view_put (fun _ _ _ => rfl) (fun _ => rfl) World.Elsewhere.refl
      World.Elsewhere.trans (fun {a b} h => by rw [h.rest]; rfl) hput t w
    exact hcall.mono fun answer v hends =>
      ⟨hends.1, (h.withArchive _).elsewhere hends.2 (.refl w')⟩
  perform := by
    intro w w' h d node
    obtain ⟨limit, hengine⟩ := exists_background hwaits
    refine (straight_perform hwaits d node).ensures ?_
    obtain ⟨hleft, hwhere⟩ := run_perform_background hengine d node w
    obtain ⟨hleft', hwhere'⟩ := run_perform_background (c := c.alone) hengine d node w'
    exact ⟨hleft.trans hleft'.symm, h.elsewhere hwhere hwhere'⟩

end Controller

end ActivityFlow
