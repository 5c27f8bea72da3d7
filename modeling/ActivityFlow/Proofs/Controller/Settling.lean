import ActivityFlow.Proofs.Controller.Story
import ActivityFlow.Proofs.Routine.Straight

/-!
# Between operations

When an operation has come to its answer, who is still at work?  That depends on the engine.  An
engine that waits for the handlers leaves nobody behind, so there is nobody else between operations
(`Controller.Settled`).  With handlers in the background there is company.

Whether company matters to an operation depends on the persistence as well, since an operation waits
for its calls.  Nobody comes between the steps of an operation (`Controller.Uninterrupted`)

* if handlers are waited for, because there is nobody else, or
* if the calls of the persistence are over in one turn, and so is then every operation that leaves
  its handlers to the background.

Then **performing an operation is running it** (`Controller.Settled.perform_eq`), up to the calls
that it leaves for the background.  What is needed for it of the session, and what is found again
behind the operation, holds in every story (`Story.settled_after`).
-/

namespace ActivityFlow

open Routine

variable {π : Type}

namespace Persistence

/-- The calls of a persistence. -/
inductive Call (p : Persistence π) : {α : Type} → Routine π α → Prop
  | load (id : String) : Call p (p.loading id)
  | update (id : String) (node : Option String) : Call p (p.updating id node)
  | create (s : Checkpoint) : Call p (p.creating s)

/-- A persistence whose calls are over in one turn. -/
def Prompt (p : Persistence π) : Prop :=
  ∀ (α : Type) (t : Routine π α), p.Call t → t.Straight

end Persistence

namespace Controller

/-- Handlers are waited for, if there are any: nothing is left to the background. -/
def Waits (c : Controller π) : Prop :=
  ∀ options, c.engine = .working options → options.background = false

lemma waits_of_engine {c : Controller π} {limit : Limit} (h : c.engine = .working ⟨limit, false⟩) :
    c.Waits := by
  intro options hoptions
  obtain rfl := Engine.working.inj (h.symm.trans hoptions)
  rfl

/-- **Nobody comes between the steps of an operation.** -/
def Uninterrupted (c : Controller π) : Prop :=
  c.Waits ∨ c.persistence.Prompt

/-- **What the operations of a controller are made of**: they ask, they change things, but not who
    is to work and where handlers come from, they call the persistence, and they have the actions of
    nodes executed. -/
inductive Made (c : Controller π) : {α : Type} → Routine (World π) α → Prop
  | pure {α : Type} (value : α) : Made c (pure value)
  | get : Made c Routine.get
  | update {α : Type} {f : World π → α × World π}
      (h : ∀ w, (f w).2.execution = { w.execution with states := (f w).2.execution.states }) :
      Made c (Routine.update f)
  | archive {α : Type} {t : Routine π α} (h : c.persistence.Call t) :
      Made c (zoom World.archive World.withArchive t)
  | perform (d : Definition) (node : Node) : Made c (c.perform d node)
  | bind {α β : Type} {t : Routine (World π) α} {f : α → Routine (World π) β} (ht : Made c t)
      (hf : ∀ value, Made c (f value)) : Made c (t >>= f)

namespace Made

variable (c : Controller π)

lemma modify {f : World π → World π}
    (h : ∀ w, (f w).execution = { w.execution with states := (f w).execution.states }) :
    c.Made (Routine.modify f) :=
  Made.update (f := fun w => ((), f w)) h

variable {c} in
lemma map {α β : Type} {t : Routine (World π) α} (h : c.Made t) (f : α → β) : c.Made (t.map f) :=
  h.bind fun value => .pure (f value)

lemma place (id : String) (node : Option String) : c.Made (Routine.modify (World.place id node)) :=
  modify c fun _ => rfl

lemma loadNode (id : String) : c.Made (c.loadNode id) :=
  (Made.archive (.load id)).bind fun _ => .pure _

lemma persistNode (id : String) (node : Option String) : c.Made (c.persistNode id node) :=
  (Made.archive (.update id node)).bind fun _ => .pure _

lemma persistDefinition (d : Definition) : c.Made (c.persistDefinition d) :=
  Made.get.bind fun _ => Made.bind (Made.archive (.create _)) fun _ => .pure _

lemma performAt (d : Definition) (node : String) : c.Made (c.performAt d node) := by
  unfold Controller.performAt
  split
  · exact .perform d _
  · exact .pure _

lemma moveTo (id node : String) : c.Made (c.moveTo id node) :=
  (place c id _).bind fun _ => persistNode c id _

lemma enterNode (d : Definition) (node : String) : c.Made (c.enterNode d node) := by
  refine (performAt c d node).bind fun completed => ?_
  split
  · split
    · exact (moveTo c _ _).bind fun _ => .pure _
    · exact .pure _
  · exact .pure _

lemma performPassedOver (d : Definition) : c.Made (c.performPassedOver d) := by
  unfold Controller.performPassedOver
  split
  · exact (performAt c d _).map _
  · exact .pure _

lemma enterStart (d : Definition) : c.Made (c.enterStart d) := by
  refine (place c _ _).bind fun _ => (persistNode c _ _).bind fun _ =>
    (performPassedOver c d).bind fun _ => ?_
  split
  · exact (enterNode c d _).bind fun _ => .pure _
  · exact .pure _

lemma resume (id : String) (d : Definition) : c.Made (c.resume id d) := by
  refine Made.get.bind fun w => ?_
  split
  · exact .pure _
  · refine (loadNode c id).bind fun known => ?_
    split
    · exact (place c _ _).bind fun _ => .pure _
    · exact enterStart c d

lemma follow (id : String) (d : Definition) (node : String) (value : Json) :
    c.Made (c.follow id d node value) := by
  unfold Controller.follow
  split
  · exact .pure _
  · exact (moveTo c _ _).bind fun _ => ((enterNode c d _).map _).bind fun _ => .pure _

variable {c} in
lemma onWorkflow {α : Type} {id : Option String}
    {body : String → Definition → Routine (World π) (Except ControllerError α)}
    (hbody : ∀ id d, c.Made (body id d)) : c.Made (onWorkflow id body) := by
  refine Made.get.bind fun w => ?_
  split
  · exact .pure _
  · exact hbody _ _

lemma start (id : Option String) : c.Made (c.start id) :=
  onWorkflow fun id d => (resume c id d).bind fun _ => .pure _

lemma importDiagram (text id name : Option String) : c.Made (c.importDiagram text id name) := by
  refine (Made.update fun _ => rfl).bind fun found => ?_
  split
  · exact .pure _
  · refine (modify c (f := World.storeDefinition _) fun _ => rfl).bind fun _ =>
      (start c _).bind fun started => ?_
    split
    · exact .pure _
    · exact (persistDefinition c _).bind fun _ => .pure _

lemma advance (id : Option String) (value : Json) : c.Made (c.advance id value) := by
  refine onWorkflow fun id d => Made.get.bind fun w => ?_
  split
  · exact follow c id d _ value
  · refine (resume c id d).bind fun node => ?_
    split
    · exact follow c id d _ value
    · exact .pure _

/-- Every operation is made of these steps. -/
theorem routine (op : Operation) : c.Made (op.routine c) := by
  cases op with
  | importDiagram text id name => exact (importDiagram c text id name).map _
  | start id => exact (start c id).map _
  | restart id =>
      exact Made.map (t := c.restart id) (onWorkflow fun id d =>
        (modify c (f := World.forget id) fun _ => rfl).bind fun _ =>
          (enterStart c d).bind fun _ => .pure _) _
  | advance id value => exact (advance c id value).map _
  | promptOf id => exact .update fun _ => rfl
  | nodeOf id => exact .update fun _ => rfl
  | variablesOf id =>
      refine .update fun w => ?_
      unfold World.variablesOf
      split <;> rfl
  | has id => exact .update fun _ => rfl

end Made

/-! ## Calls that do not pause -/

lemma straight_execute (limit : Limit) (q : Request) :
    (execute ⟨limit, true⟩ q).Straight := by
  unfold execute
  split
  · exact straight_pure _
  · refine straight_get.bind fun s => ?_
    split
    · split
      · exact straight_pure _
      · refine (straight_update _).bind fun bag => Straight.bind ?_ fun outcome => straight_pure _
        unfold dispatch
        split
        · exact straight_pure _
        · exact Straight.bind (t := Routine.modify _) (fun _ => rfl) fun _ => straight_pure _
    · exact straight_pure _

/-- Who does not wait for handlers leaves them to the background. -/
lemma exists_background {c : Controller π} (hc : ¬ c.Waits) :
    ∃ limit, c.engine = .working ⟨limit, true⟩ := by
  by_contra hnone
  refine hc fun options hoptions => ?_
  obtain ⟨limit, background⟩ := options
  cases background with
  | false => rfl
  | true => exact absurd ⟨limit, hoptions⟩ hnone

lemma straight_perform {c : Controller π} (hc : ¬ c.Waits) (d : Definition) (node : Node) :
    (c.perform d node).Straight := by
  obtain ⟨limit, hengine⟩ := exists_background hc
  unfold Controller.perform
  rw [hengine]
  refine Straight.bind ?_ fun answer => ?_
  · refine (straight_execute limit _).zoom ?_ ?_ ?_ <;> intros <;> rfl
  · split <;> exact straight_pure _

/-- **Where neither handlers nor the persistence pause, an operation is over in one turn.** -/
lemma straight_of_made {c : Controller π} (hc : ¬ c.Waits) (hprompt : c.persistence.Prompt)
    {α : Type} {t : Routine (World π) α} (h : c.Made t) : t.Straight := by
  induction h with
  | pure value => exact straight_pure value
  | get => exact straight_get
  | update _ => exact straight_update _
  | archive h =>
      have view_put (archive : π) (w : World π) : (w.withArchive archive).archive = archive := rfl
      exact (hprompt _ _ h).zoom view_put (fun _ _ _ => rfl) fun _ => rfl
  | perform d node => exact straight_perform hc d node
  | bind _ _ iht ihf => exact iht.bind ihf

/-! ## Who works behind an operation -/

end Controller

/-- Between two states handlers come from where they came from, and if they are waited for, no work
    was left for later. -/
structure ExecutionState.Anchored (background : Bool) (s s' : ExecutionState) : Prop where
  sources : s'.registry.sources = s.registry.sources
  queue : background = false → s'.queue = s.queue

lemma ExecutionState.Calm.anchored {s s' : ExecutionState} (h : s.Calm s') (background : Bool) :
    s.Anchored background s' :=
  ⟨h.sources, fun _ => h.queue⟩

lemma keeps_execute_anchored (options : Options) (q : Request) :
    (execute options q).Keeps (ExecutionState.Anchored options.background) := by
  unfold execute
  split
  · exact keeps_pure _
  · refine keeps_get.bind fun s => ?_
    split
    · split
      · exact keeps_pure _
      · refine (keeps_update fun s => (s.calm_bagOf _).anchored _).bind fun bag =>
          Keeps.bind ?_ fun outcome => keeps_pure _
        unfold dispatch
        split
        · exact keeps_pure _
        · dsimp only
          split
          · rename_i hbackground
            refine (keeps_modify fun s => ⟨rfl, fun hforeground => ?_⟩).bind fun _ => keeps_pure _
            exact absurd (hbackground.symm.trans hforeground) (by simp)
          · exact (ScheduledCall.keeps_run _).weaken fun h => h.anchored _
    · exact keeps_pure _

namespace World

/-- Between two worlds handlers come from where they came from, and if they are waited for, no work
    was left for later. -/
structure Anchored (c : Controller π) (w w' : World π) : Prop where
  sources : w'.execution.registry.sources = w.execution.registry.sources
  queue : c.Waits → w'.execution.queue = w.execution.queue

variable {c : Controller π} {w w' w'' : World π}

lemma Anchored.refl (w : World π) : w.Anchored c w :=
  ⟨rfl, fun _ => rfl⟩

lemma Anchored.trans (h : w.Anchored c w') (h' : w'.Anchored c w'') : w.Anchored c w'' :=
  ⟨h'.sources.trans h.sources, fun hc => (h'.queue hc).trans (h.queue hc)⟩

lemma anchored_of_execution_eq
    (h : w'.execution = { w.execution with states := w'.execution.states }) : w.Anchored c w' := by
  constructor
  · rw [h]
  · intro _
    rw [h]

/-- Those who are hired keep to it. -/
lemma keeps_hired (c : Controller π) (w : World π) :
    ∀ t ∈ (Employer.hire w).1, t.Keeps (Anchored c) := by
  intro t ht
  obtain ⟨newcomer, hmem, rfl⟩ := List.mem_map.mp ht
  exact (w.execution.keeps_hire newcomer hmem).zoom (fun _ _ => rfl) fun _ _ h =>
    ⟨h.sources, fun _ => h.queue⟩

end World

namespace Controller

open World

/-- No operation changes where handlers come from, and if they are waited for, none leaves work for
    later. -/
lemma keeps_of_made {c : Controller π} {α : Type} {t : Routine (World π) α} (h : c.Made t) :
    t.Keeps (Anchored c) := by
  induction h with
  | pure value => exact keeps_pure value
  | get => exact keeps_get
  | update h => exact keeps_update fun w => anchored_of_execution_eq (h w)
  | archive h =>
      refine (keeps_zoom_archive _).weaken fun {w w'} h => anchored_of_execution_eq ?_
      rw [h]
  | perform d node =>
      unfold Controller.perform
      split
      · exact keeps_pure _
      · rename_i options hengine
        refine Keeps.bind ?_ fun answer => ?_
        · exact (keeps_execute_anchored options _).zoom (fun _ _ => rfl) fun w e h =>
            ⟨h.sources, fun hc => h.queue (hc options hengine)⟩
        · split <;> exact keeps_pure _
  | bind _ _ iht ihf => exact iht.bind ihf

/-! ## In a session -/

/-- **Between operations** nobody is at work but in the background, and there only if handlers are
    not waited for. -/
structure Settled (c : Controller π) (s : Session (World π)) : Prop where
  orderly : Orderly s
  company : ∀ t ∈ s.company.members, t.Keeps (Anchored c)
  alone : c.Waits → s.company.members = []

variable {c : Controller π} {s : Session (World π)}

/-- Whoever is hired behind an operation goes into the background. -/
lemma Settled.hire {w : World π} {company : Company (World π) Unit}
    (horderly : Orderly (Session.hire ⟨w, company⟩))
    (hcompany : ∀ t ∈ company.members, t.Keeps (Anchored c))
    (halone : c.Waits → company.members = [] ∧ w.execution.queue = []) :
    Settled c (Session.hire ⟨w, company⟩) where
  orderly := horderly
  company := Company.keeps_join hcompany (w.keeps_hired c)
  alone := by
    intro hc
    obtain ⟨hnobody, hqueue⟩ := halone hc
    rw [hire_of_queue_eq_nil hqueue]
    exact hnobody

/-- Behind an operation that nobody comes between, the same are at work as before it, but for those
    who are hired then. -/
lemma Settled.perform_company (hs : Settled c s) (hc : c.Uninterrupted) (op : Operation) :
    ∃ company, company.members = s.company.members ∧
      s.perform (op.routine c) = (some ((op.routine c).run s.state).1,
        Session.hire ⟨((op.routine c).run s.state).2, company⟩) := by
  by_cases hwaits : c.Waits
  · have hop : (op.routine c).Conducts Eq (fun w w' => Employer.Idle w → Employer.Idle w')
        (fun _ _ => True) s.state := by
      refine ((keeps_of_made (Made.routine c op)).weaken fun {w w'} h => ?_).alone
      rw [idle_iff, idle_iff, h.queue hwaits]
      exact id
    obtain ⟨company, hnobody, hrun⟩ :=
      Session.perform_alone (hs.alone hwaits) (idle_iff.mpr hs.orderly.queue) hop
    exact ⟨company, hnobody.trans (hs.alone hwaits).symm, hrun⟩
  · have hprompt := hc.resolve_left hwaits
    exact ⟨s.company, rfl,
      Session.perform_of_turn (straight_of_made hwaits hprompt (Made.routine c op) s.state)⟩

/-- **Performing an operation is running it**, and hiring those who are left to work. -/
theorem Settled.perform_eq (hs : Settled c s) (hc : c.Uninterrupted) (op : Operation) :
    ∃ company, s.perform (op.routine c) = (some ((op.routine c).run s.state).1,
        Session.hire ⟨((op.routine c).run s.state).2, company⟩) ∧
      Settled c (Session.hire ⟨((op.routine c).run s.state).2, company⟩) := by
  obtain ⟨answer, s', hperform, horderly, -⟩ := perform_step c hs.orderly op
  obtain ⟨company, hmembers, hrun⟩ := hs.perform_company hc op
  have hanchored := (keeps_of_made (Made.routine c op)).run Anchored.refl Anchored.trans s.state
  rw [hrun, Prod.mk.injEq] at hperform
  refine ⟨company, hrun, .hire (hperform.2 ▸ horderly) (hmembers ▸ hs.company) fun hc => ?_⟩
  exact ⟨hmembers.trans (hs.alone hc), (hanchored.queue hc).trans hs.orderly.queue⟩

/-- **Behind an operation a session is as settled as before**, whoever came between. -/
lemma Settled.behind (hs : Settled c s) (op : Operation) :
    let behind := (s.perform (op.routine c)).2
    Settled c behind ∧
      behind.state.execution.registry.sources = s.state.execution.registry.sources := by
  intro behind
  by_cases hwaits : c.Waits
  · obtain ⟨company, hperform, hsettled⟩ := hs.perform_eq (.inl hwaits) op
    have hanchored := (keeps_of_made (Made.routine c op)).run Anchored.refl Anchored.trans s.state
    rw [show behind = _ from congrArg Prod.snd hperform]
    exact ⟨hsettled, hanchored.sources⟩
  · have hhire (w : World π) : w.Anchored c (Employer.hire w).2 ∧
        ∀ t ∈ (Employer.hire w).1, t.Keeps (Anchored c) :=
      ⟨⟨rfl, fun h => absurd h hwaits⟩, w.keeps_hired c⟩
    have hop : (op.routine c).Ensures (Anchored c) (fun _ w => s.state.Anchored c w) s.state :=
      (keeps_of_made (Made.routine c op)).ensures Anchored.trans (Anchored.refl s.state)
    obtain ⟨answer, w, company, hperform, hanchored, hcompany⟩ :=
      Session.perform_answers Anchored.refl Anchored.trans hhire hop hs.company
    obtain ⟨answer', s', hperform', horderly, -⟩ := perform_step c hs.orderly op
    rw [hperform] at hperform'
    obtain rfl := (Prod.mk.inj hperform').2
    rw [show behind = _ from congrArg Prod.snd hperform]
    exact ⟨.hire horderly hcompany fun h => absurd h hwaits, hanchored.sources⟩

/-- Where there is no background there is nobody to wait for. -/
lemma drain_cases (c : Controller π) (s : Session (World π)) :
    c.drain s = s ∨ ¬ c.Waits ∧ c.drain s = s.finish := by
  unfold Controller.drain
  cases hengine : c.engine with
  | broken => exact .inl rfl
  | working options =>
      unfold Options.drain
      cases hbackground : options.background with
      | false => exact .inl (by simp [hbackground])
      | true =>
          refine .inr ⟨fun hc => ?_, by simp [hbackground]⟩
          exact absurd (hbackground.symm.trans (hc options hengine)) (by simp)

/-- Behind those in the background a session is as settled as before. -/
lemma Settled.drain (hs : Settled c s) :
    Settled c (c.drain s) ∧ s.state.Anchored c (c.drain s).state := by
  have horderly := (drain_quiet c hs.orderly).1
  rcases drain_cases c s with hdrain | ⟨hc, hdrain⟩
  · rw [hdrain]
    exact ⟨hs, .refl _⟩
  · rw [hdrain] at horderly ⊢
    obtain ⟨hanchored, hcompany⟩ :=
      Session.finish_keeps Anchored.refl Anchored.trans hs.company
    exact ⟨⟨horderly, hcompany, fun h => absurd h hc⟩, hanchored⟩

end Controller

/-! ## In a story -/

namespace Story

open Controller World

/-- **Every story is settled between its scenes**, and handlers come from where they came from at
    the beginning. -/
theorem settled_after (c : Controller π) (registry : Registry) (archive : π)
    (scenes : List Scene) :
    Settled c (after c registry archive scenes).session ∧
      (after c registry archive scenes).session.state.execution.registry.sources
        = registry.sources := by
  -- a story grows by its last scene
  induction scenes using List.reverseRecOn with
  | nil =>
      refine ⟨⟨orderly_opening registry archive, ?_, fun _ => rfl⟩, rfl⟩
      intro t ht
      exact absurd ht (by simp [after, opening, Session.start, Company.empty, Company.members])
  | append_singleton scenes scene ih =>
      obtain ⟨hsettled, hsources⟩ := ih
      rw [after, List.foldl_concat, ← after]
      cases scene with
      | ask op =>
          obtain ⟨hsettled', hsources'⟩ := hsettled.behind op
          exact ⟨hsettled', hsources'.trans hsources⟩
      | wait => exact ⟨hsettled.drain.1, hsettled.drain.2.sources.trans hsources⟩

end Story

end ActivityFlow
