import ActivityFlow.Proofs.Action.Retaining
import ActivityFlow.Proofs.Controller.Advancing

/-!
# How an instance begins

An instance begins at the computed beginning of its definition.  If the declared beginning was
passed over, the action of that node is tried first; then the action of the beginning itself is
tried, and if it completed and one way leads on, the instance goes there.

Of all this the part that actions work on is a routine of its own, which names the attempts that
were made (`Engine.beginning`).  It is the same whatever the instance did before.

* `Engine.attempt` — an attempt at the action of a node, with the call that it makes, if any.
* `Beginning` — what happened: the two attempts, from which follow the places that the instance came
  to and the calls that were made.
* **`Controller.run_enterStart`** — beginning is `Engine.beginning`, and telling the persistence of
  the places.
* `Engine.begun_beginning` — the instance stands where the attempts led it, and no variable was
  removed unless a handler removed it.
* `Engine.serves_beginning` — for its instance a beginning is the same wherever the instance sees
  the same.
-/

namespace ActivityFlow

open Diagram Division ExecutionState Routine

variable {π : Type}

/-! ## Attempts at the action of a node -/

/-- An attempt to execute the action of a node: the call that was made, if one was, and whether the
    action completed. -/
structure Attempt where
  call? : Option ScheduledCall
  completed : Bool

namespace Engine

/-- The call that an engine makes for a node, if it makes one.  There is none either if a value
    cannot be shown to which a parameter refers. -/
def call? (engine : Engine) (d : Definition) (node? : Option String) (s : ExecutionState) :
    Except Json.TextError (Option ScheduledCall) :=
  match engine, node?.bind d.node? with
  | working options, some node => (Controller.request d node).call? options.limit d.id s
  | _, _ => .ok none

/-- Whether an engine leaves its calls for the background. -/
def background : Engine → Bool
  | broken => false
  | working options => options.background

/-- Try the action of a node, if there is a node.  A call that is made is waited for, or left for
    the background.  A value that cannot be shown is noticed when the instance has come into
    being. -/
def attempt (engine : Engine) (d : Definition) (node? : Option String) :
    Routine ExecutionState Attempt := do
  match engine.call? d node? (← Routine.get) with
  | .error _ =>
    let _ ← Routine.update (ExecutionState.bagOf d.id)
    return ⟨none, false⟩
  | .ok none => return ⟨none, false⟩
  | .ok (some call) =>
    let _ ← Routine.update (ExecutionState.bagOf d.id)
    if engine.background then
      Routine.modify fun s => { s with queue := s.queue ++ [call] }
      return ⟨some call, false⟩
    else return ⟨some call, statusIn? (← call.run) = some .completed⟩

/-- An attempt in one step. -/
lemma run_attempt (engine : Engine) (d : Definition) (node? : Option String) (s : ExecutionState) :
    (engine.attempt d node?).run s =
      match engine.call? d node? s with
      | .error _ => (⟨none, false⟩, (s.bagOf d.id).2)
      | .ok none => (⟨none, false⟩, s)
      | .ok (some call) =>
        let found := (s.bagOf d.id).2
        if engine.background then
          (⟨some call, false⟩, { found with queue := found.queue ++ [call] })
        else (⟨some call, statusIn? (call.run.run found).1 = some .completed⟩,
          (call.run.run found).2) := by
  rw [attempt, run_bind, run_get]
  cases engine.call? d node? s with
  | error e => rfl
  | ok call? =>
      cases call? with
      | none => rfl
      | some call =>
          dsimp only
          rw [run_bind, run_update]
          split
          · rw [run_bind, run_modify, run_pure]
          · rw [run_bind, run_pure]

variable {engine : Engine} {d : Definition} {node? : Option String} {s s' : ExecutionState}

/-- A call is made for the instance of the definition. -/
lemma workflow_of_call? {call : ScheduledCall} (h : engine.call? d node? s = .ok (some call)) :
    call.call.workflow = d.id := by
  unfold call? at h
  split at h
  · exact (Request.of_call? h).1
  · exact absurd h (by simp)

/-- **An attempt changes variables of its own instance**, and does nothing else to any.  It removes
    none if the handlers retain them. -/
lemma wrote_attempt (hblank : Text.blank d.id = false) (engine : Engine) (node? : Option String)
    (s : ExecutionState) : ∃ changes, Wrote d.id changes s ((engine.attempt d node?).run s).2 ∧
      (s.registry.Retains → ∀ change ∈ changes, change.IsWrite) := by
  rw [run_attempt]
  have hfound := wrote_bagOf d.id s
  have hnothing : ∀ change ∈ ([] : List BagChange), change.IsWrite :=
    fun _ h => absurd h List.not_mem_nil
  cases hcall : engine.call? d node? s with
  | error e => exact ⟨[], hfound, fun _ => hnothing⟩
  | ok call? =>
      cases call? with
      | none => exact ⟨[], wrote_nil rfl, fun _ => hnothing⟩
      | some call =>
          dsimp only
          split
          · exact ⟨_, hfound.append (wrote_nil rfl), fun _ => hnothing⟩
          · have hgoes := call.goes_run (s.bagOf d.id).2
            rw [workflow_of_call? hcall] at hgoes
            obtain ⟨changes, hwrote, hwrites⟩ := hgoes.retains hblank
            refine ⟨_, hfound.append hwrote, fun hretains => hwrites fun b hwork => ?_⟩
            exact hretains.work (s := (s.bagOf d.id).2) hwork

/-- An attempt leaves it as it was where handlers come from.  In the background the calls that are
    made wait behind those that wait already. -/
lemma sources_queue_attempt (engine : Engine) (d : Definition) (node? : Option String)
    (s : ExecutionState) :
    ((engine.attempt d node?).run s).2.registry.sources = s.registry.sources ∧
      ((engine.attempt d node?).run s).2.queue = s.queue ++
        if engine.background then ((engine.attempt d node?).run s).1.call?.toList else [] := by
  rw [run_attempt]
  cases engine.call? d node? s with
  | error e => exact ⟨rfl, by simp [bagOf]⟩
  | ok call? =>
      cases call? with
      | none => exact ⟨rfl, by simp⟩
      | some call =>
          cases engine.background with
          | true => exact ⟨rfl, rfl⟩
          | false =>
              have hcalm := call.keeps_run.run Calm.refl Calm.trans (s.bagOf d.id).2
              exact ⟨hcalm.sources, hcalm.queue.trans (List.append_nil _).symm⟩

/-! ### For its own instance -/

end Engine

/-! ## How an instance begins -/

/-- Where an instance goes on from a node, behind an attempt at the action of the node: the only way
    behind it, if the action completed. -/
def Attempt.onward? (tried : Attempt) (d : Definition) (node : String) : Option String :=
  if tried.completed then (Choice.only (d.outgoing node)).map (·.target) else none

/-- What happened when an instance began: the attempt at the action of a declared beginning that was
    passed over, and the attempt at that of the beginning itself. -/
structure Beginning where
  passed : Attempt
  entered : Attempt

namespace Beginning

variable (b : Beginning) (d : Definition)

/-- The node behind the beginning, if the instance went on to it. -/
def onward? : Option String :=
  (nonEmpty? d.start?).bind (b.entered.onward? d)

/-- Where the instance stands that began. -/
def stand : Option String :=
  (b.onward? d).or d.start?

/-- The places that the instance came to, one after the other. -/
def places : List (Option String) :=
  d.start? :: (b.onward? d).toList.map some

/-- The calls that were made, in order. -/
def calls : List ScheduledCall :=
  b.passed.call?.toList ++ b.entered.call?.toList

end Beginning

/-- Place an instance on the next node, if there is one. -/
def ExecutionState.placeNext (id : String) (next? : Option String) (s : ExecutionState) :
    ExecutionState :=
  match next? with
  | none => s
  | some next => s.place id (some next)

/-- **Begin at the beginning**: of a world, the part that actions work on. -/
def Engine.beginning (engine : Engine) (d : Definition) : Routine ExecutionState Beginning := do
  Routine.modify (ExecutionState.place d.id d.start?)
  let passed ← engine.attempt d (Controller.passedOver? d)
  let entered ← engine.attempt d (nonEmpty? d.start?)
  Routine.modify (ExecutionState.placeNext d.id (Beginning.onward? ⟨passed, entered⟩ d))
  return ⟨passed, entered⟩

lemma Engine.run_beginning (engine : Engine) (d : Definition) (s : ExecutionState) :
    (engine.beginning d).run s =
      let passed := (engine.attempt d (Controller.passedOver? d)).run (s.place d.id d.start?)
      let entered := (engine.attempt d (nonEmpty? d.start?)).run passed.2
      let b : Beginning := ⟨passed.1, entered.1⟩
      (b, entered.2.placeNext d.id (b.onward? d)) := by
  simp only [beginning, run_bind, run_modify, run_pure]

/-- What is kept when a persistence was told of several places, one after the other. -/
def Persistence.tellAll (p : Persistence π) (id : String) (places : List (Option String))
    (archive : π) : π :=
  places.foldl (fun archive place => (p.update id place archive).2) archive

namespace Controller

variable (c : Controller π) {d : Definition}

end Controller

/-! ## What comes of a beginning -/

namespace ExecutionState

variable {id : String} {s s' : ExecutionState}

lemma node?_place (hblank : Text.blank id = false) (node : Option String) :
    (s.place id node).states.node? (some id) = node :=
  (s.states.node?_place id id node hblank).trans (if_pos rfl)

lemma get?_place_of_ne {other : String} (hother : other ≠ id) (node : Option String) :
    (s.place id node).states.get? other = s.states.get? other :=
  (KeyedMap.get?_put ..).trans (if_neg hother)

lemma serves_place (id : String) (node : Option String) :
    division.Serves id fun s => ((), s.place id node) := by
  intro s s' hs h
  simp only [place, InstanceStates.place, stateOf_of_agree h]
  exact same_put hs _ _

end ExecutionState

/-- **What comes of a beginning**: the instance stands where the attempts led it, variables of it
    were changed, but none was removed if the handlers retain them, and other instances are as they
    were.  In the background its calls wait. -/
structure Engine.Begun (engine : Engine) (d : Definition) (s : ExecutionState) (b : Beginning)
    (s' : ExecutionState) : Prop where
  stands : s'.states.node? (some d.id) = b.stand d
  wrote : ∃ changes, s'.bag d.id = (s.bag d.id).changed changes ∧
    (s.registry.Retains → ∀ change ∈ changes, change.IsWrite)
  others : ∀ other, other ≠ d.id → s'.states.get? other = s.states.get? other
  waiting : s'.queue = s.queue ++ if engine.background then b.calls else []

/-- Where handlers retain the variables none is removed from any instance, and none changes its
    place. -/
lemma Engine.Begun.prefix_keys {engine : Engine} {d : Definition} {s s' : ExecutionState}
    {b : Beginning} (h : engine.Begun d s b s') (hretains : s.registry.Retains) (id : String) :
    (s.bag id).keys <+: (s'.bag id).keys := by
  by_cases hid : id = d.id
  · obtain ⟨changes, hwrote, hwrites⟩ := h.wrote
    rw [hid, hwrote]
    exact (s.bag d.id).prefix_keys_changed (hwrites hretains)
  · have hbag : s'.bag id = s.bag id :=
      congrArg (fun state? => (state?.getD .fresh).bag) (h.others id hid)
    exact hbag ▸ List.prefix_refl _

namespace Engine

lemma begun_beginning (engine : Engine) {d : Definition} (hblank : Text.blank d.id = false)
    (s : ExecutionState) :
    engine.Begun d s ((engine.beginning d).run s).1 ((engine.beginning d).run s).2 := by
  rw [run_beginning]
  let passed := (engine.attempt d (Controller.passedOver? d)).run (s.place d.id d.start?)
  let entered := (engine.attempt d (nonEmpty? d.start?)).run passed.2
  let b : Beginning := ⟨passed.1, entered.1⟩
  obtain ⟨hsources, hqueueFirst⟩ := engine.sources_queue_attempt d (Controller.passedOver? d)
    (s.place d.id d.start?)
  obtain ⟨-, hqueueSecond⟩ := engine.sources_queue_attempt d (nonEmpty? d.start?) passed.2
  obtain ⟨first, hfirst, hfirstWrites⟩ := engine.wrote_attempt hblank (Controller.passedOver? d)
    (s.place d.id d.start?)
  obtain ⟨second, hsecond, hsecondWrites⟩ :=
    engine.wrote_attempt hblank (nonEmpty? d.start?) passed.2
  have hwrote : Wrote d.id (first ++ second) (s.place d.id d.start?) entered.2 :=
    hfirst.append hsecond
  have hbag : entered.2.bag d.id = (s.bag d.id).changed (first ++ second) := by
    rw [hwrote.own, s.bag_place]
  have hwrites (hretains : s.registry.Retains) :
      ∀ change ∈ first ++ second, change.IsWrite :=
    List.forall_mem_append.mpr
      ⟨hfirstWrites hretains, hsecondWrites (hretains.of_sources_eq hsources)⟩
  have hothers (other : String) (hother : other ≠ d.id) :
      entered.2.states.get? other = s.states.get? other :=
    (hwrote.others other hother).trans (get?_place_of_ne hother _)
  have hqueue : entered.2.queue = s.queue ++ if engine.background then b.calls else [] := by
    rw [hqueueSecond, hqueueFirst, List.append_assoc]
    show s.queue ++ _ = _
    cases engine.background <;> rfl
  show engine.Begun d s b (entered.2.placeNext d.id (b.onward? d))
  cases honward : b.onward? d with
  | none =>
      refine ⟨?_, ⟨_, hbag, hwrites⟩, hothers, hqueue⟩
      rw [Beginning.stand, honward]
      exact (hwrote.node?_eq _).trans (node?_place hblank _)
  | some next =>
      refine ⟨?_, ⟨_, (entered.2.bag_place ..).trans hbag, hwrites⟩, fun other hother => ?_,
        hqueue⟩
      · rw [Beginning.stand, honward]
        exact node?_place hblank _
      · exact (get?_place_of_ne hother _).trans (hothers other hother)

end Engine

namespace Controller

/-- **An instance began** between two worlds, behind whose operations nobody is left to be hired. -/
structure Began (c : Controller π) (d : Definition) (b : Beginning) (w w' : World π) : Prop where
  /-- The calls were made that belong to the beginning.  Those that were left for the background are
      all that waited there in the end. -/
  attempts : (c.engine.beginning d).run w.execution =
    (b, { w'.execution with queue := if c.engine.background then b.calls else [] })
  stands : w'.states.node? (some d.id) = b.stand d
  others : ∀ other, other ≠ d.id → w'.states.get? other = w.states.get? other

variable {c : Controller π} {d : Definition} {w w' : World π}

lemma Began.prefix_keys {b : Beginning} (h : c.Began d b w w') (hblank : Text.blank d.id = false)
    (hretains : w.execution.registry.Retains) (id : String) :
    (w.execution.bag id).keys <+: (w'.execution.bag id).keys := by
  have begun := c.engine.begun_beginning hblank w.execution
  rw [h.attempts] at begun
  exact begun.prefix_keys hretains id

end Controller

end ActivityFlow
