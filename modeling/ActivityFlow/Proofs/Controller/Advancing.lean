import ActivityFlow.Persistence.Recorder
import ActivityFlow.Proofs.Action.Conduct
import ActivityFlow.Proofs.Controller.Offer
import ActivityFlow.Proofs.Controller.Recovery
import ActivityFlow.Proofs.Controller.Within
import Mathlib.Algebra.Group.Int.Defs

/-!
# Advancing

An instance that is advanced moves along the transition that its value selects, and comes to a node
whose action is executed.  If that completes and one way leads on, the instance takes it, and no
action is executed behind it.  An instance whose value selects nothing stays as it is, and so does
everything else; only the answer may be missing then, if the value cannot be shown.

* `Choice.Selects` — which transition a value selects: the rules in their order.
* `Controller.Tried` — what an attempt to execute the action of a node comes to, for each engine.
* `Controller.Entered` — where an instance stands that came to a node, and what was told of it.
* `Controller.Answered`, `Controller.Advanced` — what comes of a value, and of the answer.
* `World.Housed` — whoever stands on a node has a definition; it holds in every story.
* **`Story.advances`** — the theorem, for every list of scenes.  An instance that stands nowhere is
  started first, and then the same holds of it behind that start.

Nobody is to come between the steps of the operation.  Calls that an engine leaves for the background
are hired when it ends, so worlds are compared without them.
-/

namespace ActivityFlow

open Diagram ExecutionState

variable {π : Type}

/-! ## Which transition a value selects -/

namespace Choice

/-- The first of some transitions that has a property. -/
def First (P : Transition → Prop) (ways : List Transition) (t : Transition) : Prop :=
  P t ∧ ∃ before after, ways = before ++ t :: after ∧ ∀ other ∈ before, ¬ P other

/-- A transition leads to a node with a label. -/
def LeadsToLabel (d : Definition) (label : String) (t : Transition) : Prop :=
  ∃ node, d.node? t.target = some node ∧ node.label = some label

/-- **The transition that a value selects**, by the rules in their order.  A text is the id of a
    target, or else the label of one, or else a numeral. -/
inductive Selects (d : Definition) (ways : List Transition) : Json → Transition → Prop
  | target {text : String} {t : Transition} (first : First (·.target = text) ways t) :
      Selects d ways (.str text) t
  | label {text : String} {t : Transition} (noTarget : ∀ way ∈ ways, way.target ≠ text)
      (first : First (LeadsToLabel d text) ways t) : Selects d ways (.str text) t
  | numeral {text : String} {place : ℤ} {t : Transition} (noTarget : ∀ way ∈ ways, way.target ≠ text)
      (noLabel : ∀ way ∈ ways, ¬ LeadsToLabel d text way)
      (read : Text.readInt? text = some place) (first : 0 ≤ place)
      (found : ways[place.toNat]? = some t) : Selects d ways (.str text) t
  | place {place : ℤ} {t : Transition} (first : 0 ≤ place) (found : ways[place.toNat]? = some t) :
      Selects d ways (.int place) t
  | only {t : Transition} (single : ways = [t]) : Selects d ways .null t

variable {d : Definition} {ways : List Transition}

lemma byTarget_eq_some_iff {text : String} {t : Transition} :
    byTarget ways text = some t ↔ First (·.target = text) ways t := by
  simp [byTarget, First, List.find?_eq_some_iff_append]

lemma byTarget_eq_none_iff {text : String} :
    byTarget ways text = none ↔ ∀ way ∈ ways, way.target ≠ text := by
  simp [byTarget]

lemma any_label_iff {text : String} {way : Transition} :
    ((d.node? way.target).any fun node => decide (node.label = some text)) = true ↔
      LeadsToLabel d text way := by
  cases hnode : d.node? way.target <;> simp [LeadsToLabel, hnode]

lemma byLabel_eq_some_iff {text : String} {t : Transition} :
    byLabel d ways text = some t ↔ First (LeadsToLabel d text) ways t := by
  rw [byLabel, List.find?_eq_some_iff_append]
  simp only [Bool.not_eq_true', ← Bool.not_eq_true, any_label_iff]
  rfl

lemma byLabel_eq_none_iff {text : String} :
    byLabel d ways text = none ↔ ∀ way ∈ ways, ¬ LeadsToLabel d text way := by
  simp only [byLabel, List.find?_eq_none, any_label_iff]

/-- **What is selected is what the rules say.** -/
theorem selects_iff {value : Json} {t : Transition} :
    Selects d ways value t ↔ select d ways value = some t := by
  constructor
  · rintro (first | ⟨noTarget, first⟩ | ⟨noTarget, noLabel, read, first, found⟩ | ⟨first, found⟩ |
      single)
    · rw [select, byTarget_eq_some_iff.mpr first]
      rfl
    · rw [select, byTarget_eq_none_iff.mpr noTarget, byLabel_eq_some_iff.mpr first]
      rfl
    · rw [select, byTarget_eq_none_iff.mpr noTarget, byLabel_eq_none_iff.mpr noLabel, read]
      exact byPlace_eq_some_iff.mpr ⟨first, found⟩
    · exact byPlace_eq_some_iff.mpr ⟨first, found⟩
    · exact only_eq_some_iff.mpr single
  · intro h
    cases value with
    | str text =>
        simp only [select, Option.or_eq_some_iff] at h
        rcases h with h | ⟨hnone, h | ⟨hnone', h⟩⟩
        · exact .target (byTarget_eq_some_iff.mp h)
        · exact .label (byTarget_eq_none_iff.mp hnone) (byLabel_eq_some_iff.mp h)
        · obtain ⟨place, hread, hplace⟩ := Option.bind_eq_some_iff.mp h
          obtain ⟨first, found⟩ := byPlace_eq_some_iff.mp hplace
          exact .numeral (byTarget_eq_none_iff.mp hnone) (byLabel_eq_none_iff.mp hnone') hread first
            found
    | int place =>
        obtain ⟨first, found⟩ := byPlace_eq_some_iff.mp h
        exact .place first found
    | null => exact .only (only_eq_some_iff.mp h)
    | _ => exact absurd h (by simp [select])

lemma selects_nothing_iff {value : Json} :
    (∀ way, ¬ Selects d ways value way) ↔ select d ways value = none := by
  simp only [selects_iff, Option.eq_none_iff_forall_ne_some]

end Choice

/-! ## Moving on -/

/-- What is kept when a persistence was told of several nodes, one after the other. -/
def Persistence.tell (p : Persistence π) (id : String) (nodes : List String) (archive : π) : π :=
  nodes.foldl (fun archive node => (p.update id (some node) archive).2) archive

namespace ExecutionState

/-- Place an instance on a node, or on none. -/
def place (id : String) (node : Option String) (s : ExecutionState) : ExecutionState :=
  { s with states := s.states.place id node }

/-- Whoever is moved keeps its variables. -/
lemma bag_place (s : ExecutionState) (id : String) (node : Option String) (other : String) :
    (s.place id node).bag other = s.bag other := by
  show (InstanceStates.stateOf (s.states.put id _) other).bag = _
  by_cases hother : other = id
  · rw [hother, stateOf_put_self]
    rfl
  · have hget := (KeyedMap.get?_put s.states id other
      { s.states.stateOf id with node := node }).trans (if_neg hother)
    exact congrArg (fun state? => (state?.getD .fresh).bag) hget

end ExecutionState

namespace World

/-- Work on the state that actions work on leaves the rest of the world alone. -/
lemma run_onExecution {α : Type} (t : Routine ExecutionState α) (w : World π) :
    (Routine.zoom execution withExecution t).run w =
      ((t.run w.execution).1, w.withExecution (t.run w.execution).2) := by
  refine Routine.run_zoom ?_ ?_ ?_ t w <;> intros <;> rfl

/-- The world with an instance moved on to the next node, if there is one. -/
def moveOn (p : Persistence π) (id : String) (next? : Option String) (w : World π) : World π :=
  match next? with
  | none => w
  | some next => w.move p id (some next)

lemma bag_place (w : World π) (id : String) (node : Option String) (other : String) :
    (w.place id node).execution.bag other = w.execution.bag other :=
  w.execution.bag_place id node other

section

variable (p : Persistence π) (id : String) (next? : Option String) (w : World π)

lemma archive_moveOn : (w.moveOn p id next?).archive = p.tell id next?.toList w.archive := by
  cases next? with
  | none => rfl
  | some next => rfl

lemma definitions_moveOn : (w.moveOn p id next?).definitions = w.definitions := by
  cases next? with
  | none => rfl
  | some next => rfl

lemma calls_moveOn : (w.moveOn p id next?).execution.calls = w.execution.calls := by
  cases next? with
  | none => rfl
  | some next => rfl

lemma bag_moveOn (other : String) :
    (w.moveOn p id next?).execution.bag other = w.execution.bag other := by
  cases next? with
  | none => rfl
  | some next => exact w.bag_place id (some next) other

variable {w}

lemma node?_moveOn {node : String} (hblank : Text.blank id = false)
    (hnode : w.states.node? (some id) = some node) :
    (w.moveOn p id next?).states.node? (some id) = some (next?.getD node) := by
  cases next? with
  | none => exact hnode
  | some next => exact (node?_move _ _ _ _ _ hblank).trans (if_pos rfl)

lemma node?_moveOn_of_ne {id other : String} (hblank : Text.blank other = false)
    (hother : other ≠ id) :
    (w.moveOn p id next?).states.node? (some other) = w.states.node? (some other) := by
  cases next? with
  | none => rfl
  | some next => exact (node?_move _ _ _ _ _ hblank).trans (if_neg hother)

end

end World

/-! ## Executing an action in the background -/

/-- How an execution goes that is left for the background: nothing is written and no handler is
    called, and at most one more call waits, which is for the node. -/
structure Leaves (workflow : String) (node : Node) (s : ExecutionState) (status? : Option Status)
    (s' : ExecutionState) : Prop where
  wrote : Wrote workflow [] s s'
  calls : s'.calls = s.calls
  waiting : (status? ≠ some .completed ∧ s'.queue = s.queue) ∨ (status? = some .scheduled ∧
    ∃ c : ScheduledCall, s'.queue = s.queue ++ [c] ∧ c.call.workflow = workflow ∧
      c.call.node = node)

lemma leaves_execute (limit : Limit) {q : Request} {workflow : String} {node : Node}
    (s : ExecutionState) (hworkflow : q.workflow = some workflow)
    (hblank : Text.blank workflow = false) (hnode : q.node = some node) :
    Leaves workflow node s (statusIn? ((execute ⟨limit, true⟩ q).run s).1)
      ((execute ⟨limit, true⟩ q).run s).2 := by
  rw [run_execute ⟨limit, true⟩ hworkflow hblank]
  have hfound := wrote_bagOf workflow s
  cases hcall : q.call? limit workflow s with
  | error e => exact ⟨hfound, rfl, .inl ⟨by simp [statusIn?, Except.toOption], rfl⟩⟩
  | ok call? =>
      cases call? with
      | none => exact ⟨wrote_nil rfl, rfl, .inl ⟨by simp [statusIn?, Except.toOption,
          Request.skipped], rfl⟩⟩
      | some call =>
          obtain ⟨hcallWorkflow, hcallNode, -, -⟩ := Request.of_call? hcall
          exact ⟨hfound.append (wrote_nil rfl), rfl, .inr ⟨rfl, call, rfl, hcallWorkflow,
            (Option.some.inj (hnode.symm.trans hcallNode)).symm⟩⟩

namespace Controller

variable (c : Controller π) {d : Definition} {node : Node} {s s' : ExecutionState}
  {status? : Option Status}

/-! ## The action of a node -/

/-- The request to execute the action of a node. -/
def request (d : Definition) (node : Node) : Request :=
  ⟨some d.id, some node, .absent, none⟩

/-- **What an attempt to execute the action of a node comes to**, with the status of its outcome.
    There is no status if the engine fails, or if a value cannot be shown that should be. -/
inductive Tried (d : Definition) (node : Node) (s : ExecutionState) :
    Option Status → ExecutionState → Prop
  /-- The engine fails, and nothing happens. -/
  | broken (engine : c.engine = .broken) : Tried d node s none s
  /-- The handler of the node, if there is one, works before the engine goes on. -/
  | waited {limit : Limit} {answer : Except ExecutionError Outcome} {s' : ExecutionState}
      (engine : c.engine = .working ⟨limit, false⟩)
      (goes : Goes d.id ((request d node).work? d.id s) (.start s.calls .absent limit) s answer
        s') : Tried d node s (statusIn? answer) s'
  | left {limit : Limit} {status? : Option Status} {s' : ExecutionState}
      (engine : c.engine = .working ⟨limit, true⟩) (leaves : Leaves d.id node s status? s') :
      Tried d node s status? s'

variable {c}

/-- Whatever is changed are variables of the instance. -/
lemma Tried.exists_wrote (hblank : Text.blank d.id = false) (h : c.Tried d node s status? s') :
    ∃ changes, Wrote d.id changes s s' := by
  cases h with
  | broken engine => exact ⟨[], wrote_nil rfl⟩
  | waited engine goes =>
      obtain ⟨changes, -, -, hwrote, -⟩ := goes.merges hblank
      exact ⟨_, hwrote⟩
  | left engine leaves => exact ⟨[], leaves.wrote⟩

/-- **At most one handler is called.** -/
lemma Tried.calls_le (h : c.Tried d node s status? s') : s'.calls ≤ s.calls + 1 := by
  cases h with
  | broken engine => exact Nat.le_succ _
  | waited engine goes =>
      rw [goes.calls_eq]
      split <;> omega
  | left engine leaves => exact leaves.calls ▸ Nat.le_succ _

/-- The calls that wait already do not matter to an attempt. -/
lemma Tried.hired (h : c.Tried d node s status? s') (hqueue : c.Waits → s.queue = []) :
    ∃ waiting, c.Tried d node { s with queue := [] } status? { s' with queue := waiting } := by
  cases h with
  | broken engine => exact ⟨[], .broken engine⟩
  | waited engine goes =>
      have hnil : { s with queue := [] } = s := by rw [← hqueue (waits_of_engine engine)]
      exact ⟨s'.queue, hnil.symm ▸ .waited engine goes⟩
  | left engine leaves =>
      have hwrote (waiting : List ScheduledCall) :
          Wrote d.id [] { s with queue := [] } { s' with queue := waiting } :=
        ⟨leaves.wrote.own, leaves.wrote.node, leaves.wrote.others⟩
      rcases leaves.waiting with ⟨hstatus, -⟩ | ⟨hstatus, call, -, hcall⟩
      · exact ⟨[], .left engine ⟨hwrote [], leaves.calls, .inl ⟨hstatus, rfl⟩⟩⟩
      · exact ⟨[call], .left engine
          ⟨hwrote [call], leaves.calls, .inr ⟨hstatus, call, rfl, hcall⟩⟩⟩

variable (c)

lemma tried_perform (hblank : Text.blank d.id = false) (node : Node) (w : World π) :
    ∃ status? s, c.Tried d node w.execution status? s ∧
      (c.perform d node).run w = (decide (status? = some .completed), w.withExecution s) := by
  unfold perform
  cases hengine : c.engine with
  | broken => exact ⟨none, w.execution, .broken hengine, rfl⟩
  | working options =>
      obtain ⟨limit, background⟩ := options
      dsimp only
      rw [Routine.run_bind, ← request, World.run_onExecution]
      refine ⟨statusIn? ((execute ⟨limit, background⟩ (request d node)).run w.execution).1,
        ((execute ⟨limit, background⟩ (request d node)).run w.execution).2, ?_, ?_⟩
      · cases background with
        | false =>
            exact .waited hengine
              (goes_execute (q := request d node) w.execution rfl rfl hblank)
        | true =>
            exact .left hengine
              (leaves_execute limit w.execution (q := request d node) rfl hblank rfl)
      · rcases (execute ⟨limit, background⟩ (request d node)).run w.execution with ⟨answer, s⟩
        cases answer with
        | ok outcome =>
            simp only [statusIn?, Except.toOption, Option.map_some, Option.some.injEq]
            rfl
        | error e => rfl

/-! ## Coming to a node -/

/-- Where an instance goes on from a node: the only way behind it, if its action completed. -/
def onward (d : Definition) (target : String) (status? : Option Status) : Option String :=
  if status? = some .completed then (Choice.only (d.outgoing target)).map (·.target) else none

/-- **An instance came to a node**, where the action of the node was tried.  It stands there or on
    the node behind, the persistence was told so, and what was written is what the action wrote. -/
structure Entered (d : Definition) (target : String) (node : Node) (status? : Option Status)
    (s : ExecutionState) (w w' : World π) : Prop where
  known : d.node? target = some node
  tried : c.Tried d node (w.place d.id (some target)).execution status? s
  stands : w'.states.node? (some d.id) = some ((onward d target status?).getD target)
  others : ∀ other, Text.blank other = false → other ≠ d.id →
    w'.states.node? (some other) = w.states.node? (some other)
  archive : w'.archive =
    c.persistence.tell d.id (target :: (onward d target status?).toList) w.archive
  definitions : w'.definitions = w.definitions
  bag : ∀ id, w'.execution.bag id = s.bag id
  calls : w'.execution.calls = s.calls

lemma run_enterNode (hblank : Text.blank d.id = false) {target : String} {node : Node}
    (hnode : d.node? target = some node) (w : World π) :
    ∃ status? s, c.Tried d node w.execution status? s ∧ ((c.enterNode d target).run w).2 =
      (w.withExecution s).moveOn c.persistence d.id (onward d target status?) := by
  obtain ⟨status?, s, tried, hrun⟩ := c.tried_perform hblank node w
  refine ⟨status?, s, tried, ?_⟩
  rw [enterNode, Routine.run_bind, performAt, hnode]
  dsimp only
  rw [hrun, onward]
  by_cases hcompleted : status? = some .completed
  · rw [if_pos (by simpa using hcompleted), if_pos hcompleted]
    cases Choice.only (d.outgoing target) with
    | none => rfl
    | some way =>
        dsimp only
        rw [Routine.run_bind, run_moveTo]
        rfl
  · rw [if_neg (by simpa using hcompleted), if_neg hcompleted]
    rfl

/-- **An instance that is moved to a node and enters it came to the node.** -/
lemma exists_entered (hblank : Text.blank d.id = false) {target : String} {node : Node}
    (hnode : d.node? target = some node) (w : World π) :
    ∃ status? s, c.Entered d target node status? s w
      ((c.enterNode d target).run (w.move c.persistence d.id (some target))).2 := by
  obtain ⟨status?, s, tried, hrun⟩ :=
    c.run_enterNode hblank hnode (w.move c.persistence d.id (some target))
  obtain ⟨writes, hwrote⟩ := tried.exists_wrote hblank
  have hstands (other : String) (hother : Text.blank other = false) :
      s.states.node? (some other) =
        if other = d.id then some target else w.states.node? (some other) :=
    (hwrote.node?_eq _).trans (w.node?_place d.id other (some target) hother)
  refine ⟨status?, s, hnode, tried, ?_, ?_, ?_, ?_, ?_, ?_⟩ <;> rw [hrun]
  · exact World.node?_moveOn _ _ _ hblank ((hstands d.id hblank).trans (if_pos rfl))
  · intro other hother hne
    have hstays := (hstands other hother).trans (if_neg hne)
    exact (World.node?_moveOn_of_ne _ _ hother hne).trans hstays
  · exact World.archive_moveOn ..
  · exact World.definitions_moveOn ..
  · exact World.bag_moveOn _ _ _ _
  · exact World.calls_moveOn ..

variable {c} in
/-- The calls that wait do not matter where an instance comes to. -/
lemma Entered.hired {target : String} {w w' : World π} (h : c.Entered d target node status? s w w')
    (hqueue : c.Waits → w.execution.queue = []) :
    ∃ s, c.Entered d target node status? s (Employer.hire w).2 (Employer.hire w').2 := by
  obtain ⟨waiting, tried⟩ := h.tried.hired hqueue
  exact ⟨_, h.known, tried, h.stands, h.others, h.archive, h.definitions, h.bag, h.calls⟩

/-- **What comes of a value** for an instance on a node.  If it selects nothing, the answer says so, or
    is missing because the value cannot be shown, and nothing happened.  If it selects a transition,
    the instance came to the node that this leads to, and at most one handler was called. -/
inductive Answered (d : Definition) (node : String) (value : Json) (w : World π) :
    Except ControllerError Bool → World π → Prop
  | stays (nothing : ∀ way, ¬ Choice.Selects d (d.outgoing node) value way)
      (shown : value.checkText = .ok ()) : Answered d node value w (.ok false) w
  | unshown {cause : Json.TextError}
      (nothing : ∀ way, ¬ Choice.Selects d (d.outgoing node) value way)
      (unshown : value.checkText = .error cause) :
      Answered d node value w (.error (.text cause)) w
  | moves {way : Transition} {target : Node} {status? : Option Status} {s : ExecutionState}
      {w' : World π} (selects : Choice.Selects d (d.outgoing node) value way)
      (called : w'.execution.calls ≤ w.execution.calls + 1)
      (entered : c.Entered d way.target target status? s w w') :
      Answered d node value w (.ok true) w'

/-- **What comes of a value** for an instance that may stand on a node or nowhere. -/
def Advanced (d : Definition) (value : Json) (w w' : World π) (answer : Except ControllerError Bool) :
    Prop :=
  match nonEmpty? (w.states.node? (some d.id)) with
  | none => answer = .ok false ∧ w' = w
  | some node => c.Answered d node value w answer w'

section

variable {c} {node : String} {value : Json} {w w' : World π} {answer : Except ControllerError Bool}

/-- An instance whose value selects a transition is moved along it. -/
lemma Advanced.of_selects (h : c.Advanced d value w w' answer)
    (rests : nonEmpty? (w.states.node? (some d.id)) = some node) {way : Transition}
    (selects : Choice.Selects d (d.outgoing node) value way) :
    answer = .ok true ∧ w'.execution.calls ≤ w.execution.calls + 1 ∧
      ∃ target status? s, c.Entered d way.target target status? s w w' := by
  rw [Advanced, rests] at h
  cases h with
  | stays nothing => exact absurd selects (nothing way)
  | unshown nothing => exact absurd selects (nothing way)
  | moves selects' called entered =>
      obtain rfl := Option.some.inj
        ((Choice.selects_iff.mp selects).symm.trans (Choice.selects_iff.mp selects'))
      exact ⟨rfl, called, _, _, _, entered⟩

/-- An instance whose value selects nothing stays as it is. -/
lemma Advanced.of_nothing (h : c.Advanced d value w w' answer)
    (rests : nonEmpty? (w.states.node? (some d.id)) = some node)
    (nothing : ∀ way, ¬ Choice.Selects d (d.outgoing node) value way)
    (shown : value.checkText = .ok ()) : answer = .ok false ∧ w' = w := by
  rw [Advanced, rests] at h
  cases h with
  | stays => exact ⟨rfl, rfl⟩
  | unshown _ unshown => exact nomatch shown.symm.trans unshown
  | moves selects => exact absurd selects (nothing _)

/-- So does an instance whose value selects nothing and cannot be shown, but without an answer. -/
lemma Advanced.of_unshown (h : c.Advanced d value w w' answer)
    (rests : nonEmpty? (w.states.node? (some d.id)) = some node)
    (nothing : ∀ way, ¬ Choice.Selects d (d.outgoing node) value way) {cause : Json.TextError}
    (unshown : value.checkText = .error cause) : answer = .error (.text cause) ∧ w' = w := by
  rw [Advanced, rests] at h
  cases h with
  | stays _ shown => exact nomatch shown.symm.trans unshown
  | unshown _ unshown' =>
      obtain rfl := Except.error.inj (unshown.symm.trans unshown')
      exact ⟨rfl, rfl⟩
  | moves selects => exact absurd selects (nothing _)

end

lemma run_follow_some {node : String} {value : Json} {way : Transition}
    (hselect : Choice.select d (d.outgoing node) value = some way) (w : World π) :
    (c.follow d.id d node value).run w = (.ok true, ((c.enterNode d way.target).run
      (w.move c.persistence d.id (some way.target))).2) := by
  rw [follow, hselect]
  dsimp only
  rw [Routine.run_bind, run_moveTo, Routine.run_bind]
  have hdiscard := Routine.run_bind (c.enterNode d way.target) (fun _ => pure ())
    (w.move c.persistence d.id (some way.target))
  have hbehind (behind : Unit × World π) : (pure (.ok true) : Routine (World π) _).run behind.2 =
      ((.ok true : Except ControllerError Bool), behind.2) := rfl
  exact (hbehind _).trans (congrArg
    (fun behind : Unit × World π => ((.ok true : Except ControllerError Bool), behind.2)) hdiscard)

lemma run_follow_none {node : String} {value : Json}
    (hselect : Choice.select d (d.outgoing node) value = none) (w : World π) :
    (c.follow d.id d node value).run w =
      ((value.checkText.mapError .text).map fun _ => false, w) := by
  rw [follow, hselect]
  rfl

/-- The work of advancing an instance that was found on a node, or nowhere. -/
def followFrom (d : Definition) (value : Json) (found : Option String) :
    Routine (World π) (Except ControllerError Bool) :=
  match nonEmpty? found with
  | some node => c.follow d.id d node value
  | none => return .ok false

lemma advanced_followFrom (hd : d.WellFormed) (hblank : Text.blank d.id = false) {w : World π}
    (hqueue : c.Waits → w.execution.queue = []) (value : Json) :
    let behind := (c.followFrom d value (w.states.node? (some d.id))).run w
    c.Advanced d value (Employer.hire w).2 (Employer.hire behind.2).2 behind.1 := by
  have hstands : (Employer.hire w).2.states.node? (some d.id) = w.states.node? (some d.id) := rfl
  unfold Advanced followFrom
  rw [hstands]
  cases nonEmpty? (w.states.node? (some d.id)) with
  | none => exact ⟨rfl, rfl⟩
  | some node =>
      dsimp only
      cases hselect : Choice.select d (d.outgoing node) value with
      | none =>
          have hnothing := Choice.selects_nothing_iff.mpr hselect
          rw [c.run_follow_none hselect]
          cases hshown : value.checkText with
          | ok _ => exact .stays hnothing hshown
          | error cause => exact .unshown hnothing hshown
      | some way =>
          have hway := (Definition.mem_outgoing.mp (Choice.mem_of_select hselect)).1
          have hhas := d.mem_ids_iff.mp (hd.ends way hway).2
          obtain ⟨target, htarget⟩ := Option.isSome_iff_exists.mp hhas
          obtain ⟨status?, s, entered⟩ := c.exists_entered hblank htarget w
          obtain ⟨s, entered⟩ := entered.hired hqueue
          rw [c.run_follow_some hselect]
          exact .moves (Choice.selects_iff.mpr hselect) (entered.calls ▸ entered.tried.calls_le)
            entered

/-! ## Being started first -/

open Routine World in
/-- An instance that goes on from a node answers where it stands. -/
lemma ensures_enterNode_answer (hblank : Text.blank d.id = false) {w : World π} {node : String}
    (hnode : w.states.node? (some d.id) = some node) :
    (c.enterNode d node).Ensures Unmoved (fun answer w' =>
      w'.states.node? (some d.id) = some answer) w := by
  refine (c.ensures_performAt d w node).bind fun completed w₁ still => ?_
  have hstill : w₁.states.node? (some d.id) = some node := (still.node _).trans hnode
  split
  · split
    · refine (c.ensures_moveTo w₁ d.id _).bind fun _ w' moved => ?_
      exact (moved.node _).trans ((node?_move _ _ _ _ _ hblank).trans (if_pos rfl))
    · exact hstill
  · exact hstill

open Routine World in
/-- **An instance that is resumed answers where it stands.** -/
lemma ensures_resume_answer (hblank : Text.blank d.id = false) (w : World π) :
    (c.resume d.id d).Ensures Unmoved (fun answer w' =>
      w'.states.node? (some d.id) = answer) w := by
  simp only [resume, ensures_bind, ensures_get]
  split
  · rename_i node known
    exact (d.holds_of_knownNode known).1
  · refine (c.ensures_loadNode w d.id).bind fun _ w₀ _ => ?_
    split
    · simp only [ensures_bind, ensures_modify, ensures_pure]
      exact (node?_place _ _ _ _ hblank).trans (if_pos rfl)
    · rw [enterStart, ensures_bind, ensures_modify]
      refine (c.ensures_persistNode _ d.id d.start?).bind fun _ w₁ told => ?_
      refine (c.ensures_performPassedOver d w₁).bind fun _ w₂ still => ?_
      have hstart : w₂.states.node? (some d.id) = d.start? :=
        ((told.trans still).node _).trans
          ((node?_place w₀ d.id d.id d.start? hblank).trans (if_pos rfl))
      split
      · rename_i node hnode
        have hnode : d.start? = some node := (Option.filter_eq_some_iff.mp hnode).1
        refine (c.ensures_enterNode_answer hblank (hstart.trans hnode)).bind fun _ _ answer => ?_
        exact answer
      · exact hstart

/-! ## In a session -/

lemma run_onWorkflow {α : Type} {w : World π} (stored : w.Stores d)
    (body : String → Definition → Routine (World π) (Except ControllerError α)) :
    (onWorkflow (some d.id) body).run w = (body d.id d).run w := by
  rw [onWorkflow, Routine.run_bind, Routine.run_get, World.require_of_stores stored]

/-- An operation on a workflow that is stored, in a session that is settled. -/
lemma Settled.perform_onWorkflow {α : Type} {s : Session (World π)} (hs : Settled c s)
    (hc : c.Uninterrupted) (stored : s.state.Stores d) {op : Operation} {toAnswer : α → Answer}
    {body : String → Definition → Routine (World π) (Except ControllerError α)}
    (hroutine : op.routine c = (onWorkflow (some d.id) body).map (Except.map toAnswer)) :
    ∃ s', s.perform (op.routine c) =
        (some (((body d.id d).run s.state).1.map toAnswer), s') ∧
      s'.state = (Employer.hire ((body d.id d).run s.state).2).2 := by
  obtain ⟨company, hperform, -⟩ := hs.perform_eq hc op
  rw [hperform, hroutine, Routine.run_map, run_onWorkflow stored]
  exact ⟨_, rfl, rfl⟩

variable {c} {s : Session (World π)}

/-- **An instance that stands on a node** advances from there. -/
lemma Settled.perform_advance_standing (hs : Settled c s) (hc : c.Uninterrupted)
    (hd : d.WellFormed)
    (stored : s.state.Stores d) {node : String}
    (rests : nonEmpty? (s.state.states.node? (some d.id)) = some node) (value : Json) :
    ∃ answer s', s.perform ((Operation.advance (some d.id) value).routine c) =
        (some (answer.map .moved), s') ∧ c.Advanced d value s.state s'.state answer := by
  have hroutine : (Operation.advance (some d.id) value).routine c =
      (c.advance (some d.id) value).map (Except.map .moved) := rfl
  obtain ⟨s', hperform, hs'⟩ := hs.perform_onWorkflow c hc stored hroutine
  refine ⟨_, s', hperform, ?_⟩
  have hadvanced := c.advanced_followFrom hd stored.usable (fun _ => hs.orderly.queue) value
  have hhired : (Employer.hire s.state).2 = s.state :=
    congrArg Session.state (hire_of_queue_eq_nil hs.orderly.queue .empty)
  rw [hhired, followFrom, rests] at hadvanced
  rw [hs', Routine.run_bind, Routine.run_get, rests]
  exact hadvanced

/-- **An instance that stands nowhere** is started, and advances from where it stands then. -/
lemma Settled.perform_advance_nowhere (hs : Settled c s) (hc : c.Uninterrupted)
    (hd : d.WellFormed)
    (stored : s.state.Stores d) (nowhere : nonEmpty? (s.state.states.node? (some d.id)) = none)
    (value : Json) :
    ∃ node s₁ answer s', s.perform ((Operation.start (some d.id)).routine c) =
        (some (.ok (.node node)), s₁) ∧ s₁.state.states.node? (some d.id) = node ∧
      s.perform ((Operation.advance (some d.id) value).routine c) =
        (some (answer.map .moved), s') ∧ c.Advanced d value s₁.state s'.state answer := by
  have hroutine : (Operation.start (some d.id)).routine c =
      (c.start (some d.id)).map (Except.map .node) := rfl
  have hroutine' : (Operation.advance (some d.id) value).routine c =
      (c.advance (some d.id) value).map (Except.map .moved) := rfl
  obtain ⟨s₁, hstart, hs₁⟩ := hs.perform_onWorkflow c hc stored hroutine
  obtain ⟨s', hadvance, hs'⟩ := hs.perform_onWorkflow c hc stored hroutine'
  have hanswer := (c.ensures_resume_answer stored.usable s.state).run World.Unmoved.refl
  rw [Routine.run_mapped] at hstart hs₁
  refine ⟨_, s₁, _, s', hstart, ?_, hadvance, ?_⟩
  · rw [hs₁]
    exact hanswer
  · have hqueue : c.Waits → ((c.resume d.id d).run s.state).2.execution.queue = [] := by
      intro hc
      have hanchored := (keeps_of_made (Made.resume c d.id d)).run World.Anchored.refl
        World.Anchored.trans s.state
      exact (hanchored.queue hc).trans hs.orderly.queue
    have hadvanced := c.advanced_followFrom hd stored.usable hqueue value
    rw [hanswer, followFrom] at hadvanced
    rw [hs₁, hs', Routine.run_bind, Routine.run_get, nowhere]
    dsimp only
    rw [Routine.run_bind]
    exact hadvanced

end Controller

/-! ## Who stands on a node -/

namespace World

/-- Whoever stands on a node has a definition. -/
def Housed (w : World π) : Prop :=
  ∀ id node, w.states.node? (some id) = some node → ∃ d, w.Stores d ∧ d.id = id

variable {p : Persistence π} {d : Definition} {w w' : World π}

lemma not_blank_of_node? {id node : String} (h : w.states.node? (some id) = some node) :
    Text.blank id = false := by
  by_contra hblank
  rw [Bool.not_eq_false] at hblank
  simp [InstanceStates.node?, Text.blank?, hblank] at h

/-- A course moves nobody but the instance of its definition. -/
lemma Course.node?_of_ne (course : Course p d w w') {other : String}
    (hblank : Text.blank other = false) (hother : other ≠ d.id) :
    w'.states.node? (some other) = w.states.node? (some other) := by
  refine course.keeps (I := fun w' => w'.states.node? (some other) = w.states.node? (some other))
    (fun still h => (still.node _).trans h) (fun _ h => ?_) rfl
  exact (node?_move _ _ _ _ _ hblank).trans ((if_neg hother).trans h)

lemma Resumed.node?_of_ne (resumed : Resumed p d w w') {other : String}
    (hblank : Text.blank other = false) (hother : other ≠ d.id) :
    w'.states.node? (some other) = w.states.node? (some other) := by
  cases resumed with
  | stayed known still => exact still.node _
  | recalled unknown known still =>
      exact (still.node _).trans ((node?_place _ _ _ _ hblank).trans (if_neg hother))
  | begun unknown forgotten moved => exact moved.course.node?_of_ne hblank hother

lemma Housed.of_unmoved (h : w.Housed) (still : w.Unmoved w') : w'.Housed := by
  intro id node hnode
  obtain ⟨d, stores, hid⟩ := h id node ((still.node _).symm.trans hnode)
  exact ⟨d, stores.of_definitions_eq still.definitions, hid⟩

/-- What happens to the instance of a definition that is stored leaves everybody housed. -/
lemma Housed.of_others (h : w.Housed) (stores : w'.Stores d)
    (hkept : ∀ d', d'.id ≠ d.id → w.Stores d' → w'.Stores d')
    (hnode : ∀ other, Text.blank other = false → other ≠ d.id →
      w'.states.node? (some other) = w.states.node? (some other)) : w'.Housed := by
  intro id node hstands
  by_cases hid : id = d.id
  · exact ⟨d, stores, hid.symm⟩
  · obtain ⟨d', stores', rfl⟩ :=
      h id node ((hnode id (not_blank_of_node? hstands) hid).symm.trans hstands)
    exact ⟨d', hkept d' hid stores', rfl⟩

/-- The same, if nothing was stored. -/
lemma Housed.of_definitions_eq (h : w.Housed) (stores : w.Stores d)
    (hdefs : w'.definitions = w.definitions)
    (hnode : ∀ other, Text.blank other = false → other ≠ d.id →
      w'.states.node? (some other) = w.states.node? (some other)) : w'.Housed :=
  h.of_others (stores.of_definitions_eq hdefs) (fun _ _ h => h.of_definitions_eq hdefs) hnode

end World

namespace Story

open Controller World

/-- **Every step leaves everybody housed.** -/
lemma housed_step {c : Controller π} {s s' : Session (World π)} {op : Operation}
    {answer : Except ControllerError Answer} (h : s.state.Housed) (step : Step c s op answer s') :
    s'.state.Housed := by
  cases step with
  | refused hrefusal hstray => exact h
  | stray hrefusal hstray =>
      have hblank := Operation.blank_of_stray? hstray
      intro id node hnode
      obtain ⟨d, stores, hid⟩ := h id node hnode
      exact ⟨d, (stores_storeDefinition_iff_of_blank hblank).mpr stores, hid⟩
  | asked accepted hquestion still => exact h.of_unmoved still
  | @imported text id name reading supply w w' s' accepted read usable stored resumed still =>
      have hdefs : s'.state.definitions =
          (s.state.storeDefinition reading.definition).definitions :=
        still.definitions.trans (resumed.definitions.trans stored.definitions)
      refine h.of_others (d := reading.definition) ?_ (fun d' hid stores => ?_)
        fun other hblank hother => ?_
      · exact (s.state.stores_storeDefinition_self usable).of_definitions_eq hdefs
      · exact (stores_storeDefinition_iff.mpr (.inr ⟨hid, stores⟩)).of_definitions_eq hdefs
      · exact (still.node _).trans ((resumed.node?_of_ne hblank hother).trans (stored.node _))
  | started stored resumed =>
      exact h.of_definitions_eq stored resumed.definitions fun _ => resumed.node?_of_ne
  | restarted stored moved =>
      refine h.of_definitions_eq stored moved.definitions fun other hblank hother => ?_
      exact (moved.course.node?_of_ne hblank hother).trans (node?_forget_of_ne _ hother)
  | stumbled stored accepted nowhere hplace resumed =>
      exact h.of_definitions_eq stored resumed.definitions fun _ => resumed.node?_of_ne
  | advanced stored accepted resumed course =>
      rcases resumed with rfl | resumed
      · exact h.of_definitions_eq stored course.definitions fun _ => course.node?_of_ne
      · refine h.of_definitions_eq stored (course.definitions.trans resumed.definitions)
          fun other hblank hother => ?_
        exact (course.node?_of_ne hblank hother).trans (resumed.node?_of_ne hblank hother)

lemma housed_after (c : Controller π) (registry : Registry) (archive : π) (scenes : List Scene) :
    (after c registry archive scenes).session.state.Housed := by
  refine (after_keeps (I := fun story => story.session.state.Housed) ?_
    (fun _ h step => housed_step h step) (fun h still => h.of_unmoved still) scenes).2
  intro id node hnode
  exact absurd ((node?_opening registry archive (some id)).symm.trans hnode) (by simp)

/-- **Advancing.**  After any operations, let an instance that stands on a node be advanced by a
    value.  The answer says whether the value selects one of the transitions that leave the node; a
    value that selects none and cannot be shown has no answer.  If none is selected, nothing
    happened.  Otherwise at most one handler was called, the one of the node that the transition
    leads to; the instance stands on that node, or on the only one behind it if its action
    completed; and the persistence was told of just these.  An instance that stands nowhere is
    refused, or is started, and the same holds of it from then on. -/
theorem advances (c : Controller π) (hc : c.Uninterrupted) (registry : Registry) (archive : π)
    (scenes : List Scene) (id : String) (value : Json) :
    let s := (after c registry archive scenes).session
    let start := (Operation.start (some id)).routine c
    let advance := (Operation.advance (some id) value).routine c
    match nonEmpty? (s.state.states.node? (some id)) with
    | some _ => ∃ d answer s', s.state.Stores d ∧ d.id = id ∧
        s.perform advance = (some (answer.map .moved), s') ∧
        c.Advanced d value s.state s'.state answer
    | none =>
      (∃ e, s.perform start = (some (.error e), s) ∧ s.perform advance = (some (.error e), s)) ∨
      ∃ d node s₁ answer s', s.state.Stores d ∧ d.id = id ∧
        s.perform start = (some (.ok (.node node)), s₁) ∧
        s₁.state.states.node? (some id) = node ∧
        s.perform advance = (some (answer.map .moved), s') ∧
        c.Advanced d value s₁.state s'.state answer := by
  intro s start advance
  have hs := (settled_after c registry archive scenes).1
  have hdrawn := drawn_after c registry archive scenes
  cases hstands : nonEmpty? (s.state.states.node? (some id)) with
  | some node =>
      have hnode := (Option.filter_eq_some_iff.mp hstands).1
      obtain ⟨d, stored, rfl⟩ := housed_after c registry archive scenes id node hnode
      obtain ⟨answer, s', hperform, advanced⟩ :=
        hs.perform_advance_standing hc (hdrawn.wellFormed stored) stored hstands value
      exact ⟨d, answer, s', stored, rfl, hperform, advanced⟩
  | none =>
      rcases require_cases hs.orderly.keyed (some id) with ⟨e, he⟩ | ⟨d, hid, stored⟩
      · refine .inl ⟨e, ?_, ?_⟩
        · exact perform_at_once (Routine.turn_map (turn_onWorkflow he _) _) hs.orderly.queue
        · exact perform_at_once (Routine.turn_map (turn_onWorkflow he _) _) hs.orderly.queue
      · obtain rfl := Option.some.inj hid
        obtain ⟨node, s₁, answer, s', hstart, hanswer, hadvance, advanced⟩ :=
          hs.perform_advance_nowhere hc (hdrawn.wellFormed stored) stored hstands value
        exact .inr ⟨d, node, s₁, answer, s', stored, rfl, hstart, hanswer, hadvance, advanced⟩

/-- A fork with an action behind one of its ways, and one more way behind that. -/
def forkText : String :=
  "Quay --> Park\nQuay --> Old Town\nnote right\n\x7b\"action\": \"greet\"\x7d\nend note\n" ++
    "Old Town --> Inn"

/-- What is read of the fork. -/
def fork : Definition where
  id := "tour"
  name := some "ImportedWorkflow"
  nodes := [⟨"Quay", some "Quay", none, none⟩, ⟨"Park", some "Park", none, none⟩,
    ⟨"Old Town", some "Old Town", some "\x7b\"action\": \"greet\"\x7d", none⟩,
    ⟨"Inn", some "Inn", none, none⟩]
  transitions := [⟨"t_0", "Quay", "Park", none⟩, ⟨"t_1", "Quay", "Old Town", none⟩,
    ⟨"t_2", "Old Town", "Inn", none⟩]
  startPoints := []

lemma stands_at_fork :
    let s := (after ⟨.working ⟨.unlimited, false⟩, Recorder.persistence⟩ greeting ⟨.empty, [], []⟩
      [.ask (.importDiagram (some forkText) (some "tour") none)]).session
    s.state.Stores fork ∧ s.state.states.node? (some "tour") = some "Quay" := by
  intro s
  have hfork : s.state.definitions.find? (some "tour") = some fork :=
    after_of_within (f := fun story => story.session.state.definitions.find? (some "tour")) 20
      (by decide +kernel)
  have hnode : s.state.states.node? (some "tour") = some "Quay" :=
    after_of_within (f := fun story => story.session.state.states.node? (some "tour")) 20
      (by decide +kernel)
  exact ⟨((settled_after _ greeting _ _).1.orderly.keyed.find?_eq_some_iff.mp hfork).2, hnode⟩

/-- An instance at a fork.  It takes one way by naming what this leads to, and goes on behind the
    action there.  It takes the other way by its place.  No third place leads on. -/
theorem advances_fork :
    let c : Controller Recorder := ⟨.working ⟨.unlimited, false⟩, Recorder.persistence⟩
    let s := (after c greeting ⟨.empty, [], []⟩
      [.ask (.importDiagram (some forkText) (some "tour") none)]).session
    let advance (value : Json) := s.perform ((Operation.advance (some "tour") value).routine c)
    c.Uninterrupted ∧ s.state.Stores fork ∧ s.state.states.node? (some "tour") = some "Quay" ∧
      (∃ s', advance (.str "Old Town") = (some (.ok (.moved true)), s') ∧
        s'.state.states.node? (some "tour") = some "Inn" ∧
        s'.state.execution.calls ≤ s.state.execution.calls + 1 ∧
        s'.state.archive = c.persistence.tell "tour" ["Old Town", "Inn"] s.state.archive) ∧
      (∃ s', advance (.int 0) = (some (.ok (.moved true)), s') ∧
        s'.state.states.node? (some "tour") = some "Park" ∧
        s'.state.archive = c.persistence.tell "tour" ["Park"] s.state.archive) ∧
      ∃ s', advance (.int 2) = (some (.ok (.moved false)), s') ∧ s'.state = s.state := by
  intro c s advance
  have hc : c.Uninterrupted := .inl (waits_of_engine rfl)
  obtain ⟨hstored, hnode⟩ : s.state.Stores fork ∧
      s.state.states.node? (some "tour") = some "Quay" := stands_at_fork
  have hrests : nonEmpty? (s.state.states.node? (some "tour")) = some "Quay" := by
    rw [hnode]
    rfl
  have hadvances (value : Json) : ∃ answer s', advance value = (some (answer.map .moved), s') ∧
      c.Advanced fork value s.state s'.state answer := by
    have h := advances c hc greeting ⟨.empty, [], []⟩
      [.ask (.importDiagram (some forkText) (some "tour") none)] "tour" value
    change match nonEmpty? (s.state.states.node? (some "tour")) with | some _ => _ | none => _ at h
    rw [hrests] at h
    obtain ⟨d, answer, s', stored, hid, hperform, advanced⟩ := h
    obtain rfl : d = fork :=
      Option.some.inj (stored.found.symm.trans ((congrArg _ hid).trans hstored.found))
    exact ⟨answer, s', hperform, advanced⟩
  refine ⟨hc, hstored, hnode, ?_, ?_, ?_⟩
  · obtain ⟨answer, s', hperform, advanced⟩ := hadvances (.str "Old Town")
    have hselects : Choice.Selects fork (fork.outgoing "Quay") (.str "Old Town")
        ⟨"t_1", "Quay", "Old Town", none⟩ := Choice.selects_iff.mpr (by decide)
    obtain ⟨rfl, hcalls, target, status?, t, entered⟩ := advanced.of_selects hrests hselects
    have hinn : s'.state.states.node? (some "tour") = some "Inn" := by
      rw [show s' = _ from (congrArg Prod.snd hperform).symm, ← session_after_ask]
      exact after_of_within (f := fun story => story.session.state.states.node? (some "tour")) 20
        (by decide +kernel)
    have honward : onward fork "Old Town" status? = some "Inn" := by
      have hstands := entered.stands.symm.trans hinn
      cases h : onward fork "Old Town" status? with
      | none => simp [h] at hstands
      | some node => simpa [h] using hstands
    have harchive := entered.archive
    rw [honward] at harchive
    exact ⟨s', hperform, hinn, hcalls, harchive⟩
  · obtain ⟨answer, s', hperform, advanced⟩ := hadvances (.int 0)
    have hselects : Choice.Selects fork (fork.outgoing "Quay") (.int 0)
        ⟨"t_0", "Quay", "Park", none⟩ := Choice.selects_iff.mpr (by decide)
    obtain ⟨rfl, -, target, status?, t, entered⟩ := advanced.of_selects hrests hselects
    have honward : onward fork "Park" status? = none := by
      rw [onward]
      split <;> rfl
    have hstands := entered.stands
    have harchive := entered.archive
    rw [honward] at hstands harchive
    exact ⟨s', hperform, hstands, harchive⟩
  · obtain ⟨answer, s', hperform, advanced⟩ := hadvances (.int 2)
    have hnothing := Choice.selects_nothing_iff.mpr
      (show Choice.select fork (fork.outgoing "Quay") (.int 2) = none by decide)
    obtain ⟨rfl, hstays⟩ := advanced.of_nothing hrests hnothing (by decide +kernel)
    exact ⟨s', hperform, hstays⟩

/-- **A number of 4301 digits gets no answer**, although it selects nothing at the fork. -/
theorem no_answer_to_long_number :
    let c : Controller Recorder := ⟨.working ⟨.unlimited, false⟩, Recorder.persistence⟩
    let s := (after c greeting ⟨.empty, [], []⟩
      [.ask (.importDiagram (some forkText) (some "tour") none)]).session
    let value : Json := .int (10 ^ Text.maxDigits)
    (∀ way, ¬ Choice.Selects fork (fork.outgoing "Quay") value way) ∧
      ∃ s', s.perform ((Operation.advance (some "tour") value).routine c) =
        (some (.error (.text .tooManyDigits)), s') ∧ s'.state = s.state := by
  intro c s value
  have hs : Settled c s := (settled_after c greeting _ _).1
  have hc : c.Uninterrupted := .inl (waits_of_engine rfl)
  obtain ⟨hstored, hnode⟩ : s.state.Stores fork ∧
      s.state.states.node? (some "tour") = some "Quay" := stands_at_fork
  have hrests : nonEmpty? (s.state.states.node? (some "tour")) = some "Quay" := by
    rw [hnode]
    rfl
  have hnothing := Choice.selects_nothing_iff.mpr
    (show Choice.select fork (fork.outgoing "Quay") value = none by decide +kernel)
  have hunshown : value.checkText = .error .tooManyDigits := by decide +kernel
  obtain ⟨answer, s', hperform, advanced⟩ := hs.perform_advance_standing hc
    ((drawn_after c greeting _ _).wellFormed hstored) hstored hrests value
  obtain ⟨rfl, hstays⟩ := advanced.of_unshown hrests hnothing hunshown
  exact ⟨hnothing, s', hperform, hstays⟩

end Story

end ActivityFlow
