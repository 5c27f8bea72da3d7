import ActivityFlow.Controller.Choice
import ActivityFlow.Controller.World

/-!
# The controller

The operations by which workflows are imported, started and advanced.

* `importDiagram` — read a diagram, store its definition, and start its instance.
* `start` — resume an instance where it stands, or where the persistence knows it to stand, or else
  begin at the beginning.
* `restart` — begin at the beginning, without variables.
* `advance` — move along the transition that a value chooses.

**Entering a node.**  Whenever an instance comes to a node, the action of the node is executed, and
if it completes and there is exactly one way on, the instance takes it.  It takes one such step
only; the action of the node behind is not executed.

**Beginning.**  A bare entry marker is passed over, so an instance may begin at the node behind the
declared one.  The declared node then still has its action executed, first of all.

**The persistence is a courtesy.**  It is told of every move, but its failures change nothing.  Its
calls are waited for, though, and others may have their turn meanwhile.
-/

namespace ActivityFlow

/-- Who executes the actions of nodes. -/
inductive Engine where
  | working (options : Options)
  /-- An engine that fails whatever it is asked. -/
  | broken
  deriving DecidableEq, Repr

/-- A controller: who executes actions, and who keeps the current nodes. -/
structure Controller (π : Type) where
  engine : Engine
  persistence : Persistence π

namespace Controller

variable {π : Type}

/-! ## The persistence -/

/-- The node that the persistence knows an instance to stand on, if it answers. -/
def loadNode (c : Controller π) (id : String) : Routine (World π) (Option String) := do
  let answer ← Routine.zoom World.archive World.withArchive (c.persistence.loading id)
  return answer.toOption.join

/-- Tell the persistence where an instance stands. -/
def persistNode (c : Controller π) (id : String) (node : Option String) : Routine (World π) Unit :=
  discard (Routine.zoom World.archive World.withArchive (c.persistence.updating id node))

/-- Tell the persistence of a definition, and of the node that its instance stands on now. -/
def persistDefinition (c : Controller π) (d : Definition) : Routine (World π) Unit := do
  let w ← Routine.get
  discard <| Routine.zoom World.archive World.withArchive <|
    c.persistence.creating ⟨d, w.states.node? (some d.id)⟩

/-! ## Nodes -/

/-- Execute an action; answers whether it completed. -/
def perform (c : Controller π) (d : Definition) (node : Node) : Routine (World π) Bool :=
  match c.engine with
  | .broken => pure false
  | .working options => do
    let request : Request := ⟨some d.id, some node, .absent, none⟩
    match ← Routine.zoom World.execution World.withExecution (execute options request) with
    | .ok outcome => return outcome.status = .completed
    | .error _ => return false

/-- Execute the action of a node of a definition; answers whether it completed. -/
def performAt (c : Controller π) (d : Definition) (node : String) : Routine (World π) Bool :=
  match d.node? node with
  | some node => c.perform d node
  | none => pure false

/-- Move an instance to a node. -/
def moveTo (c : Controller π) (id node : String) : Routine (World π) Unit := do
  Routine.modify (World.place id (some node))
  c.persistNode id (some node)

/-- Enter a node: execute its action, and go on behind it if that completed and there is one way
on.  Answers where the instance stands then. -/
def enterNode (c : Controller π) (d : Definition) (node : String) : Routine (World π) String := do
  if ← c.performAt d node then
    match Choice.only (d.outgoing node) with
    | some way =>
      c.moveTo d.id way.target
      return way.target
    | none => return node
  else return node

/-! ## Beginning and resuming -/

/-- The declared beginning, if it was passed over and has metadata of its own. -/
def passedOver? (d : Definition) : Option String :=
  d.declaredStart?.filter fun declared =>
    some declared ≠ d.start? &&
      (d.node? declared).any fun node => (nonEmpty? node.metadata).isSome

/-- Execute the action of a declared beginning that was passed over. -/
def performPassedOver (c : Controller π) (d : Definition) : Routine (World π) Unit :=
  match passedOver? d with
  | some declared => discard (c.performAt d declared)
  | none => pure ()

/-- Begin at the beginning. -/
def enterStart (c : Controller π) (d : Definition) : Routine (World π) (Option String) := do
  Routine.modify (World.place d.id d.start?)
  c.persistNode d.id d.start?
  c.performPassedOver d
  match nonEmpty? d.start? with
  | some node => return some (← c.enterNode d node)
  | none => return d.start?

/-- A node, if it has a name and belongs to a definition. -/
def knownNode (d : Definition) (node : Option String) : Option String :=
  (nonEmpty? node).filter d.hasNode

/-- Resume the instance of a definition, or let it begin. -/
def resume (c : Controller π) (id : String) (d : Definition) :
    Routine (World π) (Option String) := do
  let w ← Routine.get
  match knownNode d (w.states.node? (some id)) with
  | some node => return some node
  | none =>
    match knownNode d (← c.loadNode id) with
    | some node =>
      Routine.modify (World.place id (some node))
      return some node
    | none => c.enterStart d

/-! ## Operations -/

/-- An operation on a workflow that has to be stored. -/
def onWorkflow {α : Type} (id : Option String)
    (body : String → Definition → Routine (World π) (Except ControllerError α)) :
    Routine (World π) (Except ControllerError α) := do
  let w ← Routine.get
  match w.require id with
  | .error e => return .error e
  | .ok (id, d) => body id d

/-- **Start the instance of a workflow**; answers where it stands then. -/
def start (c : Controller π) (id : Option String) :
    Routine (World π) (Except ControllerError (Option String)) :=
  onWorkflow id fun id d => Except.ok <$> c.resume id d

/-- **Start the instance of a workflow anew**; answers where it stands then. -/
def restart (c : Controller π) (id : Option String) :
    Routine (World π) (Except ControllerError (Option String)) :=
  onWorkflow id fun id d => do
    Routine.modify (World.forget id)
    Except.ok <$> c.enterStart d

/-- **Import a diagram**: read it, store its definition, start its instance, and tell the
persistence. -/
def importDiagram (c : Controller π) (text id name : Option String) :
    Routine (World π) (Except ControllerError Definition) := do
  match ← Routine.update (World.readDiagram text id name) with
  | .error e => return .error e
  | .ok d =>
    Routine.modify (World.storeDefinition d)
    match ← c.start (some d.id) with
    | .error e => return .error e
    | .ok _ =>
      c.persistDefinition d
      return .ok d

/-- Move an instance from its node along the transition that a value chooses; answers whether one
was chosen.  A value that chose nothing is shown to the journal of the controller, which fails if it
has no text. -/
def follow (c : Controller π) (id : String) (d : Definition) (node : String) (value : Json) :
    Routine (World π) (Except ControllerError Bool) := do
  match Choice.select d (d.outgoing node) value with
  | none => return (value.checkText.mapError .text).map fun _ => false
  | some way =>
    c.moveTo id way.target
    discard (c.enterNode d way.target)
    return .ok true

/-- **Advance the instance of a workflow**; answers whether it moved.  An instance that stands
nowhere is started first. -/
def advance (c : Controller π) (id : Option String) (value : Json) :
    Routine (World π) (Except ControllerError Bool) :=
  onWorkflow id fun id d => do
    let w ← Routine.get
    match nonEmpty? (w.states.node? (some id)) with
    | some node => c.follow id d node value
    | none =>
      match nonEmpty? (← c.resume id d) with
      | some node => c.follow id d node value
      | none => return .ok false

/-! ## Sessions of operations -/

/-- Import a diagram under several ids at the same time; answers where the instances stand when all
imports have ended.  When one fails, the others are left to the company. -/
def importMany (c : Controller π) (text : Option String) (ids : List (Option String))
    (s : Session (World π)) :
    Except ControllerError (List (String × Option String)) × Session (World π) :=
  let (found, s) := s.gather (ids.map fun id => c.importDiagram text id none)
  (found.map fun ds => ds.map fun d => (d.id, s.state.states.node? (some d.id)), s)

/-- Wait until the calls in the background have ended. -/
def drain (c : Controller π) (s : Session (World π)) : Session (World π) :=
  match c.engine with
  | .working options => options.drain s
  | .broken => s

end Controller

end ActivityFlow
