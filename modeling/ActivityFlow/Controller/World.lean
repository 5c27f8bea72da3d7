import ActivityFlow.Action.Execution
import ActivityFlow.Diagram.Reading
import ActivityFlow.Graph.Prompt
import ActivityFlow.Graph.Store
import ActivityFlow.Persistence.Interface

/-!
# The world of a controller

All that a controller reads and writes: the stored definitions, the state that actions work on
with its instances, the state of the persistence, and the supply of ids.

* `World.require` — the definition of a workflow, checked before any operation on it.  The id is
  looked at first, and then the store.
* `World.prompt`, `World.nodeOf`, `World.variablesOf` — the questions that a controller answers.
-/

namespace ActivityFlow

open Diagram

/-- Why an operation of a controller is refused. -/
inductive ControllerError where
  | diagram (cause : DiagramError)
  | state (cause : StateError)
  | store (cause : StoreError)
  | text (cause : Json.TextError)
  deriving DecidableEq, Repr

/-- The message of an error. -/
def ControllerError.message : ControllerError → String
  | diagram cause => cause.message
  | state cause => cause.message
  | store cause => cause.message
  | text cause => cause.message

/-- What a controller works on; `π` holds the states of its persistence. -/
structure World (π : Type) where
  definitions : DefinitionStore
  execution : ExecutionState
  archive : π
  supply : IdSupply

namespace World

variable {π : Type}

/-- The world before anything happened. -/
def start (archive : π) : World π :=
  ⟨.empty, .empty, archive, {}⟩

/-- The states of the instances. -/
def states (w : World π) : InstanceStates :=
  w.execution.states

/-- The world with other states of the instances. -/
def withStates (w : World π) (states : InstanceStates) : World π :=
  { w with execution := { w.execution with states := states } }

/-- The world with another state for actions to work on. -/
def withExecution (execution : ExecutionState) (w : World π) : World π :=
  { w with execution := execution }

/-- The world with another state of the persistence. -/
def withArchive (archive : π) (w : World π) : World π :=
  { w with archive := archive }

/-- The definition of a workflow, with the id that was found usable. -/
def require (w : World π) (id : Option String) :
    Except ControllerError (String × Definition) := do
  let usable ← (InstanceStates.usableId id).mapError .state
  let d ← (w.definitions.require id).mapError .store
  return (usable, d)

/-- What the current node of an instance shows. -/
def prompt (w : World π) (id : Option String) : Except ControllerError Prompt := do
  let (id, d) ← w.require id
  return d.prompt (w.states.node? (some id))

/-- The current node of an instance. -/
def nodeOf (w : World π) (id : Option String) : Except ControllerError (Option String) := do
  let (id, _) ← w.require id
  return w.states.node? (some id)

/-- The variables of an instance, which comes into being if it was not there. -/
def variablesOf (w : World π) (id : Option String) :
    Except ControllerError VariableBag × World π :=
  match w.require id with
  | .error e => (.error e, w)
  | .ok (id, _) =>
    let state := w.states.stateOf id
    (.ok state.bag, w.withStates (w.states.put id state))

/-- Read a diagram; a definition without an id takes one from the supply. -/
def readDiagram (text id name : Option String) (w : World π) :
    Except ControllerError Definition × World π :=
  let (answer, supply) := Diagram.read text id name w.supply
  ((answer.map (·.definition)).mapError .diagram, { w with supply := supply })

/-- Store a definition. -/
def storeDefinition (d : Definition) (w : World π) : World π :=
  { w with definitions := w.definitions.store d }

/-- Place an instance on a node, or on none. -/
def place (id : String) (node : Option String) (w : World π) : World π :=
  w.withStates (w.states.place id node)

/-- Forget the state of an instance. -/
def forget (id : String) (w : World π) : World π :=
  w.withStates (w.states.clear (some id))

/-- The calls in the background are work for the company. -/
instance : Employer (World π) where
  hire w :=
    let (newcomers, rest) := Employer.hire w.execution
    (newcomers.map (Routine.zoom execution withExecution), w.withExecution rest)

end World

end ActivityFlow
