import ActivityFlow.Action.Registry
import ActivityFlow.Action.Watch

/-!
# The state that actions work on

Handlers of all instances share one state: the instances with their variables, the registry, the
journal of what was reported, and the queue of calls that wait in the background.

`ExecutionState` is that state.  Its operations are what a handler and its caller can do to it; none
of them moves an instance from its node.
-/

namespace ActivityFlow

/-- A call that waits in the background. -/
structure ScheduledCall where
  call : Call
  action : String
  event : CancelEvent
  limit : Limit

/-- What the execution of actions reads and writes. -/
structure ExecutionState where
  states : InstanceStates
  registry : Registry
  /-- What handlers reported, in order. -/
  journal : List Event
  /-- The calls in the background, in the order in which they were scheduled. -/
  queue : List ScheduledCall
  /-- How many calls have found their handler so far. -/
  calls : Nat

namespace ExecutionState

/-- The state before anything happened. -/
def empty : ExecutionState :=
  ⟨.empty, .empty, [], [], 0⟩

instance : Inhabited ExecutionState := ⟨empty⟩

/-- Add a report. -/
def report (event : Event) (s : ExecutionState) : Unit × ExecutionState :=
  ((), { s with journal := s.journal ++ [event] })

/-- The variables of an instance, which comes into being if it was not there. -/
def bagOf (workflow : String) (s : ExecutionState) : VariableBag × ExecutionState :=
  let state := s.states.stateOf workflow
  (state.bag, { s with states := s.states.put workflow state })

/-- The value of a variable, or a default. -/
def readVariable (workflow key : String) (default : Json) (s : ExecutionState) :
    Json × ExecutionState :=
  let (bag, s) := s.bagOf workflow
  (bag.getD key default, s)

/-- Write a variable, unless its name is blank. -/
def writeVariable (workflow key : String) (value : Json) (s : ExecutionState) :
    Option StateError × ExecutionState :=
  match s.states.setVariable (some workflow) (some key) value with
  | .ok states => (none, { s with states := states })
  | .error refusal => (some refusal, s)

/-- Do something with the variables of an instance.  What was done before a failure stays done. -/
def useVariables (workflow : String) (operation : BagOperation) (s : ExecutionState) :
    Except VariableBag.BagError (Option Json) × ExecutionState :=
  let (bag, s) := s.bagOf workflow
  (answerOf operation.program bag,
    { s with states := s.states.putVariables workflow (leftBy operation.program bag) })

/-- The variables of an instance in order. -/
def listVariables (workflow : String) (s : ExecutionState) :
    List (String × Json) × ExecutionState :=
  let (bag, s) := s.bagOf workflow
  (bag.entries, s)

/-- The handler for an action, with the reports of its maker in the journal. -/
def resolve (action workflow : String) (s : ExecutionState) :
    Except Message (Option Handler) × ExecutionState :=
  let (resolution, registry) := s.registry.resolve action (some workflow)
  (resolution.handler, { s with registry := registry, journal := s.journal ++ resolution.events })

/-- The number of the next call, which is counted. -/
def countCall (s : ExecutionState) : Nat × ExecutionState :=
  (s.calls, { s with calls := s.calls + 1 })

/-- Merge texts into the variables of an instance; blank names are passed over, and without any
text not even the instance comes into being. -/
def merge (workflow : String) (updates : List (String × String)) (s : ExecutionState) :
    ExecutionState :=
  if updates.isEmpty then s
  else
    match s.states.setVariables (some workflow)
        (updates.map fun update => (some update.1, .str update.2)) with
    | .ok states => { s with states := states }
    | .error _ => s

end ExecutionState

end ActivityFlow
