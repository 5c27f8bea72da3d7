import ActivityFlow.Action.Descriptor
import ActivityFlow.Action.Ending
import ActivityFlow.Action.Template
import ActivityFlow.Session

/-!
# Executing the action of a node

The action of a node is executed in five steps: read the descriptor, find the registration, fill
the parameters from the variables of the instance, let the handler work, and merge what it returns
into the variables.

* `execute` — all five, with the outcome of the attempt.
* `ScheduledCall.run` — the last two, for a call whose parameters are filled.
* `ScheduledCall.conclude` — what becomes of the ending of a handler.  **Only a handler that ran to
  its end has its result merged.**
* `Options.drain` — wait for the calls in the background.
-/

namespace ActivityFlow

/-! ## Outcomes -/

/-- What came of an attempt to execute an action. -/
inductive Status where
  /-- There was nothing to execute. -/
  | skipped
  | completed
  | failed
  | cancelled
  /-- The handler will work in the background. -/
  | scheduled
  /-- The handler waits for something that never comes. -/
  | suspended
  deriving DecidableEq, Repr

/-- The report on an attempt to execute an action. -/
structure Outcome where
  workflow : Option String
  node : String
  action : Option String
  status : Status
  params : List (String × String)
  /-- What was merged into the variables. -/
  updates : List (String × String)
  error : Option String
  /-- Whether the search for the handler began. -/
  started : Bool
  deriving DecidableEq, Repr

/-- Whether a handler ran to its end or will run in the background. -/
def Outcome.executed (o : Outcome) : Bool :=
  o.status = .completed || o.status = .scheduled

/-! ## The steps -/

/-- Why there is no outcome of an attempt to execute an action. -/
inductive ExecutionError where
  | state (cause : StateError)
  | text (cause : Json.TextError)
  deriving DecidableEq, Repr

/-- The texts that a returned value gives to variables; only an object gives any.  Of several fields
with one name the last counts, in the place of the first. -/
def updatesOf : Json → List (String × String)
  | .obj fields =>
    (KeyedMap.ofList (fields.map fun field => (field.1, field.2.display)) :
      OrderedMap String String).entries
  | _ => []

/-- The same, if what is given can be shown. -/
def updatesOf? (value : Json) : Except Json.TextError (List (String × String)) := do
  if value.isObject then value.checkText
  return updatesOf value

namespace ScheduledCall

/-- The report on a call whose handler was looked for. -/
def outcome (c : ScheduledCall) (status : Status) : Outcome where
  workflow := some c.call.workflow
  node := c.call.node.id
  action := some c.action
  status := status
  params := c.call.params
  updates := []
  error := none
  started := true

/-- The report on a call whose handler, or whose search for one, failed. -/
def failed (c : ScheduledCall) (message : Message) : Except Json.TextError Outcome :=
  message.map fun text => { c.outcome .failed with error := some text }

/-- What becomes of an ending. -/
def conclude (c : ScheduledCall) : Ending → Routine ExecutionState (Except Json.TextError Outcome)
  | .returned value => match updatesOf? value with
    | .error e => return .error e
    | .ok updates => do
      Routine.modify (ExecutionState.merge c.call.workflow updates)
      return .ok { c.outcome .completed with updates := updates }
  | .failed message => return c.failed message
  | .gaveUp | .stopped => return .ok { c.outcome .cancelled with error := some "cancelled" }
  | .suspended => return .ok (c.outcome .suspended)

/-- Find the handler of a call and let it work.  It starts one turn later. -/
def run (c : ScheduledCall) : Routine ExecutionState (Except Json.TextError Outcome) := do
  match ← Routine.update (ExecutionState.resolve c.action c.call.workflow) with
  | .error message => return c.failed message
  | .ok none => return .ok (c.outcome .skipped)
  | .ok (some handler) => do
    let watch := Watch.start (← Routine.update ExecutionState.countCall) c.event c.limit
    Routine.pauses 1
    c.conclude (← (handler.behaviour c.call).drive c.call.workflow watch)

end ScheduledCall

/-- How actions are executed. -/
structure Options where
  limit : Limit
  background : Bool
  deriving DecidableEq, Repr

/-- A request to execute the action of a node. -/
structure Request where
  workflow : Option String
  node : Option Node
  event : CancelEvent
  /-- The time limit of this call; without one that of the options holds. -/
  limit : Option Limit

namespace Request

/-- The node with its descriptor, if there is a node and it has one. -/
def descriptor? (q : Request) : Option (Node × Descriptor) :=
  q.node.bind fun node => (Descriptor.ofNode? node).map fun descriptor => (node, descriptor)

/-- The report on a request without a handler. -/
def skipped (q : Request) (action : Option String) : Outcome where
  workflow := q.workflow
  node := (q.node.map (·.id)).getD ""
  action := action
  status := .skipped
  params := []
  updates := []
  error := none
  started := false

end Request

/-- Execute the action of a node that has one, for an instance with the given variables. -/
def dispatch (options : Options) (q : Request) (workflow : String) (node : Node)
    (descriptor : Descriptor) (bag : VariableBag) :
    Routine ExecutionState (Except Json.TextError Outcome) :=
  match Template.fillAll? bag.get? descriptor.params with
  | .error e => return .error e
  | .ok params => do
    let c : ScheduledCall := {
      call := ⟨workflow, node, params⟩
      action := descriptor.action
      event := q.event
      limit := q.limit.getD options.limit }
    if options.background then
      Routine.modify fun s => { s with queue := s.queue ++ [c] }
      return .ok { c.outcome .scheduled with started := false }
    else c.run

/-- **Execute the action of a node.**  There is no outcome if there is a handler to call but no
usable id of a workflow, or if something has no text that should have one: the value of a variable to
which a parameter refers, what the handler returned, or the error with which the handler or its maker
failed. -/
def execute (options : Options) (q : Request) :
    Routine ExecutionState (Except ExecutionError Outcome) :=
  match q.descriptor? with
  | none => return .ok (q.skipped none)
  | some (node, descriptor) => do
    let s ← Routine.get
    if s.registry.contains descriptor.action then
      match InstanceStates.usableId q.workflow with
      | .error refusal => return .error (.state refusal)
      | .ok workflow => do
        let bag ← Routine.update (ExecutionState.bagOf workflow)
        return (← dispatch options q workflow node descriptor bag).mapError .text
    else return .ok (q.skipped (some descriptor.action))

/-! ## The background -/

/-- The calls in the background are work for the company. -/
instance : Employer ExecutionState where
  hire s := (s.queue.map fun c => discard c.run, { s with queue := [] })

/-- Wait until the calls in the background have ended.  Without a background there is nothing to
wait for. -/
def Options.drain {σ : Type} (options : Options) (s : Session σ) : Session σ :=
  if options.background then s.finish else s

end ActivityFlow
