import ActivityFlow.Action.State
import ActivityFlow.Routine

/-!
# How the work of a handler ends

* `Behaviour.drive` — the work of a handler under the eyes of its caller, up to its ending.
* `Behaviour.unwind` — the work of a handler that was stopped.
* `Ending` — the ending as the caller sees it.  The ending of a stopped handler is that it was
  stopped, whatever the handler made of it.

Both follow the behaviour by plain recursion, with the watch carried along.
-/

namespace ActivityFlow

/-- How the work of a handler ended, as its caller sees it. -/
inductive Ending where
  | returned (value : Json)
  | failed (message : Message)
  | gaveUp
  | stopped
  | suspended

/-- The caller looks after some turns, behind all others if it is late. -/
def lookAfter (turns : Nat) (late : Bool) : Routine ExecutionState Unit := do
  Routine.pauses turns
  if late then .giveWay (.done ()) else .done ()

/-- The caller sees the ending when it looks. -/
def Ending.seen (ending : Ending) (w : Watch) : Routine ExecutionState Ending := do
  lookAfter w.turnsToNotice w.looksLate
  return ending

/-- The caller sees that the handler has stopped. -/
def Ending.seenStopped : Routine ExecutionState Ending := do
  lookAfter 2 false
  return stopped

namespace Behaviour

/-- What a stopped handler still does.  Its event is set, its ending no longer matters, and if it
waits once more nobody will stop it. -/
def unwind (workflow : String) : Behaviour → Routine ExecutionState Ending
  | finish _ | fail _ | giveUp => Ending.seenStopped
  | read key default next =>
    .step (ExecutionState.readVariable workflow key default) fun value =>
      unwind workflow (next value)
  | write key value next =>
    .step (ExecutionState.writeVariable workflow key value) fun refusal =>
      unwind workflow (next refusal)
  | use operation next =>
    .step (ExecutionState.useVariables workflow operation) fun answer =>
      unwind workflow (next answer)
  | list next =>
    .step (ExecutionState.listVariables workflow) fun entries => unwind workflow (next entries)
  | report event next => .step (ExecutionState.report event) fun _ => unwind workflow next
  | look next => unwind workflow (next true)
  | signal next => unwind workflow next
  | pause resumed _ => .pause (unwind workflow resumed)
  | wait _ => .done .suspended

/-- What a handler does under the eyes of its caller. -/
def drive (workflow : String) : Behaviour → Watch → Routine ExecutionState Ending
  | finish value, w => (Ending.returned value).seen w
  | fail message, w => (Ending.failed message).seen w
  | giveUp, w => Ending.gaveUp.seen w
  | read key default next, w =>
    .step (ExecutionState.readVariable workflow key default) fun value =>
      drive workflow (next value) w
  | write key value next, w =>
    .step (ExecutionState.writeVariable workflow key value) fun refusal =>
      drive workflow (next refusal) w
  | use operation next, w =>
    .step (ExecutionState.useVariables workflow operation) fun answer =>
      drive workflow (next answer) w
  | list next, w =>
    .step (ExecutionState.listVariables workflow) fun entries => drive workflow (next entries) w
  | report event next, w => .step (ExecutionState.report event) fun _ => drive workflow next w
  | look next, w => drive workflow (next w.signalled) w
  | signal next, w => drive workflow next w.signal
  | pause resumed stopped, w => .pause <|
    if w.isLastTurn then unwind workflow stopped else drive workflow resumed w.afterTurn
  | wait stopped, w => match w.grace with
    | some g => do
      lookAfter g.look g.late
      Routine.pauses 1
      unwind workflow stopped
    | none => match w.alarm with
      | some alarm => .wait alarm.time w.number do
        Routine.pauses alarm.turns
        unwind workflow stopped
      | none => .done .suspended

end Behaviour

end ActivityFlow
