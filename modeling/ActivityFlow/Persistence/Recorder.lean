import ActivityFlow.OrderedMap
import ActivityFlow.Persistence.Interface

/-!
# A persistence that records

It keeps the current nodes in memory and records every call.  Calls of chosen kinds fail, after
they have been recorded.  A checkpoint is recorded by its size only, and its current node is not
kept.
-/

namespace ActivityFlow

/-- The kinds of calls. -/
inductive CallKind where
  | load
  | update
  | create
  deriving DecidableEq, Repr

/-- A call as it is recorded. -/
inductive RecordedCall where
  | load (id : String)
  | update (id : String) (node : Option String)
  | create (id : String) (name : Option String) (nodes : Nat) (current : Option String)
  deriving DecidableEq, Repr

/-- A persistence that records. -/
structure Recorder where
  current : OrderedMap String (Option String)
  /-- The kinds of calls that fail. -/
  failing : List CallKind
  /-- The calls so far, in order. -/
  calls : List RecordedCall

namespace Recorder

/-- Record a call, and answer it unless calls of its kind fail. -/
def answer {α : Type} (r : Recorder) (kind : CallKind) (call : RecordedCall)
    (reply : Recorder → α × Recorder) : Except PersistenceError α × Recorder :=
  let r := { r with calls := r.calls ++ [call] }
  if kind ∈ r.failing then (.error .unreachable, r)
  else
    let (value, r) := reply r
    (.ok value, r)

/-- The recorder as a persistence; it answers at once. -/
def persistence : Persistence Recorder where
  loading := fun id => Routine.update fun r =>
    r.answer .load (.load id) fun r => ((r.current.get? id).join, r)
  updating := fun id node => Routine.update fun r => r.answer .update (.update id node) fun r =>
    ((), { r with current := r.current.put id node })
  creating := fun s => Routine.update fun r =>
    let call := .create s.definition.id s.definition.name s.definition.nodes.length s.current
    r.answer .create call fun r => ((), r)

theorem load_eq (id : String) (r : Recorder) : persistence.load id r =
    r.answer .load (.load id) fun r => ((r.current.get? id).join, r) := rfl

theorem update_eq (id : String) (node : Option String) (r : Recorder) :
    persistence.update id node r = r.answer .update (.update id node) fun r =>
      ((), { r with current := r.current.put id node }) := rfl

theorem create_eq (s : Checkpoint) (r : Recorder) : persistence.create s r =
    r.answer .create (.create s.definition.id s.definition.name s.definition.nodes.length s.current)
      fun r => ((), r) := rfl

end Recorder

end ActivityFlow
