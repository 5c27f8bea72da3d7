import ActivityFlow.Graph.Snapshot
import ActivityFlow.Routine
import ActivityFlow.Text.Encoding

/-!
# Persistence

Somebody outside may keep definitions and the nodes that instances stand on, so that a later
process can resume where an earlier one stopped.  A persistence is known by three calls on a state
of its own.  Each of them may fail, and each may take its time: while a call pauses, others go on.

* `Persistence` — the three calls, as routines.
* `Persistence.load`, `Persistence.update`, `Persistence.create` — what a call answers and leaves
  behind, if nobody else works on the state meanwhile.
* `Persistence.none` — nobody keeps anything.
* `Persistence.unimplemented` — every call fails.
-/

namespace ActivityFlow

/-- A definition with the node its instance stands on. -/
structure Checkpoint where
  definition : Definition
  current : Option String
  deriving DecidableEq, Repr

/-- The fields of a checkpoint: those of the definition, and then the current node. -/
def Checkpoint.toFields (s : Checkpoint) : List (String × Json) :=
  s.definition.toFields ++ [("current_node_id", .ofOption s.current)]

/-- Why a call of a persistence fails. -/
inductive PersistenceError where
  | notConnected
  /-- The other side does not answer. -/
  | unreachable
  /-- A checkpoint does not say which workflow it is of. -/
  | missingId
  /-- The bytes that are stored are no text. -/
  | undecodable (cause : Text.DecodeError)
  /-- The text that is stored cannot be read as JSON. -/
  | unreadable (cause : Json.ReadError)
  | unimplemented
  deriving DecidableEq, Repr

/-- The message of an error. -/
def PersistenceError.message : PersistenceError → String
  | notConnected => "Not connected to Redis, call connect() first"
  | unreachable => "down"
  | missingId => "snapshot has no workflow id"
  | undecodable cause => cause.message
  | unreadable cause => cause.message
  | unimplemented => ""

/-- A persistence with states in `π`. -/
structure Persistence (π : Type) where
  /-- Ask for the node that is kept for a workflow. -/
  loading : String → Routine π (Except PersistenceError (Option String))
  /-- Keep a node for a workflow, or no longer keep one. -/
  updating : String → Option String → Routine π (Except PersistenceError Unit)
  /-- Keep a checkpoint. -/
  creating : Checkpoint → Routine π (Except PersistenceError Unit)

namespace Persistence

variable {π : Type}

/-- The node that is kept for a workflow. -/
def load (p : Persistence π) (id : String) : π → Except PersistenceError (Option String) × π :=
  (p.loading id).run

/-- Keep a node for a workflow, or no longer keep one. -/
def update (p : Persistence π) (id : String) (node : Option String) :
    π → Except PersistenceError Unit × π :=
  (p.updating id node).run

/-- Keep a checkpoint. -/
def create (p : Persistence π) (c : Checkpoint) : π → Except PersistenceError Unit × π :=
  (p.creating c).run

/-- Nobody keeps anything. -/
def none : Persistence Unit where
  loading := fun _ => pure (.ok Option.none)
  updating := fun _ _ => pure (.ok ())
  creating := fun _ => pure (.ok ())

/-- Every call fails. -/
def unimplemented : Persistence Unit where
  loading := fun _ => pure (.error .unimplemented)
  updating := fun _ _ => pure (.error .unimplemented)
  creating := fun _ => pure (.error .unimplemented)

end Persistence

end ActivityFlow
