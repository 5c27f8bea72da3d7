import ActivityFlow.Instance.Variables
import ActivityFlow.Text.Blank

/-!
# The states of running instances

An instance is known by the id of its workflow.  Its state is the node it stands on, if any, and its
variables.  An instance comes into being on the first operation that needs it and is listed from
then on, until it is cleared.

* `InstanceStates` — the states, in the order in which the instances came into being.
* `setNode`, `setVariable`, `setVariables`, `bagOf` — these need a usable id: one that is neither
  missing nor blank.  They check it first, so a refused operation leaves everything as it was.
* `node?`, `state?`, `clearNode`, `clear` — these accept any id and find nothing under an unusable
  one.
-/

namespace ActivityFlow

/-- The state of one instance. -/
structure InstanceState where
  node : Option String
  bag : VariableBag

/-- The state of an instance that just came into being. -/
def InstanceState.fresh : InstanceState :=
  ⟨none, .empty⟩

/-- The states of all instances. -/
abbrev InstanceStates := OrderedMap String InstanceState

/-- Why an operation on instances is refused. -/
inductive StateError where
  | missingId
  | missingKey
  deriving DecidableEq, Repr

/-- The message of an error. -/
def StateError.message : StateError → String
  | missingId => "workflow_id is required"
  | missingKey => "variable key is required"

namespace InstanceStates

/-- A usable id: present and not blank. -/
def usableId (id : Option String) : Except StateError String :=
  match id with
  | some id => if Text.blank id then .error .missingId else .ok id
  | none => .error .missingId

/-- The state of an instance. -/
def state? (states : InstanceStates) (id : Option String) : Option InstanceState :=
  id.bind states.get?

/-- The state of an instance, a fresh one if there is none. -/
def stateOf (states : InstanceStates) (id : String) : InstanceState :=
  (states.get? id).getD .fresh

/-- The node an instance stands on. -/
def node? (states : InstanceStates) (id : Option String) : Option String :=
  if Text.blank? id then none else (states.state? id).bind (·.node)

/-- Place an instance on a node, or on none. -/
def place (states : InstanceStates) (id : String) (node : Option String) : InstanceStates :=
  states.put id { states.stateOf id with node := node }

/-- Replace the variables of an instance. -/
def putVariables (states : InstanceStates) (id : String) (bag : VariableBag) : InstanceStates :=
  states.put id { states.stateOf id with bag := bag }

/-- Place an instance on a node, or on none, if the id is usable. -/
def setNode (states : InstanceStates) (id node : Option String) :
    Except StateError InstanceStates := do
  return states.place (← usableId id) node

/-- Take an instance from its node. -/
def clearNode (states : InstanceStates) (id : Option String) : InstanceStates :=
  match id, states.state? id with
  | some id, some state => states.put id { state with node := none }
  | _, _ => states

/-- The variables of an instance, which comes into being now if it was not there. -/
def bagOf (states : InstanceStates) (id : Option String) :
    Except StateError (VariableBag × InstanceStates) := do
  let id ← usableId id
  let state := states.stateOf id
  return (state.bag, states.put id state)

/-- Write a variable of an instance. -/
def setVariable (states : InstanceStates) (id key : Option String) (value : Json) :
    Except StateError InstanceStates := do
  let id ← usableId id
  match key with
  | some key =>
    if Text.blank key then throw .missingKey
    else return states.putVariables id ((states.stateOf id).bag.put key value)
  | none => throw .missingKey

/-- The pairs whose key can name a variable. -/
def namedPairs (pairs : List (Option String × Json)) : List (String × Json) :=
  pairs.filterMap fun pair => match pair.1 with
    | some key => if Text.blank key then none else some (key, pair.2)
    | none => none

/-- Write several variables of an instance; pairs without a usable key are passed over. -/
def setVariables (states : InstanceStates) (id : Option String)
    (pairs : List (Option String × Json)) : Except StateError InstanceStates := do
  let id ← usableId id
  return states.putVariables id ((states.stateOf id).bag.putAll (namedPairs pairs))

/-- Forget an instance. -/
def clear (states : InstanceStates) (id : Option String) : InstanceStates :=
  match id with
  | some id => states.erase id
  | none => states

/-- The ids of the instances in order. -/
def ids (states : InstanceStates) : List String :=
  states.keys

/-- A usable id is the given one, and it is not blank. -/
theorem usableId_eq_ok_iff {id : Option String} {usable : String} :
    usableId id = .ok usable ↔ id = some usable ∧ Text.blank usable = false := by
  cases id with
  | none => simp [usableId]
  | some id =>
    by_cases h : Text.blank id = true
    · have hne : Text.blank usable = false → id ≠ usable := fun hb e => by simp_all
      simp only [usableId, h, if_true, reduceCtorEq, Option.some.injEq, false_iff]
      exact fun hu => hne hu.2 hu.1
    · rw [usableId, if_neg h, Except.ok.injEq, Option.some.injEq]
      exact ⟨fun e => ⟨e, by simpa [e] using h⟩, fun hu => hu.1⟩

/-- An instance stands where it was placed, and no other instance moves. -/
theorem node?_place (states : InstanceStates) (id other : String) (node : Option String)
    (h : Text.blank other = false) :
    (states.place id node).node? (some other) =
      if other = id then node else states.node? (some other) := by
  by_cases ho : other = id
  · simp_all [node?, Text.blank?, place, state?]
  · simp_all [node?, Text.blank?, place, state?, KeyedMap.get?_put]

end InstanceStates

end ActivityFlow
