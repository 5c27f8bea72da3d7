import ActivityFlow.Instance.States

/-!
# Operations on variables and on states

The operations that a bag of variables and the states of the instances offer are programs of a few
steps.  A step may fail, and what the steps before it did stays done.

* `BagOperation` — write, remove, write several, take out, look up or write, clear.
  `BagOperation.program` puts each together from three steps: looking a variable up, writing one
  and removing one.  Clearing takes out the first variable until there is none.
* `StateOperation` — the queries and the changes of the instances.  `StateOperation.program` puts
  each together from checking what it is given, finding or making a state, and writing one.
-/

namespace ActivityFlow

/-! ## Programs -/

section

variable {ε σ α ω : Type}

/-- What a program leaves behind, whether it fails or not. -/
def leftBy (program : EStateM ε σ α) (s : σ) : σ :=
  match program.run s with
  | .ok _ t => t
  | .error _ t => t

/-- What a program answers. -/
def answerOf (program : EStateM ε σ α) (s : σ) : Except ε α :=
  match program.run s with
  | .ok answer _ => .ok answer
  | .error e _ => .error e

/-- What several operations leave behind, one after the other. -/
def leftByAll (program : ω → EStateM ε σ α) (operations : List ω) (s : σ) : σ :=
  operations.foldl (fun s operation => leftBy (program operation) s) s

theorem leftByAll_concat (program : ω → EStateM ε σ α) (operations : List ω) (operation : ω)
    (s : σ) :
    leftByAll program (operations ++ [operation]) s =
      leftBy (program operation) (leftByAll program operations s) := by
  rw [leftByAll, List.foldl_append]
  rfl

/-- A failure, whatever the program would answer with. -/
@[simp] theorem run_throw (e : ε) (s : σ) : (throw e : EStateM ε σ α).run s = .error e s := rfl

/-- A program that is observed fails no more, and leaves behind what it did. -/
theorem run_observing (program : EStateM ε σ α) (s : σ) :
    (observing program : EStateM ε σ (Except ε α)).run s =
      match program.run s with
      | .ok a t => .ok (.ok a) t
      | .error e t => .ok (.error e) t := by
  change EStateM.tryCatch (program.bind fun a => EStateM.pure (Except.ok a))
    (fun e => EStateM.pure (Except.error e)) s = _
  unfold EStateM.tryCatch EStateM.bind EStateM.run
  cases program s <;> rfl

end

/-! ## Variables -/

/-- An operation on a bag of variables. -/
inductive BagOperation where
  | put (name : String) (value : Json)
  | remove (name : String)
  | putAll (pairs : List (String × Json))
  /-- Remove a variable and answer with its value; a default stands in for one that is not there. -/
  | take (name : String) (default? : Option Json)
  /-- Answer with the value of a variable, which is written now if it is not there. -/
  | getOrPut (name : String) (default : Json)
  | clear

namespace VariableBag

/-- A program on a bag. -/
abbrev Program := EStateM BagError VariableBag

/-- Look a variable up that has to be there. -/
def fetch (name : String) : Program Json := do
  match (← get).require name with
  | .ok value => return value
  | .error e => throw e

/-- Write a variable. -/
def store (name : String) (value : Json) : Program Unit :=
  modify (·.put name value)

/-- Remove a variable that has to be there. -/
def discard (name : String) : Program Unit := do
  match (← get).take name with
  | .ok (_, rest) => set rest
  | .error e => throw e

/-- Take out the first variable, under the spelling it is listed with. -/
def discardFirst : Program (Option (String × Json)) := do
  match (← get).keys with
  | [] => return none
  | name :: _ =>
    let value ← fetch name
    discard name
    return some (name, value)

theorem run_fetch (bag : VariableBag) (name : String) :
    (fetch name).run bag =
      match bag.get? name with
      | some value => .ok value bag
      | none => .error (.missing (Text.fold name)) bag := by
  cases hget : bag.get? name <;> simp [fetch, require, hget]

theorem run_discard (bag : VariableBag) (name : String) :
    (discard name).run bag =
      match bag.get? name with
      | some _ => .ok () (bag.erase name)
      | none => .error (.missing (Text.fold name)) bag := by
  cases hget : bag.get? name <;> simp [discard, take, hget]

/-- A bag is smaller when a variable was taken out. -/
theorem size_discardFirst {bag rest : VariableBag} {entry : String × Json}
    (h : discardFirst.run bag = .ok (some entry) rest) : rest.size < bag.size := by
  cases hkeys : bag.keys with
  | nil => simp [discardFirst, hkeys] at h
  | cons name names =>
      cases hget : bag.get? name with
      | none => simp [discardFirst, hkeys, run_fetch, hget] at h
      | some value =>
          simp only [discardFirst, EStateM.run_bind, EStateM.run_get, hkeys, run_fetch, hget,
            run_discard, EStateM.run_pure, EStateM.Result.ok.injEq] at h
          rw [← h.2]
          exact KeyedMap.size_erase_lt (by simp [KeyedMap.contains, hget])

/-- Take out the first variable until there is none, or until that fails. -/
def clear (bag : VariableBag) : VariableBag :=
  match _h : discardFirst.run bag with
  | .ok (some _) rest => clear rest
  | .ok none rest => rest
  | .error _ rest => rest
termination_by bag.size
decreasing_by exact size_discardFirst ‹_›

end VariableBag

/-- An operation as a program; it answers with a value if it has one. -/
def BagOperation.program : BagOperation → VariableBag.Program (Option Json)
  | put name value => do
    VariableBag.store name value
    return none
  | remove name => do
    VariableBag.discard name
    return none
  | putAll pairs => do
    pairs.forM fun pair => VariableBag.store pair.1 pair.2
    return none
  | take name default? => do
    match ← observing (VariableBag.fetch name), default? with
    | .ok value, _ =>
      VariableBag.discard name
      return value
    | .error _, some default => return default
    | .error e, none => throw e
  | getOrPut name default => do
    match ← observing (VariableBag.fetch name) with
    | .ok value => return value
    | .error _ =>
      VariableBag.store name default
      return default
  | clear => do
    modify VariableBag.clear
    return none

/-! ## States -/

/-- An operation on the states of the instances. -/
inductive StateOperation where
  | ids
  | size
  | stateOf (id : Option String)
  | nodeOf (id : Option String)
  | setNode (id node : Option String)
  | clearNode (id : Option String)
  | bagOf (id : Option String)
  | setVariable (id key : Option String) (value : Json)
  | setVariables (id : Option String) (pairs : List (Option String × Json))
  | clear (id : Option String)

/-- What an operation on the states answers. -/
inductive StateAnswer where
  | done
  | ids (ids : List String)
  | size (size : Nat)
  | state (state? : Option InstanceState)
  | node (node? : Option String)
  | bag (bag : VariableBag)

namespace InstanceStates

/-- A program on the states. -/
abbrev Program := EStateM StateError InstanceStates

/-- An id that has to be usable. -/
def checkId (id : Option String) : Program String :=
  match usableId id with
  | .ok id => return id
  | .error e => throw e

/-- A key that has to be there and not to be blank. -/
def checkKey (key : Option String) : Program String :=
  match key with
  | some key => if Text.blank key then throw .missingKey else return key
  | none => throw .missingKey

/-- The state of an instance, which comes into being now if it was not there. -/
def findOrMake (id : String) : Program InstanceState := do
  match (← get).get? id with
  | some state => return state
  | none =>
    modify (·.put id .fresh)
    return .fresh

/-- The state of an instance, made if need be, once its id is checked. -/
def openState (id : Option String) : Program (String × InstanceState) := do
  let id ← checkId id
  return (id, ← findOrMake id)

/-- Open the state of an instance and write it anew. -/
def rewrite (id : Option String) (rewritten : InstanceState → InstanceState) :
    Program StateAnswer := do
  let (id, state) ← openState id
  modify (·.put id (rewritten state))
  return .done

end InstanceStates

/-- An operation as a program. -/
def StateOperation.program : StateOperation → InstanceStates.Program StateAnswer
  | ids => return .ids (← get).ids
  | size => return .size (← get).size
  | stateOf id => return .state ((← get).state? id)
  | nodeOf id => return .node ((← get).node? id)
  | setNode id node => InstanceStates.rewrite id fun state => { state with node := node }
  | clearNode id => do
    modify (·.clearNode id)
    return .done
  | bagOf id => do
    let (_, state) ← InstanceStates.openState id
    return .bag state.bag
  | setVariable id key value => do
    let _ ← InstanceStates.checkId id
    let key ← InstanceStates.checkKey key
    InstanceStates.rewrite id fun state => { state with bag := state.bag.put key value }
  | setVariables id pairs => do
    let _ ← InstanceStates.checkId id
    InstanceStates.rewrite id fun state =>
      { state with bag := state.bag.putAll (InstanceStates.namedPairs pairs) }
  | clear id => do
    modify (·.clear id)
    return .done

end ActivityFlow
