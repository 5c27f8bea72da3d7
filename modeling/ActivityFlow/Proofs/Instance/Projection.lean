import ActivityFlow.Instance.Operations
import ActivityFlow.Proofs.Instance.Listing

/-!
# Instances keep to themselves

An operation on the states of the instances works on the state of the id it names, and on that
alone.  So the state of an instance behind any operations is what the operations that name it make
of it, whatever is interleaved with them.  A refused operation leaves everything as it was, also
when it is refused late.

* `StateOperation.subject?`, `refusal?`, `effect`, `change?` — the id that an operation names, why
  it is refused, what it makes of the state it names, and whether an instance comes or goes.  None
  of them looks at the states.
* `StateOperation.run_program` — every operation in one step.
* `StateOperation.state?_leftBy` — an operation makes its effect on the state it names.
* `state?_leftByAll` — so do several: the effects of those that name an id, one after the other.
-/

namespace ActivityFlow

/-! ## One entry of a map -/

namespace KeyedMap

universe u v w

variable {ς : Type u} {κ : Type v} {α : Type w} {canon : ς → κ} [DecidableEq κ]

/-- The map with what is found under a key settled anew: a value, or none. -/
def settle (m : KeyedMap canon α) (key : ς) : Option α → KeyedMap canon α
  | some value => m.put key value
  | none => m.erase key

lemma get?_settle (m : KeyedMap canon α) (key other : ς) (value? : Option α) :
    (m.settle key value?).get? other =
      if canon other = canon key then value? else m.get? other := by
  cases value? with
  | none => exact get?_erase m key other
  | some value => exact get?_put m key other value

/-- Settling what is found anyway changes nothing. -/
lemma settle_get? (m : KeyedMap canon α) (key : ς) : m.settle key (m.get? key) = m := by
  cases hget : m.get? key with
  | none => exact erase_of_get? hget
  | some value => exact put_of_get? hget

/-- Settling a value in the place of a value leaves the keys as they are. -/
lemma keys_settle {m : KeyedMap canon α} {key : ς} {value? : Option α}
    (h : value?.isSome = (m.get? key).isSome) : (m.settle key value?).keys = m.keys := by
  cases value? with
  | none =>
      have habsent : m.get? key = none := by simpa using h
      rw [settle, erase_of_get? habsent]
  | some value => rw [settle, keys_put, contains, ← h, Option.isSome_some, if_pos rfl]

end KeyedMap

/-! ## What an operation is about -/

namespace StateOperation

/-- The id that an operation names, which may be a missing one. -/
def subject? : StateOperation → Option (Option String)
  | ids => none
  | size => none
  | stateOf id => some id
  | nodeOf id => some id
  | setNode id _ => some id
  | clearNode id => some id
  | bagOf id => some id
  | setVariable id _ _ => some id
  | setVariables id _ => some id
  | clear id => some id

/-- Whether an operation names an id. -/
def isAbout (who : Option String) (operation : StateOperation) : Bool :=
  operation.subject? = some who

/-- Why an operation is refused, if it is. -/
def refusal? : StateOperation → Option StateError
  | setNode id _ => refusedId? id
  | bagOf id => refusedId? id
  | setVariable id key _ => (refusedId? id).or (refusedKey? key)
  | setVariables id _ => refusedId? id
  | _ => none
where
  refusedId? (id : Option String) : Option StateError :=
    if Text.blank? id then some .missingId else none
  refusedKey? (key : Option String) : Option StateError :=
    if Text.blank? key then some .missingKey else none

/-- What an operation makes of the state it names; nothing, if it is refused. -/
def effect (operation : StateOperation) (state? : Option InstanceState) : Option InstanceState :=
  if operation.refusal?.isSome then state? else
    let state := state?.getD .fresh
    match operation with
    | setNode _ node => some { state with node := node }
    | clearNode _ => state?.map fun state => { state with node := none }
    | bagOf _ => some state
    | setVariable _ (some key) value => some { state with bag := state.bag.put key value }
    | setVariables _ pairs =>
      some { state with bag := state.bag.putAll (InstanceStates.namedPairs pairs) }
    | clear _ => none
    | _ => state?

/-- Which instance an operation makes, or takes away, if it is not refused. -/
def change? (operation : StateOperation) : Option (KeyChange String) :=
  if operation.refusal?.isSome then none else
    match operation with
    | setNode id _ => id.map .written
    | bagOf id => id.map .written
    | setVariable id _ _ => id.map .written
    | setVariables id _ => id.map .written
    | clear id => id.map .removed
    | _ => none

end StateOperation

/-! ## Operations in one step -/

namespace InstanceStates

lemma run_checkId (states : InstanceStates) (id : Option String) :
    (checkId id).run states =
      match usableId id with
      | .ok id => .ok id states
      | .error e => .error e states := by
  rw [checkId]
  cases usableId id <;> rfl

lemma run_checkKey (states : InstanceStates) (key : Option String) :
    (checkKey key).run states =
      match key with
      | some key => if Text.blank key then .error .missingKey states else .ok key states
      | none => .error .missingKey states := by
  cases key with
  | none => rfl
  | some key =>
      simp only [checkKey]
      split <;> rfl

/-- A state that was found or made is written. -/
lemma run_findOrMake (states : InstanceStates) (id : String) :
    (findOrMake id).run states =
      .ok (states.stateOf id) (states.put id (states.stateOf id)) := by
  simp only [findOrMake, EStateM.run_bind, EStateM.run_get, stateOf]
  cases hget : states.get? id with
  | none => rfl
  | some state => simp [KeyedMap.put_of_get? hget]

lemma run_openState (states : InstanceStates) (id : Option String) :
    (openState id).run states =
      match usableId id with
      | .ok id => .ok (id, states.stateOf id) (states.put id (states.stateOf id))
      | .error e => .error e states := by
  rw [openState, EStateM.run_bind, run_checkId]
  cases usableId id with
  | error e => rfl
  | ok id => simp only [EStateM.run_bind, run_findOrMake, EStateM.run_pure]

/-- What an attempt at a change comes to. -/
def attempted (states : InstanceStates) :
    Except StateError InstanceStates → EStateM.Result StateError InstanceStates StateAnswer
  | .ok next => .ok .done next
  | .error e => .error e states

lemma run_rewrite (states : InstanceStates) (id : Option String)
    (rewritten : InstanceState → InstanceState) :
    (rewrite id rewritten).run states =
      match usableId id with
      | .ok id => .ok .done (states.put id (rewritten (states.stateOf id)))
      | .error e => .error e states := by
  rw [rewrite, EStateM.run_bind, run_openState]
  cases usableId id with
  | error e => rfl
  | ok id => simp only [EStateM.run_bind, EStateM.run_modify, KeyedMap.put_put, EStateM.run_pure]

end InstanceStates

open InstanceStates in
/-- Every operation in one step. -/
theorem StateOperation.run_program (operation : StateOperation) (states : InstanceStates) :
    operation.program.run states =
      match operation with
      | ids => .ok (.ids states.ids) states
      | size => .ok (.size states.size) states
      | stateOf id => .ok (.state (states.state? id)) states
      | nodeOf id => .ok (.node (states.node? id)) states
      | setNode id node => attempted states (states.setNode id node)
      | clearNode id => .ok .done (states.clearNode id)
      | bagOf id =>
        match states.bagOf id with
        | .ok (bag, next) => .ok (.bag bag) next
        | .error e => .error e states
      | setVariable id key value => attempted states (states.setVariable id key value)
      | setVariables id pairs => attempted states (states.setVariables id pairs)
      | clear id => .ok .done (states.clear id) := by
  cases operation with
  | ids => rfl
  | size => rfl
  | stateOf id => rfl
  | nodeOf id => rfl
  | clearNode id => rfl
  | clear id => rfl
  | setNode id node =>
      simp only [program, run_rewrite, InstanceStates.setNode]
      cases usableId id <;> rfl
  | bagOf id =>
      simp only [program, EStateM.run_bind, run_openState, InstanceStates.bagOf]
      cases usableId id <;> rfl
  | setVariables id pairs =>
      simp only [program, EStateM.run_bind, run_checkId, InstanceStates.setVariables]
      cases hid : usableId id with
      | error e => rfl
      | ok usable => simp only [run_rewrite, hid]; rfl
  | setVariable id key value =>
      simp only [program, EStateM.run_bind, run_checkId, InstanceStates.setVariable]
      cases hid : usableId id with
      | error e => rfl
      | ok usable =>
          simp only [run_checkKey]
          cases key with
          | none => rfl
          | some key => cases hkey : Text.blank key <;> simp only [hkey, run_rewrite, hid] <;> rfl

namespace StateOperation

/-! ## Refusals -/

lemma refusedId?_eq (id : Option String) :
    refusal?.refusedId? id =
      match InstanceStates.usableId id with
      | .ok _ => none
      | .error e => some e := by
  cases id with
  | none => rfl
  | some id =>
      cases hid : Text.blank id <;>
        simp [refusal?.refusedId?, Text.blank?, InstanceStates.usableId, hid]

/-- The states with the state that an operation names settled. -/
def settled (operation : StateOperation) (states : InstanceStates) : InstanceStates :=
  match operation.subject? with
  | some (some id) => states.settle id (operation.effect (states.get? id))
  | _ => states

/-- What an operation answers, if it is not refused. -/
def answer (operation : StateOperation) (states : InstanceStates) : StateAnswer :=
  match operation with
  | ids => .ids states.ids
  | size => .size states.size
  | stateOf id => .state (states.state? id)
  | nodeOf id => .node (states.node? id)
  | bagOf id => .bag ((states.state? id).getD .fresh).bag
  | _ => .done

/-- **An operation is refused and changes nothing, or it settles the state it names and nothing
    else.**  Whether it is refused does not depend on the states. -/
theorem run_program_eq (operation : StateOperation) (states : InstanceStates) :
    operation.program.run states =
      match operation.refusal? with
      | some e => .error e states
      | none => .ok (operation.answer states) (operation.settled states) := by
  cases operation with
  | ids => rfl
  | size => rfl
  | stateOf id =>
      cases id with
      | none => rfl
      | some id => exact congrArg (EStateM.Result.ok _) (states.settle_get? id).symm
  | nodeOf id =>
      cases id with
      | none => rfl
      | some id => exact congrArg (EStateM.Result.ok _) (states.settle_get? id).symm
  | clear id => cases id <;> rfl
  | clearNode id =>
      cases id with
      | none => rfl
      | some id =>
          refine congrArg (EStateM.Result.ok _) ?_
          simp only [InstanceStates.clearNode, InstanceStates.state?, Option.bind_some, settled,
            subject?, effect, refusal?]
          cases hget : states.get? id with
          | none => exact (KeyedMap.erase_of_get? hget).symm
          | some state => rfl
  | setNode id node =>
      simp only [run_program, InstanceStates.setNode, refusal?, refusedId?_eq, settled, effect]
      cases hid : InstanceStates.usableId id with
      | error e => rfl
      | ok usable =>
          obtain ⟨rfl, -⟩ := InstanceStates.usableId_eq_ok_iff.1 hid
          rfl
  | bagOf id =>
      simp only [run_program, InstanceStates.bagOf, refusal?, refusedId?_eq, settled, effect]
      cases hid : InstanceStates.usableId id with
      | error e => rfl
      | ok usable =>
          obtain ⟨rfl, -⟩ := InstanceStates.usableId_eq_ok_iff.1 hid
          rfl
  | setVariables id pairs =>
      simp only [run_program, InstanceStates.setVariables, refusal?, refusedId?_eq, settled, effect]
      cases hid : InstanceStates.usableId id with
      | error e => rfl
      | ok usable =>
          obtain ⟨rfl, -⟩ := InstanceStates.usableId_eq_ok_iff.1 hid
          rfl
  | setVariable id key value =>
      simp only [run_program, InstanceStates.setVariable, refusal?, refusedId?_eq, settled]
      cases hid : InstanceStates.usableId id with
      | error e => rfl
      | ok usable =>
          obtain ⟨rfl, -⟩ := InstanceStates.usableId_eq_ok_iff.1 hid
          cases key with
          | none => rfl
          | some key =>
              cases hkey : Text.blank key with
              | true =>
                  have hrefused : refusal?.refusedKey? (some key) = some .missingKey := if_pos hkey
                  simp only [hrefused, hkey, ↓reduceIte]
                  rfl
              | false =>
                  have hrefused : refusal?.refusedKey? (some key) = none :=
                    if_neg (by simp [Text.blank?, hkey])
                  simp only [hrefused, hkey, effect, refusal?, refusedId?_eq, hid]
                  rfl

/-! ## One operation -/

lemma effect_of_refusal? {operation : StateOperation} {e : StateError}
    (h : operation.refusal? = some e) (state? : Option InstanceState) :
    operation.effect state? = state? := by
  rw [effect, if_pos (by rw [h]; rfl)]

theorem leftBy_program (operation : StateOperation) (states : InstanceStates) :
    leftBy operation.program states = operation.settled states := by
  rw [leftBy, run_program_eq]
  cases hrefusal : operation.refusal? with
  | none => rfl
  | some e =>
      simp only [settled, effect_of_refusal? hrefusal, KeyedMap.settle_get?]
      split <;> rfl

/-- Where an operation names no id, there is nothing to work on. -/
lemma effect_missing {operation : StateOperation} (h : operation.subject? = some none) :
    operation.effect none = none := by
  cases operation <;> cases h <;> rfl

/-- **An operation makes its effect on the state it names**, and no other state changes. -/
theorem state?_leftBy (operation : StateOperation) (states : InstanceStates)
    (who : Option String) :
    (leftBy operation.program states).state? who =
      if operation.isAbout who then operation.effect (states.state? who)
      else states.state? who := by
  rw [leftBy_program, settled]
  cases hsubject : operation.subject? with
  | none => simp [isAbout, hsubject]
  | some id =>
      cases id with
      | none =>
          cases who with
          | none => simp [isAbout, hsubject, InstanceStates.state?, effect_missing hsubject]
          | some who => simp [isAbout, hsubject]
      | some id =>
          cases who with
          | none => simp [isAbout, hsubject, InstanceStates.state?]
          | some who =>
              by_cases hwho : who = id
              · simp [isAbout, hsubject, InstanceStates.state?, KeyedMap.get?_settle, hwho]
              · simp [isAbout, hsubject, InstanceStates.state?, KeyedMap.get?_settle, hwho,
                  Ne.symm hwho]

/-- An operation that makes an instance leaves one under the id it names, one that takes an
    instance away leaves none, and any other leaves one if there was one. -/
lemma isSome_effect {operation : StateOperation} {id : String}
    (h : operation.subject? = some (some id)) (state? : Option InstanceState) :
    (operation.effect state?).isSome =
      match operation.change? with
      | some (.written _) => true
      | some (.removed _) => false
      | none => state?.isSome := by
  cases hrefused : operation.refusal?.isSome with
  | true => simp [effect, change?, hrefused]
  | false =>
      cases operation with
      | setVariable id key value =>
          cases h
          cases key with
          | none => simp [refusal?, refusal?.refusedKey?, Text.blank?] at hrefused
          | some key => simp [effect, change?, hrefused]
      | _ => cases h <;> simp [effect, change?, hrefused]

lemma subject?_of_change? {operation : StateOperation} {change : KeyChange String}
    (h : operation.change? = some change) : operation.subject? = some (some change.key) := by
  cases hrefused : operation.refusal?.isSome with
  | true => simp [change?, hrefused] at h
  | false =>
      cases operation <;> simp [change?, hrefused] at h <;> obtain ⟨id, rfl, rfl⟩ := h <;> rfl

/-- An operation adds its change to the history of the instances. -/
lemma recorded_leftBy {states : InstanceStates} {history : List (KeyChange String)}
    (h : states.Recorded history) (operation : StateOperation) :
    (leftBy operation.program states).Recorded (history ++ operation.change?.toList) := by
  rw [leftBy_program, settled]
  cases hchange : operation.change? with
  | none => 
      rw [Option.toList_none, List.append_nil]
      cases hsubject : operation.subject? with
      | none => exact h
      | some id =>
          cases id with
          | none => exact h
          | some id =>
              have hsame := isSome_effect hsubject (states.get? id)
              rw [hchange] at hsame
              exact (KeyedMap.keys_settle hsame).trans h
  | some change =>
      have hsubject := subject?_of_change? hchange
      have hsome := isSome_effect hsubject (states.get? change.key)
      simp only [hsubject, Option.toList_some]
      rw [hchange] at hsome
      cases change with
      | written id =>
          obtain ⟨state, hstate⟩ := Option.isSome_iff_exists.1 hsome
          rw [hstate]
          exact h.put id state
      | removed id =>
          rw [Option.isSome_eq_false_iff, Option.isNone_iff_eq_none] at hsome
          rw [hsome]
          exact h.erase id

end StateOperation

/-! ## Several operations -/

/-- **The state of an instance behind several operations** is what those that name it make of it,
    one after the other. -/
theorem state?_leftByAll (operations : List StateOperation) (states : InstanceStates)
    (who : Option String) :
    (leftByAll StateOperation.program operations states).state? who =
      (operations.filter (·.isAbout who)).foldl (fun state? operation => operation.effect state?)
        (states.state? who) := by
  induction operations using List.reverseRecOn with
  | nil => rfl
  | append_singleton operations operation ih =>
      rw [leftByAll_concat, StateOperation.state?_leftBy, ih, List.filter_append,
        List.foldl_append]
      cases habout : operation.isAbout who <;> simp [habout]

/-- The instances behind several operations are those that they made and did not take away
    since. -/
theorem recorded_leftByAll (operations : List StateOperation) :
    (leftByAll StateOperation.program operations .empty).Recorded
      (operations.filterMap StateOperation.change?) := by
  induction operations using List.reverseRecOn with
  | nil => exact .empty
  | append_singleton operations operation ih =>
      have hchange : [operation].filterMap StateOperation.change? = operation.change?.toList := by
        rw [List.filterMap_cons]
        cases operation.change? <;> rfl
      rw [leftByAll_concat, List.filterMap_append, hchange]
      exact StateOperation.recorded_leftBy ih operation

/-- **Instances are independent of each other, and operations on them are all or nothing.**  Behind
    any operations the state of an instance is what it is behind those of them that name it; the
    instances that there are, each listed once, stand in the order in which they were made since
    they were last taken away; and an operation that is refused leaves all of them as they were. -/
theorem instances_independent (operations : List StateOperation) :
    let states := leftByAll StateOperation.program operations .empty
    (∀ who : Option String, states.state? who =
        (leftByAll StateOperation.program (operations.filter (·.isAbout who)) .empty).state? who) ∧
      states.ids = founders id (operations.filterMap StateOperation.change?) ∧
      states.ids.Nodup ∧
      (∀ id : String, id ∈ states.ids ↔ (states.state? (some id)).isSome) ∧
      ∀ (operation : StateOperation) (e : StateError) (rest : InstanceStates),
        operation.program.run states = .error e rest ↔
          rest = states ∧ operation.refusal? = some e := by
  intro states
  refine ⟨fun who => ?_, recorded_leftByAll operations, ?_, fun id => ?_,
    fun operation e rest => ?_⟩
  · rw [state?_leftByAll, state?_leftByAll, List.filter_filter]
    simp only [Bool.and_self]
  · simpa [InstanceStates.ids] using states.nodup_keys
  · simp [InstanceStates.state?, KeyedMap.isSome_get?_iff, InstanceStates.ids]
  · rw [operation.run_program_eq]
    cases operation.refusal? <;> simp [eq_comm, and_comm]

end ActivityFlow
