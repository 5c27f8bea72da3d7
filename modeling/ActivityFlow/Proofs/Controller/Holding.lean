import ActivityFlow.Proofs.Action.Seclusion
import ActivityFlow.Proofs.Controller.Steps
import ActivityFlow.Proofs.Persistence.Parting

/-!
# What belongs to a workflow

Of all that a controller works on, a workflow has a definition, a state of its instance, and what a
persistence keeps for it (`World.holding`).  An operation that is about a workflow serves it
(**`Controller.serves_routine`**): what it answers and what the workflow has at its end depend on
what the workflow had, and on where handlers come from, and other workflows have what they had.

The pieces of an operation work for the id of the definition that they are given.  That this is the
id under which it was asked for is what `World.division` calls sound.
-/

namespace ActivityFlow

open Diagram Division

variable {π δ : Type}

/-- What belongs to a workflow. -/
structure Holding (δ : Type) where
  definition : Option Definition
  /-- The state of the instance: the node that it stands on, and its variables. -/
  state : Option InstanceState
  /-- What the persistence keeps. -/
  kept : δ

namespace World

/-- What belongs to a workflow, given how to see what is kept for it. -/
def holding (kept : String → π → δ) (id : String) (w : World π) : Holding δ where
  definition := w.definitions.get? id
  state := w.states.get? id
  kept := kept id w.archive

/-- What belongs to the workflows of a world, and what they share. -/
def division (kept : String → π → δ) : Division String (World π) where
  share := holding kept
  common w := w.execution.registry.sources
  sound id held sources := (∀ d, held.definition = some d → d.id = id) ∧
    ∀ name source, sources name = some source → source.Steady

variable {kept : String → π → δ} {id : String} {w w' : World π} {α : Type}

lemma holding_eq_iff : w.holding kept id = w'.holding kept id ↔
    w.definitions.get? id = w'.definitions.get? id ∧ w.states.get? id = w'.states.get? id ∧
      kept id w.archive = kept id w'.archive := by
  simp [holding]

section

variable (h : (division kept).Agree id w w')
include h

lemma get?_definitions_of_agree : w'.definitions.get? id = w.definitions.get? id :=
  (holding_eq_iff.mp h.share).1.symm

lemma get?_states_of_agree : w'.states.get? id = w.states.get? id :=
  (holding_eq_iff.mp h.share).2.1.symm

lemma node?_of_agree : w'.states.node? (some id) = w.states.node? (some id) := by
  simp only [InstanceStates.node?, InstanceStates.state?, Option.bind_some,
    get?_states_of_agree h]

lemma stateOf_of_agree : w'.states.stateOf id = w.states.stateOf id := by
  simp only [InstanceStates.stateOf, get?_states_of_agree h]

lemma find?_of_agree : w'.definitions.find? (some id) = w.definitions.find? (some id) := by
  simp only [DefinitionStore.find?, get?_definitions_of_agree h]

lemma require_of_agree : w'.require (some id) = w.require (some id) := by
  simp only [require, DefinitionStore.require, find?_of_agree h]

end

/-- What is required is what is stored. -/
lemma require_eq_ok {usable : String} {d : Definition}
    (h : w.require (some id) = .ok (usable, d)) : id = usable ∧ w.definitions.get? id = some d := by
  by_cases hblank : Text.blank id = true
  · rw [require_of_blank w hblank] at h
    exact absurd h (by simp)
  · cases hfound : w.definitions.get? id with
    | none => simp [require, InstanceStates.usableId, DefinitionStore.require,
        DefinitionStore.find?, hblank, hfound, Except.mapError, bind, Except.bind] at h
    | some stored => simpa [require, InstanceStates.usableId, DefinitionStore.require,
        DefinitionStore.find?, hblank, hfound, Except.mapError, bind, Except.bind, pure,
        Except.pure] using h

lemma prompt_of_agree (h : (division kept).Agree id w w') :
    w'.prompt (some id) = w.prompt (some id) := by
  unfold prompt
  rw [require_of_agree h]
  cases hrequire : w.require (some id) with
  | error e => rfl
  | ok found =>
      obtain ⟨usable, d⟩ := found
      obtain ⟨rfl, -⟩ := require_eq_ok hrequire
      exact congrArg (fun node => Except.ok (d.prompt node)) (node?_of_agree h)

lemma nodeOf_of_agree (h : (division kept).Agree id w w') :
    w'.nodeOf (some id) = w.nodeOf (some id) := by
  unfold nodeOf
  rw [require_of_agree h]
  cases hrequire : w.require (some id) with
  | error e => rfl
  | ok found =>
      obtain ⟨usable, d⟩ := found
      obtain ⟨rfl, -⟩ := require_eq_ok hrequire
      exact congrArg Except.ok (node?_of_agree h)

/-- Another state is put for an instance, or none. -/
lemma same_withStates {states states' : InstanceStates} {answer : α}
    (hs : (division kept).Sound id w) (h : (division kept).Agree id w w')
    (hown : states.get? id = states'.get? id)
    (hleft : ∀ other, other ≠ id → states.get? other = w.states.get? other)
    (hright : ∀ other, other ≠ id → states'.get? other = w'.states.get? other) :
    (division kept).Same id Eq w w' (answer, w.withStates states) (answer, w'.withStates states') where
  answer := rfl
  share := holding_eq_iff.mpr ⟨(get?_definitions_of_agree h).symm, hown,
    (holding_eq_iff.mp h.share).2.2⟩
  left := ⟨fun other hother => holding_eq_iff.mpr ⟨rfl, hleft other hother, rfl⟩, rfl⟩
  right := ⟨fun other hother => holding_eq_iff.mpr ⟨rfl, hright other hother, rfl⟩, rfl⟩
  sound := hs

/-- A state is put for an instance. -/
lemma same_put {answer : α} (hs : (division kept).Sound id w) (h : (division kept).Agree id w w')
    (state : InstanceState) : (division kept).Same id Eq w w'
      (answer, w.withStates (w.states.put id state))
      (answer, w'.withStates (w'.states.put id state)) :=
  same_withStates hs h ((KeyedMap.get?_put_self ..).trans (KeyedMap.get?_put_self ..).symm)
    (fun _ hother => (KeyedMap.get?_put ..).trans (if_neg hother))
    (fun _ hother => (KeyedMap.get?_put ..).trans (if_neg hother))

/-- What is kept for a workflow changes. -/
lemma same_archive {answer : α} {change : π → π} (hs : (division kept).Sound id w)
    (h : (division kept).Agree id w w') (hchange : Persistence.Concerns kept id change) :
    (division kept).Same id Eq w w' (answer, { w with archive := change w.archive })
      (answer, { w' with archive := change w'.archive }) := by
  obtain ⟨hdefinition, hstate, hkept⟩ := holding_eq_iff.mp h.share
  exact ⟨rfl, holding_eq_iff.mpr ⟨hdefinition, hstate, hchange.own _ _ hkept⟩,
    ⟨fun other hother => holding_eq_iff.mpr ⟨rfl, rfl, hchange.others other _ hother⟩, rfl⟩,
    ⟨fun other hother => holding_eq_iff.mpr ⟨rfl, rfl, hchange.others other _ hother⟩, rfl⟩, hs⟩

/-- A definition is stored under its id. -/
lemma serves_storeDefinition {d : Definition} (hd : d.id = id) :
    (division kept).Serves id fun w => ((), w.storeDefinition d) := by
  subst hd
  intro w w' hs h
  obtain ⟨-, hstate, hkept⟩ := holding_eq_iff.mp h.share
  have hother (w : World π) (other : String) (hne : other ≠ d.id) :
      (w.storeDefinition d).definitions.get? other = w.definitions.get? other := by
    rw [get?_storeDefinition, if_neg hne]
  have hself (w : World π) : (w.storeDefinition d).definitions.get? d.id = some d := by
    rw [get?_storeDefinition, if_pos rfl]
  refine ⟨rfl, holding_eq_iff.mpr ⟨(hself w).trans (hself w').symm, hstate, hkept⟩,
    ⟨fun other hne => holding_eq_iff.mpr ⟨hother w other hne, rfl, rfl⟩, rfl⟩,
    ⟨fun other hne => holding_eq_iff.mpr ⟨hother w' other hne, rfl, rfl⟩, rfl⟩, ?_, hs.2⟩
  intro found hfound
  exact congrArg Definition.id (Option.some.inj ((hself w).symm.trans hfound)).symm

lemma serves_variablesOf (kept : String → π → δ) (id : String) :
    (division kept).Serves id fun w : World π => w.variablesOf (some id) := by
  intro w w' hs h
  simp only [variablesOf, require_of_agree h]
  cases hrequire : w.require (some id) with
  | error e => exact .of_answer hs h rfl
  | ok found =>
      obtain ⟨usable, d⟩ := found
      obtain ⟨rfl, -⟩ := require_eq_ok hrequire
      simp only [stateOf_of_agree h]
      exact same_put hs h _

/-- An id that is given is the id of the definition that is read, and the supply is left alone. -/
lemma readDiagram_of_id (π : Type) (text name : Option String) {id : Option String} {usedId : String}
    (hid : nonEmpty? id = some usedId) : ∃ answer : Except ControllerError Definition,
      (∀ d, answer = .ok d → d.id = usedId) ∧
        ∀ w : World π, w.readDiagram text id name = (answer, w) := by
  cases text with
  | none => exact ⟨.error (.diagram .emptyText), by simp, fun w => rfl⟩
  | some text =>
      by_cases hblank : Text.blank text = true
      · refine ⟨.error (.diagram .emptyText), by simp, fun w => ?_⟩
        simp [readDiagram, Diagram.read, hblank, Except.map, Except.mapError]
      · refine ⟨.ok (readAs text.toList usedId ((nonEmpty? name).getD defaultName)).definition, ?_,
          fun w => ?_⟩
        · intro d hd
          obtain rfl := Except.ok.inj hd
          rfl
        · simp [readDiagram, Diagram.read, hblank, hid, Except.map, Except.mapError]

end World

namespace Operation

/-- The workflow that an operation is about.  An import is about one only if its id is given. -/
def subject? : Operation → Option String
  | importDiagram _ id _ => nonEmpty? id
  | start id | restart id | advance id _ | promptOf id | nodeOf id | variablesOf id | has id => id

end Operation

namespace Controller

open World Routine

variable {c : Controller π} {kept : String → π → δ} {d : Definition} {id : String}

/-! ## The pieces of an operation -/

lemma serves_place (kept : String → π → δ) (id : String) (node : Option String) :
    (division kept).Serves id (modify (World.place id node)).run := by
  intro w w' hs h
  simp only [run_modify, World.place, InstanceStates.place, stateOf_of_agree h]
  exact same_put hs h _

lemma serves_forget (kept : String → π → δ) (id : String) :
    (division kept).Serves id (modify (World.forget id)).run := by
  intro w w' hs h
  simp only [run_modify, World.forget, InstanceStates.clear]
  refine same_withStates hs h ?_ ?_ ?_
  · rw [KeyedMap.get?_erase, KeyedMap.get?_erase, if_pos rfl, if_pos rfl]
  · exact fun other hother => (KeyedMap.get?_erase ..).trans (if_neg hother)
  · exact fun other hother => (KeyedMap.get?_erase ..).trans (if_neg hother)

/-- What serves an instance among the instances serves its workflow. -/
lemma serves_onExecution {α : Type} {t : Routine ExecutionState α}
    (h : ExecutionState.division.Serves id t.run) :
    (division kept).Serves id (zoom World.execution World.withExecution t).run := by
  refine Serves.zoom (D := ExecutionState.division) (i := id) (E := division kept) (k := id)
    ?_ ?_ ?_ ?_ ?_ ?_ h
  · exact fun _ _ => rfl
  · exact fun _ _ _ => rfl
  · exact fun _ => rfl
  · exact fun w hw => hw.2
  · exact fun w w' hw => ⟨(get?_states_of_agree hw).symm, hw.common⟩
  · intro w w' e e' hw he hagree hleft hright hshare
    obtain ⟨hdefinition, -, hkept⟩ := holding_eq_iff.mp hagree.share
    exact ⟨trivial, holding_eq_iff.mpr ⟨hdefinition, hshare, hkept⟩,
      ⟨fun other hother => holding_eq_iff.mpr ⟨rfl, hleft.share other hother, rfl⟩, hleft.common⟩,
      ⟨fun other hother => holding_eq_iff.mpr ⟨rfl, hright.share other hother, rfl⟩, hright.common⟩,
      ⟨hw.1, he⟩⟩

/-- The action of a node of a definition is executed for the definition's instance. -/
lemma serves_performAt (c : Controller π) (kept : String → π → δ) (d : Definition) (node : String) :
    (division kept).Serves d.id (c.performAt d node).run := by
  unfold performAt
  split
  · unfold perform
    split
    · exact serves_pure _
    · refine Serves.bind (serves_onExecution (serves_execute _ rfl)) fun answer => ?_
      split
      · exact serves_pure _
      · exact serves_pure _
  · exact serves_pure _

lemma serves_performPassedOver (c : Controller π) (kept : String → π → δ) (d : Definition) :
    (division kept).Serves d.id (c.performPassedOver d).run := by
  unfold performPassedOver
  split
  · exact (c.serves_performAt kept d _).map _
  · exact serves_pure _

section

variable (hp : c.persistence.KeepsApart kept)
include hp

lemma serves_loadNode (id : String) : (division kept).Serves id (c.loadNode id).run := by
  intro w w' hs h
  have hload := (holding_eq_iff.mp h.share).2.2
  rw [run_loadNode, run_loadNode, hp.answer id _ _ hload]
  exact same_archive hs h (hp.load id)

lemma serves_persistNode (id : String) (node : Option String) :
    (division kept).Serves id (c.persistNode id node).run := by
  intro w w' hs h
  rw [run_persistNode, run_persistNode]
  exact same_archive hs h (hp.update id node)

lemma serves_persistDefinition (d : Definition) :
    (division kept).Serves d.id (c.persistDefinition d).run := by
  intro w w' hs h
  simp only [run_persistDefinition, told, node?_of_agree h]
  exact same_archive hs h (hp.create ⟨d, w.states.node? (some d.id)⟩)

lemma serves_moveTo (id node : String) : (division kept).Serves id (c.moveTo id node).run :=
  (serves_place kept id _).bind fun _ => serves_persistNode hp id _

lemma serves_enterNode (d : Definition) (node : String) :
    (division kept).Serves d.id (c.enterNode d node).run := by
  refine (c.serves_performAt kept d node).bind fun completed => ?_
  split
  · split
    · exact (serves_moveTo hp d.id _).bind fun _ => serves_pure _
    · exact serves_pure _
  · exact serves_pure _

lemma serves_enterStart (d : Definition) : (division kept).Serves d.id (c.enterStart d).run := by
  refine (serves_place kept d.id _).bind fun _ => (serves_persistNode hp d.id _).bind fun _ =>
    (c.serves_performPassedOver kept d).bind fun _ => ?_
  split
  · exact (serves_enterNode hp d _).bind fun _ => serves_pure _
  · exact serves_pure _

lemma serves_resume (d : Definition) : (division kept).Serves d.id (c.resume d.id d).run := by
  refine serves_get_bind (fun w w' _ h => ?_) fun w _ => ?_
  · rw [node?_of_agree h]
  · split
    · exact serves_pure _
    · refine (serves_loadNode hp d.id).bind fun known => ?_
      split
      · exact (serves_place kept d.id _).bind fun _ => serves_pure _
      · exact serves_enterStart hp d

lemma serves_follow (d : Definition) (node : String) (value : Json) :
    (division kept).Serves d.id (c.follow d.id d node value).run := by
  unfold follow
  split
  · exact serves_pure _
  · exact (serves_moveTo hp d.id _).bind fun _ => ((serves_enterNode hp d _).map _).bind fun _ =>
      serves_pure _

/-! ## Operations -/

omit hp in
lemma serves_onWorkflow {α : Type} {id : String}
    {body : String → Definition → Routine (World π) (Except ControllerError α)}
    (hbody : ∀ d, d.id = id → (division kept).Serves id (body id d).run) :
    (division kept).Serves id (onWorkflow (some id) body).run := by
  refine serves_get_bind (fun w w' _ h => ?_) fun w hs => ?_
  · rw [require_of_agree h]
  · cases hrequire : w.require (some id) with
    | error e => exact serves_pure _
    | ok found =>
        obtain ⟨usable, d⟩ := found
        obtain ⟨rfl, hfound⟩ := require_eq_ok hrequire
        exact hbody d (hs.1 d hfound)

lemma serves_start (id : String) : (division kept).Serves id (c.start (some id)).run := by
  refine serves_onWorkflow fun d hd => ?_
  subst hd
  exact (serves_resume hp d).bind fun _ => serves_pure _

lemma serves_restart (id : String) : (division kept).Serves id (c.restart (some id)).run := by
  refine serves_onWorkflow fun d hd => ?_
  subst hd
  exact (serves_forget kept d.id).bind fun _ => (serves_enterStart hp d).bind fun _ =>
    serves_pure _

lemma serves_advance (id : String) (value : Json) :
    (division kept).Serves id (c.advance (some id) value).run := by
  refine serves_onWorkflow fun d hd => ?_
  subst hd
  refine serves_get_bind (fun w w' _ h => ?_) fun w _ => ?_
  · rw [node?_of_agree h]
  · split
    · exact serves_follow hp d _ value
    · refine (serves_resume hp d).bind fun node => ?_
      split
      · exact serves_follow hp d _ value
      · exact serves_pure _

lemma serves_importDiagram {text id name : Option String} {usedId : String}
    (hid : nonEmpty? id = some usedId) :
    (division kept).Serves usedId (c.importDiagram text id name).run := by
  obtain ⟨answer, hanswer, hread⟩ := readDiagram_of_id π text name hid
  refine Matches.bind (t := update _) (u := update _)
    (R := fun found found' => found = found' ∧ ∀ d, found = .ok d → d.id = usedId) ?_ ?_
  · intro w w' hs h
    rw [run_update, run_update, hread, hread]
    exact .of_answer hs h ⟨rfl, hanswer⟩
  · rintro found _ ⟨rfl, hd⟩
    cases found with
    | error e => exact serves_pure _
    | ok d =>
        obtain rfl := hd d rfl
        refine Serves.bind (t := modify _) (serves_storeDefinition rfl) fun _ =>
          (serves_start hp d.id).bind fun started => ?_
        cases started with
        | error e => exact serves_pure _
        | ok node => exact (serves_persistDefinition hp d).bind fun _ => serves_pure _

/-- **An operation serves the workflow that it is about.** -/
theorem serves_routine {op : Operation} (h : op.subject? = some id) :
    (division kept).Serves id (op.routine c).run := by
  cases op with
  | importDiagram text id name => exact (serves_importDiagram hp h).map _
  | start id =>
      obtain rfl : id = some _ := h
      exact (serves_start hp _).map _
  | restart id =>
      obtain rfl : id = some _ := h
      exact (serves_restart hp _).map _
  | advance id value =>
      obtain rfl : id = some _ := h
      exact (serves_advance hp _ value).map _
  | promptOf id =>
      obtain rfl : id = some _ := h
      exact fun w w' hs h =>
        .of_answer hs h (congrArg (Except.map Answer.prompt) (prompt_of_agree h).symm)
  | nodeOf id =>
      obtain rfl : id = some _ := h
      exact fun w w' hs h =>
        .of_answer hs h (congrArg (Except.map Answer.node) (nodeOf_of_agree h).symm)
  | variablesOf id =>
      obtain rfl : id = some _ := h
      intro w w' hs h
      have hbag := serves_variablesOf kept _ w w' hs h
      exact ⟨congrArg (Except.map Answer.bag) hbag.answer, hbag.share, hbag.left, hbag.right,
        hbag.sound⟩
  | has id =>
      obtain rfl : id = some _ := h
      refine fun w w' hs h => .of_answer hs h ?_
      simp only [DefinitionStore.has, find?_of_agree h]

end

end Controller

end ActivityFlow
