import ActivityFlow.Proofs.Controller.Course
import ActivityFlow.Proofs.Diagram.Reading
import ActivityFlow.Proofs.Routine.Performing

/-!
# What an operation can do

A controller is asked for one operation after the other, in any order and with any arguments.
`Operation.refusal?` says which of them are refused, and `Controller.Step` says once what each can
do to a session.  **`perform_step`** says that nothing else can happen, and that an answer always
comes, whoever is at work in the background.  Those in the background may also be waited for, which
moves nobody (`drain_quiet`).

An operation that is refused changes nothing, but for one kind: an import under an id of blanks is
refused only when its definition is stored already (`Operation.stray?`).  An advance may also fail
behind the start of its instance, because its value chooses nothing and cannot be shown
(`Step.stumbled`).
-/

namespace ActivityFlow

open Diagram

variable {π : Type}

/-! ## Operations -/

/-- What a controller is asked for. -/
inductive Operation where
  | importDiagram (text id name : Option String)
  | start (id : Option String)
  | restart (id : Option String)
  | advance (id : Option String) (value : Json)
  | promptOf (id : Option String)
  | nodeOf (id : Option String)
  | variablesOf (id : Option String)
  | has (id : Option String)

/-- What it answers. -/
inductive Answer where
  | definition (d : Definition)
  | node (node : Option String)
  | moved (moved : Bool)
  | prompt (prompt : Prompt)
  | bag (bag : VariableBag)
  | has (has : Bool)

namespace Operation

/-- The work of a controller on an operation. -/
def routine (c : Controller π) : Operation → Routine (World π) (Except ControllerError Answer)
  | importDiagram text id name => (c.importDiagram text id name).map (Except.map .definition)
  | start id => (c.start id).map (Except.map .node)
  | restart id => (c.restart id).map (Except.map .node)
  | advance id value => (c.advance id value).map (Except.map .moved)
  | promptOf id => Routine.update fun w => ((w.prompt id).map .prompt, w)
  | nodeOf id => Routine.update fun w => ((w.nodeOf id).map .node, w)
  | variablesOf id => Routine.update fun w => ((w.variablesOf id).1.map .bag, (w.variablesOf id).2)
  | has id => Routine.update fun w => (.ok (.has (w.definitions.has id)), w)

/-- Whether an operation only asks. -/
def isQuestion : Operation → Bool
  | promptOf _ | nodeOf _ | variablesOf _ | has _ => true
  | _ => false

/-- An id that is given, but consists of blanks. -/
def blankId? (id : Option String) : Option String :=
  (nonEmpty? id).filter Text.blank

/-- The error in an answer. -/
def refusalOf {α : Type} : Except ControllerError α → Option ControllerError
  | .error e => some e
  | .ok _ => none

/-- Why a value is refused that an instance is to follow from where it stands: it chooses nothing,
    and cannot be shown. -/
def unshown? (w : World π) (d : Definition) (value : Json) : Option ControllerError :=
  (nonEmpty? (w.states.node? (some d.id))).bind fun node =>
    match Choice.select d (d.outgoing node) value with
    | none => refusalOf (value.checkText.mapError .text)
    | some _ => none

/-- Why an operation is refused, if it is. -/
def refusal? (w : World π) : Operation → Option ControllerError
  | importDiagram text id _ =>
    if Text.blank? text then some (.diagram .emptyText)
    else (blankId? id).map fun _ => .state .missingId
  | start id | restart id | promptOf id | nodeOf id | variablesOf id => refusalOf (w.require id)
  | advance id value => match w.require id with
    | .error e => some e
    | .ok (_, d) => unshown? w d value
  | has _ => none

/-- The definition that an import stores before it finds the id to be of no use. -/
def stray? : Operation → Option Definition
  | importDiagram (some text) id name =>
    if Text.blank text then none
    else (blankId? id).map fun id =>
      (readAs text.toList id ((nonEmpty? name).getD defaultName)).definition
  | _ => none

lemma stray?_of_isQuestion {op : Operation} (h : op.isQuestion = true) : op.stray? = none := by
  cases op with
  | importDiagram text id name => exact absurd h (by simp [isQuestion])
  | _ => rfl

/-- An import that strays is one under an id of blanks. -/
lemma blank_of_stray? {op : Operation} {d : Definition} (h : op.stray? = some d) :
    Text.blank d.id = true := by
  cases op with
  | importDiagram text id name => cases text with
    | none => exact absurd h (by simp [stray?])
    | some text =>
        rw [stray?] at h
        split at h
        · exact absurd h (by simp)
        · obtain ⟨usedId, husedId, rfl⟩ := Option.map_eq_some_iff.mp h
          exact (Option.filter_eq_some_iff.mp husedId).2
  | _ => exact absurd h (by simp [stray?])

end Operation

/-! ## What is stored -/

namespace World

/-- A definition is stored, and can be asked for. -/
structure Stores (w : World π) (d : Definition) : Prop where
  usable : Text.blank d.id = false
  found : w.definitions.get? d.id = some d

/-- Definitions are stored under their own ids. -/
def Keyed (w : World π) : Prop :=
  ∀ id d, w.definitions.get? id = some d → d.id = id

/-- What is found under an id is a definition with this id, and the id is not blank. -/
lemma Keyed.find?_eq_some_iff {w : World π} (h : w.Keyed) {id : String} {d : Definition} :
    w.definitions.find? (some id) = some d ↔ d.id = id ∧ w.Stores d := by
  rw [DefinitionStore.find?]
  by_cases hblank : Text.blank id = true
  · rw [if_pos hblank]
    constructor
    · simp
    · rintro ⟨rfl, stores⟩
      exact absurd (stores.usable.symm.trans hblank) (by simp)
  · rw [if_neg hblank]
    rw [Bool.not_eq_true] at hblank
    constructor
    · intro hfound
      obtain rfl := h id d hfound
      exact ⟨rfl, hblank, hfound⟩
    · rintro ⟨rfl, stores⟩
      exact stores.found

lemma get?_storeDefinition (w : World π) (d : Definition) (id : String) :
    (w.storeDefinition d).definitions.get? id =
      if id = d.id then some d else w.definitions.get? id :=
  KeyedMap.get?_put w.definitions d.id id d

lemma Keyed.storeDefinition {w : World π} (h : w.Keyed) (d : Definition) :
    (w.storeDefinition d).Keyed := by
  intro id d' hfound
  rw [get?_storeDefinition] at hfound
  split at hfound
  · rename_i hid
    obtain rfl := Option.some.inj hfound
    exact hid.symm
  · exact h id d' hfound

lemma Keyed.of_definitions_eq {w w' : World π} (h : w.Keyed)
    (heq : w'.definitions = w.definitions) : w'.Keyed := by
  intro id d hfound
  exact h id d (heq ▸ hfound)

lemma require_of_blank (w : World π) {id : String} (h : Text.blank id = true) :
    w.require (some id) = .error (.state .missingId) := by
  simp [require, InstanceStates.usableId, h, Except.mapError, bind, Except.bind]

lemma require_of_stores {w : World π} {d : Definition} (h : w.Stores d) :
    w.require (some d.id) = .ok (d.id, d) := by
  simp [require, InstanceStates.usableId, DefinitionStore.require, DefinitionStore.find?, h.usable,
    h.found, Except.mapError, bind, Except.bind, pure, Except.pure]

lemma refusalOf_prompt (w : World π) (id : Option String) :
    Operation.refusalOf (w.prompt id) = Operation.refusalOf (w.require id) := by
  unfold prompt
  cases w.require id with
  | error e => rfl
  | ok found => rfl

lemma refusalOf_nodeOf (w : World π) (id : Option String) :
    Operation.refusalOf (w.nodeOf id) = Operation.refusalOf (w.require id) := by
  unfold nodeOf
  cases w.require id with
  | error e => rfl
  | ok found => rfl

lemma refusalOf_variablesOf (w : World π) (id : Option String) :
    Operation.refusalOf (w.variablesOf id).1 = Operation.refusalOf (w.require id) := by
  unfold variablesOf
  cases w.require id with
  | error e => rfl
  | ok found => rfl

lemma variablesOf_error {w : World π} {id : Option String} {e : ControllerError}
    (h : (w.variablesOf id).1 = .error e) : (w.variablesOf id).2 = w := by
  unfold variablesOf at h ⊢
  split at h
  · rfl
  · exact absurd h (by simp)

lemma queue_variablesOf {w : World π} {id : Option String} :
    (w.variablesOf id).2.execution.queue = w.execution.queue := by
  unfold variablesOf
  split
  · rfl
  · rfl

/-- The variables are shown of an instance that comes into being for it, but on no node. -/
lemma unmoved_variablesOf (w : World π) (id : Option String) :
    w.Unmoved (w.variablesOf id).2 := by
  unfold variablesOf
  split
  · exact .refl w
  · exact ⟨rfl, rfl, InstanceStates.node?_put rfl⟩

lemma readDiagram_of_read {w : World π} {text id name : Option String} {reading : Reading}
    {supply : IdSupply} (h : Diagram.read text id name w.supply = (.ok reading, supply)) :
    w.readDiagram text id name = (.ok reading.definition, { w with supply }) := by
  simp [readDiagram, h, Except.map, Except.mapError]

lemma stores_storeDefinition_self (w : World π) {d : Definition} (h : Text.blank d.id = false) :
    (w.storeDefinition d).Stores d :=
  ⟨h, by rw [get?_storeDefinition, if_pos rfl]⟩

/-- Whoever is stored is not refused. -/
lemma Stores.refusalOf_require {w : World π} {d : Definition} (h : w.Stores d) :
    Operation.refusalOf (w.require (some d.id)) = none := by
  rw [require_of_stores h]
  rfl

/-- An id is refused, or a definition is stored under it. -/
lemma require_cases {w : World π} (hkeyed : w.Keyed) (id : Option String) :
    (∃ e, w.require id = .error e) ∨ ∃ d, id = some d.id ∧ w.Stores d := by
  cases husable : InstanceStates.usableId id with
  | error refusal =>
      exact .inl ⟨.state refusal, by simp [require, husable, Except.mapError, bind, Except.bind]⟩
  | ok usable =>
      obtain ⟨rfl, hblank⟩ := InstanceStates.usableId_eq_ok_iff.mp husable
      cases hfound : w.definitions.get? usable with
      | none =>
          refine .inl ⟨.store (.unknownId (some usable)), ?_⟩
          simp [require, husable, DefinitionStore.require, DefinitionStore.find?, hblank, hfound,
            Except.mapError, bind, Except.bind]
      | some d =>
          obtain rfl := hkeyed usable d hfound
          exact .inr ⟨d, rfl, hblank, hfound⟩

end World

/-! ## One step -/

namespace Controller

open Routine

/-- Nobody is at work but in the background, and definitions are stored under their own ids. -/
structure Orderly (s : Session (World π)) : Prop where
  queue : s.state.execution.queue = []
  company : ∀ t ∈ s.company.members, t.Keeps World.Quiet
  keyed : s.state.Keyed

/-- The world with the persistence told of a definition. -/
def told (c : Controller π) (d : Definition) (w : World π) : World π :=
  { w with archive := (c.persistence.create ⟨d, w.states.node? (some d.id)⟩ w.archive).2 }

/-- **What an operation can do**, with its answer. -/
inductive Step (c : Controller π) (s : Session (World π)) :
    Operation → Except ControllerError Answer → Session (World π) → Prop
  /-- What is refused changes nothing. -/
  | refused {op : Operation} {e : ControllerError} (hrefusal : op.refusal? s.state = some e)
      (hstray : op.stray? = none) : Step c s op (.error e) s
  /-- An id of blanks is refused only when the definition is stored. -/
  | stray {op : Operation} {d : Definition}
      (hrefusal : op.refusal? s.state = some (.state .missingId)) (hstray : op.stray? = some d) :
      Step c s op (.error (.state .missingId)) { s with state := s.state.storeDefinition d }
  | asked {op : Operation} {answer : Answer} {s' : Session (World π)}
      (accepted : op.refusal? s.state = none) (hquestion : op.isQuestion = true)
      (still : s.state.Unmoved s'.state) : Step c s op (.ok answer) s'
  | imported {text : String} {id name : Option String} {reading : Reading} {supply : IdSupply}
      {w w' : World π} {s' : Session (World π)}
      (accepted : (Operation.importDiagram (some text) id name).refusal? s.state = none)
      (read : Diagram.read (some text) id name s.state.supply = (.ok reading, supply))
      (usable : Text.blank reading.definition.id = false)
      (stored : (s.state.storeDefinition reading.definition).Unmoved w)
      (resumed : World.Resumed c.persistence reading.definition w w')
      (still : (c.told reading.definition w').Unmoved s'.state) :
      Step c s (.importDiagram (some text) id name) (.ok (.definition reading.definition)) s'
  | started {d : Definition} {answer : Answer} {s' : Session (World π)} (stored : s.state.Stores d)
      (resumed : World.Resumed c.persistence d s.state s'.state) :
      Step c s (.start (some d.id)) (.ok answer) s'
  | restarted {d : Definition} {answer : Answer} {s' : Session (World π)}
      (stored : s.state.Stores d)
      (moved : World.Moved c.persistence d (s.state.forget d.id) s'.state) :
      Step c s (.restart (some d.id)) (.ok answer) s'
  /-- The instance of an advance stood nowhere and was started, and then the value chose nothing and
  could not be shown. -/
  | stumbled {d : Definition} {value : Json} {cause : Json.TextError} {s' : Session (World π)}
      (stored : s.state.Stores d) (accepted : Operation.unshown? s.state d value = none)
      (nowhere : nonEmpty? (s.state.states.node? (some d.id)) = none) (hplace : HasPlace d)
      (resumed : World.Resumed c.persistence d s.state s'.state) :
      Step c s (.advance (some d.id) value) (.error (.text cause)) s'
  | advanced {d : Definition} {value : Json} {answer : Answer} {w : World π}
      {s' : Session (World π)} (stored : s.state.Stores d)
      (accepted : Operation.unshown? s.state d value = none)
      (resumed : w = s.state ∨ World.Resumed c.persistence d s.state w)
      (course : World.Course c.persistence d w s'.state) :
      Step c s (.advance (some d.id) value) (.ok answer) s'

/-! ### What each operation ensures -/

section

variable (c : Controller π) {w : World π}

lemma turn_onWorkflow {α : Type} {id : Option String} {e : ControllerError}
    (h : w.require id = .error e)
    (body : String → Definition → Routine (World π) (Except ControllerError α)) :
    (onWorkflow id body).turn w = (.done (.error e), w) := by
  rw [onWorkflow, turn_bind (turn_get w), h]
  rfl

lemma turn_onWorkflow_of_stores {α : Type} {d : Definition} (h : w.Stores d)
    (body : String → Definition → Routine (World π) (Except ControllerError α)) :
    (onWorkflow (some d.id) body).turn w = (body d.id d).turn w := by
  rw [onWorkflow, turn_bind (turn_get w), World.require_of_stores h]

lemma ensures_onWorkflow {α : Type} {d : Definition} {rely : World π → World π → Prop}
    {post : Except ControllerError α → World π → Prop} (h : w.Stores d)
    {body : String → Definition → Routine (World π) (Except ControllerError α)} :
    (onWorkflow (some d.id) body).Ensures rely post w ↔ (body d.id d).Ensures rely post w := by
  rw [onWorkflow, ensures_bind, ensures_get, World.require_of_stores h]

lemma ensures_start {d : Definition} (h : w.Stores d) :
    (c.start (some d.id)).Ensures World.Unmoved (fun answer w' => ∃ node, answer = .ok node ∧
      World.Resumed c.persistence d w w') w :=
  (ensures_onWorkflow h).mpr <| (c.ensures_resume d w).bind fun node _ resumed =>
    ⟨node, rfl, resumed.1⟩

lemma ensures_restart {d : Definition} (h : w.Stores d) :
    (c.restart (some d.id)).Ensures World.Unmoved (fun answer w' => ∃ node, answer = .ok node ∧
      World.Moved c.persistence d (w.forget d.id) w') w := by
  refine (ensures_onWorkflow h).mpr ?_
  rw [ensures_bind, ensures_modify]
  exact (c.ensures_enterStart d (w.forget d.id)).bind fun node _ begun => ⟨node, rfl, begun.1⟩

/-- What an instance comes to that advances, and stood nowhere before it was started. -/
def StartedFirst (p : Persistence π) (d : Definition) (w : World π) :
    Except ControllerError Bool → World π → Prop
  | .ok _, w' => ∃ w₁, World.Resumed p d w w₁ ∧ World.Course p d w₁ w'
  | .error e, w' => HasPlace d ∧ World.Resumed p d w w' ∧ ∃ cause, e = .text cause

/-- An instance that advances from where it stands follows the value. -/
lemma ensures_advance_of_standing {d : Definition} (h : w.Stores d) {node : String}
    (hstands : nonEmpty? (w.states.node? (some d.id)) = some node) (value : Json) :
    (c.advance (some d.id) value).Ensures World.Unmoved
      (Followed c.persistence d node value w) w := by
  refine (ensures_onWorkflow h).mpr ?_
  rw [ensures_bind, ensures_get, hstands]
  exact c.ensures_follow d w node value

/-- An instance that advances and stands nowhere is started first. -/
lemma ensures_advance_of_nowhere {d : Definition} (h : w.Stores d)
    (hnowhere : nonEmpty? (w.states.node? (some d.id)) = none) (value : Json) :
    (c.advance (some d.id) value).Ensures World.Unmoved (StartedFirst c.persistence d w) w := by
  refine (ensures_onWorkflow h).mpr ?_
  rw [ensures_bind, ensures_get, hnowhere]
  refine (c.ensures_resume d w).bind fun answer w₁ hresumed => ?_
  obtain ⟨resumed, hplace⟩ := hresumed
  split
  · rename_i node hnode
    have hanswer : answer ≠ none := by
      rintro rfl
      simp [nonEmpty?] at hnode
    refine (c.ensures_follow d w₁ node value).mono fun answer' w' hfollowed => ?_
    cases answer' with
    | ok moved => exact ⟨w₁, resumed, hfollowed⟩
    | error e =>
        obtain ⟨-, ⟨cause, -, rfl⟩, rfl⟩ := hfollowed
        exact ⟨hplace hanswer, resumed, cause, rfl⟩
  · exact ⟨w₁, resumed, .rest (.refl w₁)⟩

/-- A value that is refused is refused at once. -/
lemma turn_advance_unshown {d : Definition} (h : w.Stores d) {value : Json} {e : ControllerError}
    (hunshown : Operation.unshown? w d value = some e) :
    (c.advance (some d.id) value).turn w = (.done (.error e), w) := by
  obtain ⟨node, hstands, hchosen⟩ := Option.bind_eq_some_iff.mp hunshown
  rw [advance, turn_onWorkflow_of_stores h, turn_bind (turn_get w), hstands]
  dsimp only
  rw [follow]
  cases hselect : Choice.select d (d.outgoing node) value with
  | some way => simp [hselect] at hchosen
  | none =>
      rw [hselect] at hchosen
      cases hshown : value.checkText with
      | ok _ => simp [hshown, Except.mapError, Operation.refusalOf] at hchosen
      | error cause =>
          simp only [hshown, Except.mapError, Operation.refusalOf, Option.some.injEq] at hchosen
          rw [← hchosen]
          rfl

@[simp] lemma run_persistDefinition (d : Definition) (w : World π) :
    (c.persistDefinition d).run w = ((), c.told d w) := by
  rw [persistDefinition, run_bind, run_get]
  exact (run_bind ..).trans (by rw [run_zoom_archive]; rfl)

lemma ensures_persistDefinition (d : Definition) (w : World π) :
    (c.persistDefinition d).Ensures World.Unmoved (fun _ w' => (c.told d w).Unmoved w') w := by
  rw [persistDefinition, ensures_bind, ensures_get]
  exact (ensures_zoom_archive _ w).bind fun _ _ hcall => hcall.2

lemma ensures_importDiagram {text : String} {id name : Option String} {reading : Reading}
    {supply : IdSupply} (hread : Diagram.read (some text) id name w.supply = (.ok reading, supply))
    (husable : Text.blank reading.definition.id = false) :
    (c.importDiagram (some text) id name).Ensures World.Unmoved (fun answer w' =>
      answer = .ok reading.definition ∧ ∃ w₁ w₂, (w.storeDefinition reading.definition).Unmoved w₁ ∧
        World.Resumed c.persistence reading.definition w₁ w₂ ∧
          (c.told reading.definition w₂).Unmoved w') w := by
  have hstores := { w with supply }.stores_storeDefinition_self husable
  rw [importDiagram, ensures_bind, ensures_update, World.readDiagram_of_read hread]
  dsimp only
  rw [ensures_bind, ensures_modify]
  refine (c.ensures_start hstores).bind fun answer w₂ hstarted => ?_
  obtain ⟨_, rfl, resumed⟩ := hstarted
  refine (c.ensures_persistDefinition reading.definition w₂).bind fun _ w' told => ⟨rfl, ?_⟩
  exact ⟨{ w with supply }.storeDefinition reading.definition, w₂, ⟨rfl, rfl, fun _ => rfl⟩,
    resumed, told⟩

lemma turn_importDiagram_stray {text : String} {id name : Option String} {reading : Reading}
    (hread : Diagram.read (some text) id name w.supply = (.ok reading, w.supply))
    (hblank : Text.blank reading.definition.id = true) :
    (c.importDiagram (some text) id name).turn w =
      (.done (.error (.state .missingId)), w.storeDefinition reading.definition) := by
  rw [importDiagram, turn_bind (turn_update _ w), World.readDiagram_of_read hread]
  simp only
  rw [turn_bind (turn_modify _ w), start,
    turn_bind (turn_onWorkflow (World.require_of_blank _ hblank) _)]
  rfl

lemma turn_importDiagram_refused {text id name : Option String}
    (hread : Diagram.read text id name w.supply = (.error .emptyText, w.supply)) :
    (c.importDiagram text id name).turn w = (.done (.error (.diagram .emptyText)), w) := by
  have hanswer : w.readDiagram text id name = (.error (.diagram .emptyText), w) := by
    simp [World.readDiagram, hread, Except.map, Except.mapError]
  rw [importDiagram, turn_bind (turn_update _ w), hanswer]
  rfl

end

/-! ### In a session -/

/-- Nobody is to be hired as long as no work was left for later. -/
lemma idle_iff {w : World π} : Employer.Idle w ↔ w.execution.queue = [] := by
  constructor
  · intro h
    rw [← h.state]
    rfl
  · obtain ⟨definitions, ⟨states, registry, journal, queue, calls⟩, archive, supply⟩ := w
    rintro rfl
    exact ⟨rfl, rfl⟩

lemma hire_of_queue_eq_nil {w : World π} (h : w.execution.queue = [])
    (company : Company (World π) Unit) : Session.hire ⟨w, company⟩ = ⟨w, company⟩ :=
  Session.hire_of_idle (idle_iff.mpr h) company

lemma orderly_hire {w : World π} {company : Company (World π) Unit} (hkeyed : w.Keyed)
    (hcompany : ∀ t ∈ company.members, t.Keeps World.Quiet) :
    Orderly (Session.hire ⟨w, company⟩) ∧ w.Unmoved (Session.hire ⟨w, company⟩).state := by
  obtain ⟨hquiet, hnewcomers⟩ := w.quiet_hire
  exact ⟨⟨rfl, Company.keeps_join hcompany hnewcomers, hkeyed⟩, hquiet.still⟩

variable {s : Session (World π)} {α : Type}

lemma perform_at_once {operation : Routine (World π) α} {answer : α} {w : World π}
    (hturn : operation.turn s.state = (.done answer, w)) (hqueue : w.execution.queue = []) :
    s.perform operation = (some answer, ⟨w, s.company⟩) := by
  rw [Session.perform_of_turn hturn, hire_of_queue_eq_nil hqueue]

lemma perform_ensured (hs : Orderly s) {operation : Routine (World π) α}
    {post : α → World π → Prop} (hop : operation.Ensures World.Unmoved post s.state)
    (hkeyed : ∀ answer w, post answer w → w.Keyed) :
    ∃ answer s' w, s.perform operation = (some answer, s') ∧ Orderly s' ∧ post answer w ∧
      w.Unmoved s'.state := by
  obtain ⟨answer, w, company, hperform, hpost, hcompany⟩ :=
    Session.perform_answers World.Quiet.refl World.Quiet.trans World.quiet_hire
      (hop.weaken World.Quiet.still) hs.company
  obtain ⟨horderly, hunmoved⟩ := orderly_hire (hkeyed answer w hpost) hcompany
  exact ⟨answer, _, w, hperform, horderly, hpost, hunmoved⟩

lemma Step.keyed {c : Controller π} {op : Operation} {answer : Except ControllerError Answer}
    {s' : Session (World π)} (h : Step c s op answer s') (hkeyed : s.state.Keyed) :
    s'.state.Keyed := by
  cases h with
  | refused hrefusal hstray => exact hkeyed
  | stray hrefusal hstray => exact hkeyed.storeDefinition _
  | asked accepted hquestion still => exact hkeyed.of_definitions_eq still.definitions
  | imported accepted read usable stored resumed still =>
      exact (hkeyed.storeDefinition _).of_definitions_eq
        (still.definitions.trans (resumed.definitions.trans stored.definitions))
  | started stored resumed => exact hkeyed.of_definitions_eq resumed.definitions
  | restarted stored moved => exact hkeyed.of_definitions_eq moved.definitions
  | stumbled stored accepted nowhere hplace resumed =>
      exact hkeyed.of_definitions_eq resumed.definitions
  | advanced stored accepted resumed course =>
      rcases resumed with rfl | resumed
      · exact hkeyed.of_definitions_eq course.definitions
      · exact hkeyed.of_definitions_eq (course.definitions.trans resumed.definitions)

/-- An operation that comes to an answer, in one step. -/
def ComesToStep (c : Controller π) (s : Session (World π)) (op : Operation) : Prop :=
  ∃ answer s', s.perform (op.routine c) = (some answer, s') ∧ Orderly s' ∧ Step c s op answer s'

lemma step_at_once (c : Controller π) (hs : Orderly s) {op : Operation} {w : World π}
    {answer : Except ControllerError Answer}
    (hturn : (op.routine c).turn s.state = (.done answer, w)) (hqueue : w.execution.queue = [])
    (hstep : Step c s op answer ⟨w, s.company⟩) : ComesToStep c s op :=
  ⟨answer, _, perform_at_once hturn hqueue, ⟨hqueue, hs.company, hstep.keyed hs.keyed⟩, hstep⟩

lemma step_refused (c : Controller π) (hs : Orderly s) {op : Operation} {e : ControllerError}
    (hturn : (op.routine c).turn s.state = (.done (.error e), s.state))
    (hrefusal : op.refusal? s.state = some e) (hstray : op.stray? = none) :
    ComesToStep c s op :=
  step_at_once c hs hturn hs.queue (.refused hrefusal hstray)

/-- A question is answered at once, and refused without a change. -/
lemma step_asked (c : Controller π) (hs : Orderly s) {op : Operation}
    (ask : World π → Except ControllerError α × World π) {toAnswer : α → Answer}
    (hroutine : op.routine c = Routine.update fun w => ((ask w).1.map toAnswer, (ask w).2))
    (hquestion : op.isQuestion = true)
    (hrefusal : op.refusal? s.state = Operation.refusalOf (ask s.state).1)
    (herror : ∀ e, (ask s.state).1 = .error e → (ask s.state).2 = s.state)
    (hqueue : (ask s.state).2.execution.queue = []) (still : s.state.Unmoved (ask s.state).2) :
    ComesToStep c s op := by
  have hturn : (op.routine c).turn s.state =
      (.done ((ask s.state).1.map toAnswer), (ask s.state).2) := by
    rw [hroutine, turn_update]
  cases hask : (ask s.state).1 with
  | error e =>
      rw [hask] at hrefusal
      rw [hask, herror e hask] at hturn
      exact step_refused c hs hturn hrefusal (Operation.stray?_of_isQuestion hquestion)
  | ok value =>
      rw [hask] at hrefusal hturn
      exact step_at_once c hs hturn hqueue (.asked hrefusal hquestion still)

lemma step_ensured (c : Controller π) (hs : Orderly s) {op : Operation}
    {work : Routine (World π) (Except ControllerError α)} {toAnswer : α → Answer}
    (hroutine : op.routine c = work.map (Except.map toAnswer))
    {post : Except ControllerError α → World π → Prop}
    (hwork : work.Ensures World.Unmoved post s.state)
    (hstep : ∀ answer w s', post answer w → w.Unmoved s'.state →
      Step c s op (answer.map toAnswer) s') : ComesToStep c s op := by
  have hop : (op.routine c).Ensures World.Unmoved
      (fun answer w => ∃ value, answer = value.map toAnswer ∧ post value w) s.state := by
    rw [hroutine, ensures_map]
    exact hwork.mono fun value w hpost => ⟨value, rfl, hpost⟩
  have hkeyed : ∀ answer w, (∃ value, answer = value.map toAnswer ∧ post value w) → w.Keyed := by
    rintro _ w ⟨value, rfl, hpost⟩
    -- a step may be seen before anybody is hired
    exact (hstep value w ⟨w, .empty⟩ hpost (.refl w)).keyed hs.keyed
  obtain ⟨_, s', w, hperform, horderly, ⟨value, rfl, hpost⟩, still⟩ :=
    perform_ensured hs hop hkeyed
  exact ⟨_, s', hperform, horderly, hstep value w s' hpost still⟩

/-- An import is refused, or strays, or is carried out. -/
lemma step_importDiagram (c : Controller π) (hs : Orderly s) (text id name : Option String) :
    ComesToStep c s (.importDiagram text id name) := by
  rcases Diagram.read_cases text id name s.state.supply with
    ⟨htext, hread⟩ | ⟨given, usedId, supply', rfl, hgiven, hread, hid⟩
  · refine step_refused c hs (turn_map (turn_importDiagram_refused c hread) _) ?_ ?_
    · simp [Operation.refusal?, htext]
    · cases text with
      | none => rfl
      | some text => exact if_pos htext
  · by_cases hblank : Text.blank usedId = true
    · obtain ⟨hused, rfl⟩ := hid.resolve_right fun hmade => by simp [hblank] at hmade
      have hid : Operation.blankId? id = some usedId :=
        Option.filter_eq_some_iff.mpr ⟨hused, hblank⟩
      refine step_at_once c hs (turn_map (turn_importDiagram_stray c hread hblank) _) hs.queue
        (.stray ?_ ?_)
      · simp [Operation.refusal?, Text.blank?, hgiven, hid]
      · simp [Operation.stray?, hgiven, hid]
    · rw [Bool.not_eq_true] at hblank
      have hid : Operation.blankId? id = none := by
        rcases hid with ⟨hused, -⟩ | ⟨hnone, -⟩
        · simp [Operation.blankId?, hused, hblank, Option.filter]
        · simp [Operation.blankId?, hnone]
      have haccepted : (Operation.importDiagram (some given) id name).refusal? s.state = none := by
        simp [Operation.refusal?, Text.blank?, hgiven, hid]
      refine step_ensured c hs rfl (ensures_importDiagram c hread hblank) ?_
      rintro _ _ s' ⟨rfl, w₁, w₂, stored, resumed, told⟩ still
      exact .imported haccepted hread hblank stored resumed (told.trans still)

/-- An advance is refused for its value, or follows it, perhaps behind the start of its instance. -/
lemma step_advance (c : Controller π) (hs : Orderly s) {d : Definition} (stored : s.state.Stores d)
    (value : Json) : ComesToStep c s (.advance (some d.id) value) := by
  cases hunshown : Operation.unshown? s.state d value with
  | some e =>
      refine step_refused c hs (turn_map (c.turn_advance_unshown stored hunshown) _) ?_ rfl
      rw [Operation.refusal?, World.require_of_stores stored]
      exact hunshown
  | none =>
      cases hstands : nonEmpty? (s.state.states.node? (some d.id)) with
      | some node =>
          refine step_ensured c hs rfl (c.ensures_advance_of_standing stored hstands value) ?_
          intro answer w s' hfollowed still
          cases answer with
          | ok moved => exact .advanced stored hunshown (.inl rfl) (World.Course.still hfollowed still)
          | error e =>
              obtain ⟨hselect, ⟨cause, hshown, -⟩, -⟩ := hfollowed
              simp [Operation.unshown?, hstands, hselect, hshown, Except.mapError,
                Operation.refusalOf] at hunshown
      | none =>
          refine step_ensured c hs rfl (c.ensures_advance_of_nowhere stored hstands value) ?_
          intro answer w s' hstarted still
          cases answer with
          | ok moved =>
              obtain ⟨w₁, resumed, course⟩ := hstarted
              exact .advanced stored hunshown (.inr resumed) (course.still still)
          | error e =>
              obtain ⟨hplace, resumed, cause, rfl⟩ := hstarted
              exact .stumbled stored hunshown hstands hplace (resumed.still still)

/-- **An operation always comes to an answer**, and does what an operation can do. -/
theorem perform_step (c : Controller π) (hs : Orderly s) (op : Operation) :
    ComesToStep c s op := by
  cases op with
  | importDiagram text id name => exact step_importDiagram c hs text id name
  | start id =>
      rcases World.require_cases hs.keyed id with ⟨e, he⟩ | ⟨d, rfl, stored⟩
      · exact step_refused c hs (turn_map (turn_onWorkflow he _) _)
          (by rw [Operation.refusal?, he]; rfl) rfl
      · refine step_ensured c hs rfl (c.ensures_start stored) ?_
        rintro _ w s' ⟨node, rfl, resumed⟩ still
        exact .started stored (resumed.still still)
  | restart id =>
      rcases World.require_cases hs.keyed id with ⟨e, he⟩ | ⟨d, rfl, stored⟩
      · exact step_refused c hs (turn_map (turn_onWorkflow he _) _)
          (by rw [Operation.refusal?, he]; rfl) rfl
      · refine step_ensured c hs rfl (ensures_restart c stored) ?_
        rintro _ w s' ⟨node, rfl, moved⟩ still
        exact .restarted stored (moved.append (.rest still))
  | advance id value =>
      rcases World.require_cases hs.keyed id with ⟨e, he⟩ | ⟨d, rfl, stored⟩
      · exact step_refused c hs (turn_map (turn_onWorkflow he _) _)
          (by rw [Operation.refusal?, he]) rfl
      · exact step_advance c hs stored value
  | promptOf id =>
      exact step_asked c hs (fun w => (w.prompt id, w)) rfl rfl (s.state.refusalOf_prompt id).symm
        (fun _ _ => rfl) hs.queue (.refl _)
  | nodeOf id =>
      exact step_asked c hs (fun w => (w.nodeOf id, w)) rfl rfl (s.state.refusalOf_nodeOf id).symm
        (fun _ _ => rfl) hs.queue (.refl _)
  | variablesOf id =>
      exact step_asked c hs (fun w => w.variablesOf id) rfl rfl
        (s.state.refusalOf_variablesOf id).symm (fun _ => World.variablesOf_error)
        (World.queue_variablesOf.trans hs.queue) (World.unmoved_variablesOf s.state id)
  | has id =>
      exact step_asked c hs (fun w => (.ok (w.definitions.has id), w)) rfl rfl rfl
        (fun _ _ => rfl) hs.queue (.refl _)

/-- Waiting for the background moves nobody. -/
theorem drain_quiet (c : Controller π) (hs : Orderly s) :
    Orderly (c.drain s) ∧ s.state.Unmoved (c.drain s).state := by
  unfold drain
  split
  · unfold Options.drain
    split
    · obtain ⟨hquiet, hcompany⟩ :=
        Session.finish_keeps World.Quiet.refl World.Quiet.trans hs.company
      exact ⟨⟨hquiet.queue hs.queue, hcompany, hs.keyed.of_definitions_eq hquiet.still.definitions⟩,
        hquiet.still⟩
    · exact ⟨hs, .refl _⟩
  · exact ⟨hs, .refl _⟩

end Controller

end ActivityFlow
