import ActivityFlow.Proofs.Action.Sources
import ActivityFlow.Proofs.Routine.Interference

/-!
# Handlers move no instance

A handler reads and writes variables, and an instance may come into being for that.  But it comes
into being on no node, and an instance that was there keeps its node.  So whatever a handler does,
and whatever becomes of its call, every instance stands where it stood (`Still`).  Nor does it leave
work for later, or change where handlers come from (`Calm`); only whoever asks for an action in the
background leaves work.

* `keeps_unwind`, `keeps_drive` — the work of a handler, by induction on what it does.
* `keeps_run` — a call, from the search for its handler to the merging of its result.
* **`keeps_execute`** — executing an action, in the foreground or in the background.
-/

namespace ActivityFlow

/-! ## What is done to the instances -/

namespace InstanceStates

/-- Putting a state moves nobody when it names the node that its instance stands on. -/
lemma node?_put {states : InstanceStates} {id : String} {state : InstanceState}
    (h : state.node = (states.stateOf id).node) (other : Option String) :
    node? (states.put id state) other = states.node? other := by
  cases other with
  | none => rfl
  | some other =>
      simp only [node?, state?, Option.bind_some, KeyedMap.get?_put, id_eq]
      by_cases heq : other = id
      · subst heq
        rw [if_pos rfl, Option.bind_some, h, stateOf]
        cases states.get? other <;> rfl
      · rw [if_neg heq]

lemma node?_putVariables (states : InstanceStates) (id : String) (bag : VariableBag)
    (other : Option String) : node? (states.putVariables id bag) other = states.node? other := by
  have hnode : { states.stateOf id with bag := bag }.node = (states.stateOf id).node := rfl
  exact node?_put hnode other

/-- Writing a variable replaces the variables of one instance, or is refused. -/
lemma eq_putVariables_of_setVariable {states states' : InstanceStates} {id key : Option String}
    {value : Json} (h : states.setVariable id key value = .ok states') :
    ∃ usable bag, states' = states.putVariables usable bag := by
  unfold setVariable at h
  cases hid : usableId id with
  | error refusal => exact absurd h (by simp [hid, bind, Except.bind])
  | ok usable => cases key with
    | none => exact absurd h (by simp [hid, bind, Except.bind])
    | some key =>
        by_cases hblank : Text.blank key = true
        · exact absurd h (by simp [hid, hblank, bind, Except.bind])
        · simp only [hid, hblank, bind, Except.bind, pure, Except.pure, Bool.false_eq_true,
            if_false, Except.ok.injEq] at h
          exact ⟨usable, _, h.symm⟩

/-- So does writing several. -/
lemma eq_putVariables_of_setVariables {states states' : InstanceStates} {id : Option String}
    {pairs : List (Option String × Json)} (h : states.setVariables id pairs = .ok states') :
    ∃ usable bag, states' = states.putVariables usable bag := by
  unfold setVariables at h
  cases hid : usableId id with
  | error refusal => exact absurd h (by simp [hid, bind, Except.bind])
  | ok usable =>
      simp only [hid, bind, Except.bind, pure, Except.pure, Except.ok.injEq] at h
      exact ⟨usable, _, h.symm⟩

end InstanceStates

/-! ## What handlers and their callers do -/

namespace ExecutionState

/-- Between two states no instance moved. -/
def Still (s s' : ExecutionState) : Prop :=
  ∀ id, s'.states.node? id = s.states.node? id

/-- Between two states no instance moved, no work was left for later, and handlers come from where
    they came from. -/
structure Calm (s s' : ExecutionState) : Prop where
  still : Still s s'
  queue : s'.queue = s.queue
  sources : s'.registry.sources = s.registry.sources

lemma Calm.refl (s : ExecutionState) : Calm s s :=
  ⟨fun _ => rfl, rfl, rfl⟩

lemma Calm.trans {s s' s'' : ExecutionState} (h : Calm s s') (h' : Calm s' s'') : Calm s s'' :=
  ⟨fun id => (h'.still id).trans (h.still id), h'.queue.trans h.queue,
    h'.sources.trans h.sources⟩

lemma calm_report (event : Event) (s : ExecutionState) : Calm s (s.report event).2 :=
  ⟨fun _ => rfl, rfl, rfl⟩

lemma calm_bagOf (workflow : String) (s : ExecutionState) : Calm s (s.bagOf workflow).2 :=
  ⟨InstanceStates.node?_put rfl, rfl, rfl⟩

lemma calm_readVariable (workflow key : String) (default : Json) (s : ExecutionState) :
    Calm s (s.readVariable workflow key default).2 :=
  calm_bagOf workflow s

lemma calm_writeVariable (workflow key : String) (value : Json) (s : ExecutionState) :
    Calm s (s.writeVariable workflow key value).2 := by
  unfold writeVariable
  split
  · rename_i states h
    obtain ⟨usable, bag, rfl⟩ := InstanceStates.eq_putVariables_of_setVariable h
    exact ⟨InstanceStates.node?_putVariables s.states usable bag, rfl, rfl⟩
  · exact ⟨fun _ => rfl, rfl, rfl⟩

lemma calm_useVariables (workflow : String) (operation : BagOperation) (s : ExecutionState) :
    Calm s (s.useVariables workflow operation).2 :=
  (calm_bagOf workflow s).trans
    ⟨InstanceStates.node?_putVariables (s.bagOf workflow).2.states workflow _, rfl, rfl⟩

lemma calm_listVariables (workflow : String) (s : ExecutionState) :
    Calm s (s.listVariables workflow).2 :=
  calm_bagOf workflow s

lemma calm_resolve (action workflow : String) (s : ExecutionState) :
    Calm s (s.resolve action workflow).2 :=
  ⟨fun _ => rfl, rfl, s.registry.sources_resolve action (some workflow)⟩

lemma calm_countCall (s : ExecutionState) : Calm s s.countCall.2 :=
  ⟨fun _ => rfl, rfl, rfl⟩

lemma calm_merge (workflow : String) (updates : List (String × String)) (s : ExecutionState) :
    Calm s (s.merge workflow updates) := by
  unfold merge
  split
  · exact ⟨fun _ => rfl, rfl, rfl⟩
  · split
    · rename_i states h
      obtain ⟨usable, bag, rfl⟩ := InstanceStates.eq_putVariables_of_setVariables h
      exact ⟨InstanceStates.node?_putVariables s.states usable bag, rfl, rfl⟩
    · exact ⟨fun _ => rfl, rfl, rfl⟩

end ExecutionState

open ExecutionState Routine

/-! ## The work of a handler -/

/-- What the single steps of a handler keep to. -/
structure Behaviour.StepsKeep (workflow : String) (guar : ExecutionState → ExecutionState → Prop) :
    Prop where
  read : ∀ key default s, guar s (s.readVariable workflow key default).2
  write : ∀ key value s, guar s (s.writeVariable workflow key value).2
  use : ∀ operation s, guar s (s.useVariables workflow operation).2
  list : ∀ s, guar s (s.listVariables workflow).2
  report : ∀ event s, guar s (s.report event).2

variable {guar : ExecutionState → ExecutionState → Prop}

lemma keeps_lookAfter (turns : ℕ) (late : Bool) : (lookAfter turns late).Keeps guar := by
  refine (keeps_pauses turns).bind fun _ => ?_
  cases late with
  | false => exact keeps_pure ()
  | true => exact (keeps_pure ()).giveWay

lemma Ending.keeps_seen (ending : Ending) (w : Watch) : (ending.seen w).Keeps guar :=
  (keeps_lookAfter _ _).bind fun _ => keeps_pure ending

lemma Ending.keeps_seenStopped : Ending.seenStopped.Keeps guar :=
  (keeps_lookAfter 2 false).bind fun _ => keeps_pure stopped

namespace Behaviour

variable {workflow : String}

/-- A stopped handler keeps to what its steps keep to, whatever it still does. -/
lemma keeps_unwind (h : StepsKeep workflow guar) (b : Behaviour) :
    (b.unwind workflow).Keeps guar := by
  induction b with
  | finish value => exact Ending.keeps_seenStopped
  | fail message => exact Ending.keeps_seenStopped
  | giveUp => exact Ending.keeps_seenStopped
  | read key default next ih => exact keeps_step (h.read key default) ih
  | write key value next ih => exact keeps_step (h.write key value) ih
  | use operation next ih => exact keeps_step (h.use operation) ih
  | list next ih => exact keeps_step h.list ih
  | report event next ih => exact keeps_step (h.report event) fun _ => ih
  | look next ih => exact ih true
  | signal next ih => exact ih
  | pause resumed stopped ih _ => exact ih.pause
  | wait stopped _ => exact keeps_pure _

/-- A handler keeps to what its steps keep to, whether it comes to its end or is stopped. -/
lemma keeps_drive (h : StepsKeep workflow guar) (b : Behaviour) (w : Watch) :
    (b.drive workflow w).Keeps guar := by
  induction b generalizing w with
  | finish value => exact Ending.keeps_seen _ w
  | fail message => exact Ending.keeps_seen _ w
  | giveUp => exact Ending.keeps_seen _ w
  | read key default next ih => exact keeps_step (h.read key default) fun value => ih value w
  | write key value next ih => exact keeps_step (h.write key value) fun refusal => ih refusal w
  | use operation next ih => exact keeps_step (h.use operation) fun answer => ih answer w
  | list next ih => exact keeps_step h.list fun entries => ih entries w
  | report event next ih => exact keeps_step (h.report event) fun _ => ih w
  | look next ih => exact ih w.signalled w
  | signal next ih => exact ih w.signal
  | pause resumed stopped ih _ =>
      rw [drive]
      split
      · exact (keeps_unwind h stopped).pause
      · exact (ih w.afterTurn).pause
  | wait stopped _ =>
      have hstopped := keeps_unwind h stopped
      rw [drive]
      split
      · exact (keeps_lookAfter _ _).bind fun _ => (keeps_pauses 1).bind fun _ => hstopped
      · split
        · exact ((keeps_pauses _).bind fun _ => hstopped).wait _ _
        · exact keeps_pure _

/-- A handler moves nobody. -/
lemma stepsKeep_calm (workflow : String) : StepsKeep workflow Calm where
  read := calm_readVariable workflow
  write := calm_writeVariable workflow
  use := calm_useVariables workflow
  list := calm_listVariables workflow
  report := calm_report

end Behaviour

/-! ## A call -/

namespace ScheduledCall

lemma keeps_conclude (c : ScheduledCall) (ending : Ending) : (c.conclude ending).Keeps Calm := by
  cases ending with
  | returned value =>
      rw [conclude]
      split
      · exact keeps_pure _
      · exact (keeps_modify (calm_merge _ _)).bind fun _ => keeps_pure _
  | failed message => exact keeps_pure _
  | gaveUp => exact keeps_pure _
  | stopped => exact keeps_pure _
  | suspended => exact keeps_pure _

lemma keeps_run (c : ScheduledCall) : c.run.Keeps Calm := by
  refine (keeps_update (calm_resolve _ _)).bind fun found => ?_
  cases found with
  | error message => exact keeps_pure _
  | ok handler => cases handler with
    | none => exact keeps_pure _
    | some handler =>
        refine (keeps_update calm_countCall).bind fun number => (keeps_pauses 1).bind fun _ => ?_
        exact (Behaviour.keeps_drive (Behaviour.stepsKeep_calm _) _ _).bind fun ending =>
          c.keeps_conclude ending

end ScheduledCall

lemma keeps_dispatch (options : Options) (q : Request) (workflow : String) (node : Node)
    (descriptor : Descriptor) (bag : VariableBag) :
    (dispatch options q workflow node descriptor bag).Keeps Still := by
  unfold dispatch
  split
  · exact keeps_pure _
  · dsimp only
    split
    · exact (keeps_modify fun _ _ => rfl).bind fun _ => keeps_pure _
    · exact (ScheduledCall.keeps_run _).weaken Calm.still

/-- **Executing an action moves no instance.** -/
theorem keeps_execute (options : Options) (q : Request) : (execute options q).Keeps Still := by
  unfold execute
  split
  · exact keeps_pure _
  · refine keeps_get.bind fun s => ?_
    split
    · split
      · exact keeps_pure _
      · refine (keeps_update fun s => (calm_bagOf _ s).still).bind fun bag => ?_
        exact (keeps_dispatch _ _ _ _ _ bag).bind fun outcome => keeps_pure _
    · exact keeps_pure _

/-- Those who do the work in the background move no instance either, and leave no more work. -/
lemma ExecutionState.keeps_hire (s : ExecutionState) :
    ∀ t ∈ (Employer.hire s).1, t.Keeps Calm := by
  rintro _ ht
  obtain ⟨c, _, rfl⟩ := List.mem_map.mp ht
  exact c.keeps_run.bind fun outcome => keeps_pure ()

end ActivityFlow
