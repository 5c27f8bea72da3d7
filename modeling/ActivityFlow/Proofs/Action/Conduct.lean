import ActivityFlow.Proofs.Action.Seclusion
import ActivityFlow.Proofs.Action.Stillness
import ActivityFlow.Proofs.Instance.Remembering
import ActivityFlow.Proofs.Routine.Straight

/-!
# What handlers do to variables

A handler changes variables of its instance at once, and what it returns is merged into them when it
ran to its end.  This module tells the two apart.

* `Behaviour.Course` — the courses that the work of a handler may take: what it changes at once, and
  how it ends.  Where the outside has a say, there is a course for each thing that it may say.
* `Behaviour.took_drive` — a handler that works for its caller takes one of its courses, and what
  happens to the instances is what that course changes.
* `run_execute` — the execution of an action in one step, around the call that it makes.
* `Goes` — how an execution in the foreground goes, and **`goes_execute`**: every one goes so.
* `Goes.calls_eq`, **`Goes.merges`** — what follows of it: who was called, and what was changed.
-/

namespace ActivityFlow

/-! ## Variables of an instance -/

namespace ExecutionState

/-- The variables of an instance. -/
def bag (s : ExecutionState) (workflow : String) : VariableBag :=
  (s.states.stateOf workflow).bag

/-- Between two states these changes were made to the variables of an instance, in this order, and
    nothing else happened to any instance. -/
structure Wrote (workflow : String) (changes : List BagChange) (s s' : ExecutionState) : Prop where
  own : s'.bag workflow = (s.bag workflow).changed changes
  node : (s'.states.stateOf workflow).node = (s.states.stateOf workflow).node
  others : ∀ other, other ≠ workflow → s'.states.get? other = s.states.get? other

variable {workflow : String} {changes more : List BagChange} {s s' s'' : ExecutionState}

lemma wrote_nil (h : s'.states = s.states) : Wrote workflow [] s s' :=
  ⟨by rw [bag, h]; rfl, by rw [h], fun _ _ => by rw [h]⟩

lemma Wrote.append (h : Wrote workflow changes s s') (hmore : Wrote workflow more s' s'') :
    Wrote workflow (changes ++ more) s s'' where
  own := by rw [hmore.own, h.own, VariableBag.changed_append]
  node := hmore.node.trans h.node
  others := fun other hother => (hmore.others other hother).trans (h.others other hother)

lemma stateOf_put_self (states : InstanceStates) (id : String) (state : InstanceState) :
    InstanceStates.stateOf (states.put id state) id = state := by
  rw [InstanceStates.stateOf, KeyedMap.get?_put_self]
  rfl

lemma wrote_putVariables {bag : VariableBag} (h : bag = (s.bag workflow).changed changes) :
    Wrote workflow changes s { s with states := s.states.putVariables workflow bag } where
  own := by rw [ExecutionState.bag, InstanceStates.putVariables, stateOf_put_self, h]
  node := by rw [InstanceStates.putVariables, stateOf_put_self]
  others := fun _ hother => (KeyedMap.get?_put ..).trans (if_neg hother)

/-- An instance that comes into being has no variables yet. -/
lemma wrote_bagOf (workflow : String) (s : ExecutionState) :
    Wrote workflow [] s (s.bagOf workflow).2 where
  own := by
    rw [bag, bagOf, stateOf_put_self]
    rfl
  node := by rw [bagOf, stateOf_put_self]
  others := fun _ hother => (KeyedMap.get?_put ..).trans (if_neg hother)

lemma bag_bagOf (workflow : String) (s : ExecutionState) :
    (s.bagOf workflow).2.bag workflow = s.bag workflow :=
  (wrote_bagOf workflow s).own

lemma wrote_useVariables (workflow : String) (operation : BagOperation) (s : ExecutionState) :
    Wrote workflow (operation.changesTo (s.bag workflow)) s
      (s.useVariables workflow operation).2 := by
  have hused : leftBy operation.program (s.bag workflow) =
      ((s.bagOf workflow).2.bag workflow).changed (operation.changesTo (s.bag workflow)) := by
    rw [bag_bagOf, operation.leftBy_eq_changed]
  exact (wrote_bagOf workflow s).append (wrote_putVariables hused)

/-- Who wrote variables of an instance moved nobody. -/
lemma Wrote.node?_eq (h : Wrote workflow changes s s') (id : Option String) :
    s'.states.node? id = s.states.node? id := by
  have hstand (states : InstanceStates) (id : String) :
      (states.get? id).bind (·.node) = (states.stateOf id).node := by
    rw [InstanceStates.stateOf]
    cases states.get? id <;> rfl
  cases id with
  | none => rfl
  | some id =>
      simp only [InstanceStates.node?, InstanceStates.state?, Option.bind_some]
      by_cases heq : id = workflow
      · rw [heq, hstand, hstand, h.node]
      · rw [h.others id heq]

lemma writeVariable_of_blank {key : String} (hworkflow : Text.blank workflow = false)
    (hkey : Text.blank key = true) (value : Json) (s : ExecutionState) :
    s.writeVariable workflow key value = (some .missingKey, s) := by
  simp [writeVariable, InstanceStates.setVariable, InstanceStates.usableId, hworkflow, hkey, bind,
    Except.bind, throw, throwThe, MonadExceptOf.throw]

lemma writeVariable_of_not_blank {key : String} (hworkflow : Text.blank workflow = false)
    (hkey : Text.blank key = false) (value : Json) (s : ExecutionState) :
    s.writeVariable workflow key value = (none, { s with
      states := s.states.putVariables workflow ((s.bag workflow).put key value) }) := by
  simp [writeVariable, InstanceStates.setVariable, InstanceStates.usableId, hworkflow, hkey, bind,
    Except.bind, pure, Except.pure]
  rfl

/-- What is written when texts are merged: a blank name is passed over. -/
def mergedPairs (updates : List (String × String)) : List (String × Json) :=
  InstanceStates.namedPairs (updates.map fun update => (some update.1, .str update.2))

/-- The writes of a merge. -/
def mergedChanges (updates : List (String × String)) : List BagChange :=
  (mergedPairs updates).map fun pair => .write pair.1 pair.2

lemma wrote_merge (hworkflow : Text.blank workflow = false) (updates : List (String × String))
    (s : ExecutionState) : Wrote workflow (mergedChanges updates) s (s.merge workflow updates) := by
  unfold merge
  split
  · rename_i hempty
    rw [List.isEmpty_iff.mp hempty]
    exact wrote_nil rfl
  · have hmerge := wrote_putVariables (s := s)
      ((s.bag workflow).changed_writes (mergedPairs updates)).symm
    simpa [InstanceStates.setVariables, InstanceStates.usableId, hworkflow, bind, Except.bind, pure,
      Except.pure, bag, mergedPairs, mergedChanges] using hmerge

/-- Between two states no call was counted. -/
def SameCalls (s s' : ExecutionState) : Prop :=
  s'.calls = s.calls

lemma SameCalls.refl (s : ExecutionState) : s.SameCalls s :=
  rfl

lemma SameCalls.trans (h : s.SameCalls s') (h' : s'.SameCalls s'') : s.SameCalls s'' :=
  Eq.trans h' h

lemma calls_writeVariable (workflow key : String) (value : Json) (s : ExecutionState) :
    (s.writeVariable workflow key value).2.calls = s.calls := by
  unfold writeVariable
  split
  · rfl
  · rfl

lemma calls_merge (workflow : String) (updates : List (String × String)) (s : ExecutionState) :
    (s.merge workflow updates).calls = s.calls := by
  unfold merge
  split
  · rfl
  · split
    · rfl
    · rfl

end ExecutionState

/-- No step of a handler is a call. -/
lemma Behaviour.stepsKeep_calls (workflow : String) :
    StepsKeep workflow ExecutionState.SameCalls where
  read := fun _ _ _ => rfl
  write := ExecutionState.calls_writeVariable workflow
  use := fun _ _ => rfl
  list := fun _ => rfl
  report := fun _ _ => rfl

/-! ## The courses of a handler -/

/-- A course that the work of a handler may take, given the variables of its instance: what it
    changes at once, and how it ends.  A write under a blank name is refused and changes nothing. -/
inductive Behaviour.Course : Behaviour → VariableBag → (changes : List BagChange) → Ending → Prop
  | finish (value : Json) (bag : VariableBag) : Course (.finish value) bag [] (.returned value)
  | fail (message : Message) (bag : VariableBag) : Course (.fail message) bag [] (.failed message)
  | giveUp (bag : VariableBag) : Course .giveUp bag [] .gaveUp
  | read {key : String} {default : Json} {next : Json → Behaviour} {bag : VariableBag}
      {changes : List BagChange} {ending : Ending}
      (h : Course (next (bag.getD key default)) bag changes ending) :
      Course (.read key default next) bag changes ending
  | refused {key : String} {value : Json} {next : Option StateError → Behaviour} {bag : VariableBag}
      {changes : List BagChange} {ending : Ending} (hkey : Text.blank key = true)
      (h : Course (next (some .missingKey)) bag changes ending) :
      Course (.write key value next) bag changes ending
  | write {key : String} {value : Json} {next : Option StateError → Behaviour} {bag : VariableBag}
      {changes : List BagChange} {ending : Ending} (hkey : Text.blank key = false)
      (h : Course (next none) (bag.put key value) changes ending) :
      Course (.write key value next) bag (.write key value :: changes) ending
  | use {operation : BagOperation}
      {next : Except VariableBag.BagError (Option Json) → Behaviour} {bag : VariableBag}
      {changes : List BagChange} {ending : Ending}
      (h : Course (next (answerOf operation.program bag)) (bag.changed (operation.changesTo bag))
        changes ending) :
      Course (.use operation next) bag (operation.changesTo bag ++ changes) ending
  | list {next : List (String × Json) → Behaviour} {bag : VariableBag} {changes : List BagChange}
      {ending : Ending} (h : Course (next bag.entries) bag changes ending) :
      Course (.list next) bag changes ending
  | report {event : Event} {next : Behaviour} {bag : VariableBag} {changes : List BagChange}
      {ending : Ending} (h : Course next bag changes ending) :
      Course (.report event next) bag changes ending
  | look {next : Bool → Behaviour} {bag : VariableBag} {changes : List BagChange}
      {ending : Ending} (cancelled : Bool) (h : Course (next cancelled) bag changes ending) :
      Course (.look next) bag changes ending
  | signal {next : Behaviour} {bag : VariableBag} {changes : List BagChange}
      {ending : Ending} (h : Course next bag changes ending) :
      Course (.signal next) bag changes ending
  | resumed {resumed stopped : Behaviour} {bag : VariableBag} {changes : List BagChange}
      {ending : Ending} (h : Course resumed bag changes ending) :
      Course (.pause resumed stopped) bag changes ending
  | stopped {resumed stopped : Behaviour} {bag : VariableBag} {changes : List BagChange}
      {ending : Ending} (h : Course stopped bag changes ending) :
      Course (.pause resumed stopped) bag changes ending
  | woken {stopped : Behaviour} {bag : VariableBag} {changes : List BagChange}
      {ending : Ending} (h : Course stopped bag changes ending) :
      Course (.wait stopped) bag changes ending
  | waits (stopped : Behaviour) (bag : VariableBag) : Course (.wait stopped) bag [] .suspended

/-- The work of a handler took one of its courses: what happened to the instances is what the course
    changes, and its caller sees how it ended, or that the handler was stopped. -/
def Behaviour.Took (workflow : String) (b : Behaviour) (s : ExecutionState)
    (seen : Ending × ExecutionState) : Prop :=
  ∃ changes ending, b.Course (s.bag workflow) changes ending ∧
    ExecutionState.Wrote workflow changes s seen.2 ∧ (seen.1 = ending ∨ seen.1 = .stopped)

open ExecutionState Routine

@[simp] lemma Ending.run_seen (ending : Ending) (w : Watch) (s : ExecutionState) :
    (ending.seen w).run s = (ending, s) := by
  rw [seen, run_bind, run_lookAfter]
  rfl

@[simp] lemma Ending.run_seenStopped (s : ExecutionState) :
    Ending.seenStopped.run s = (.stopped, s) := by
  rw [seenStopped, run_bind, run_lookAfter]
  rfl

namespace Behaviour

variable {workflow : String} {s s' : ExecutionState} {seen : Ending × ExecutionState}

/-- Work that ends at once. -/
lemma took_end {b : Behaviour} {ending : Ending} (hcourse : b.Course (s.bag workflow) [] ending)
    (hseen : seen = (ending, s) ∨ seen = (.stopped, s)) : b.Took workflow s seen := by
  obtain rfl | rfl := hseen
  · exact ⟨[], ending, hcourse, wrote_nil rfl, .inl rfl⟩
  · exact ⟨[], ending, hcourse, wrote_nil rfl, .inr rfl⟩

/-- Work that goes on after some changes. -/
lemma Took.of_next {b next : Behaviour} {first : List BagChange}
    (hfirst : Wrote workflow first s s')
    (hcourse : ∀ {changes ending},
      next.Course ((s.bag workflow).changed first) changes ending →
        b.Course (s.bag workflow) (first ++ changes) ending)
    (h : next.Took workflow s' seen) : b.Took workflow s seen := by
  obtain ⟨changes, ending, hnext, hwrote, hseen⟩ := h
  rw [hfirst.own] at hnext
  exact ⟨first ++ changes, ending, hcourse hnext, hfirst.append hwrote, hseen⟩

lemma took_read {key : String} {default : Json} {next : Json → Behaviour}
    (h : (next ((s.bag workflow).getD key default)).Took workflow
      (s.readVariable workflow key default).2 seen) :
    Took workflow (.read key default next) s seen :=
  h.of_next (wrote_bagOf workflow s) .read

lemma took_write {key : String} {value : Json} {next : Option StateError → Behaviour}
    (hworkflow : Text.blank workflow = false)
    (h : (next (s.writeVariable workflow key value).1).Took workflow
      (s.writeVariable workflow key value).2 seen) :
    Took workflow (.write key value next) s seen := by
  cases hkey : Text.blank key with
  | true =>
      rw [writeVariable_of_blank hworkflow hkey] at h
      exact h.of_next (wrote_nil rfl) (.refused hkey)
  | false =>
      rw [writeVariable_of_not_blank hworkflow hkey] at h
      have hwritten : (s.bag workflow).put key value =
          (s.bag workflow).changed [.write key value] := rfl
      exact h.of_next (wrote_putVariables hwritten) (.write hkey)

lemma took_use {operation : BagOperation}
    {next : Except VariableBag.BagError (Option Json) → Behaviour}
    (h : (next (answerOf operation.program (s.bag workflow))).Took workflow
      (s.useVariables workflow operation).2 seen) :
    Took workflow (.use operation next) s seen :=
  h.of_next (wrote_useVariables workflow operation s) .use

lemma took_list {next : List (String × Json) → Behaviour}
    (h : (next (s.bag workflow).entries).Took workflow (s.listVariables workflow).2 seen) :
    Took workflow (.list next) s seen :=
  h.of_next (wrote_bagOf workflow s) .list

lemma Took.report {event : Event} {next : Behaviour}
    (h : next.Took workflow (s.report event).2 seen) :
    Took workflow (.report event next) s seen := by
  have hreported : Wrote workflow [] s (s.report event).2 := wrote_nil rfl
  exact h.of_next hreported .report

/-- A step that the instances do not see. -/
lemma Took.of_course {b next : Behaviour} (h : next.Took workflow s seen)
    (hcourse : ∀ {changes ending}, next.Course (s.bag workflow) changes ending →
      b.Course (s.bag workflow) changes ending) : b.Took workflow s seen :=
  h.of_next (wrote_nil rfl) hcourse

/-- A stopped handler takes one of its courses. -/
lemma took_unwind (hworkflow : Text.blank workflow = false) (b : Behaviour) (s : ExecutionState) :
    b.Took workflow s ((b.unwind workflow).run s) := by
  induction b generalizing s with
  | finish value => exact took_end (.finish value _) (.inr (Ending.run_seenStopped s))
  | fail message => exact took_end (.fail message _) (.inr (Ending.run_seenStopped s))
  | giveUp => exact took_end (.giveUp _) (.inr (Ending.run_seenStopped s))
  | read key default next ih => exact took_read (ih _ _)
  | write key value next ih => exact took_write hworkflow (ih _ _)
  | use operation next ih => exact took_use (ih _ _)
  | list next ih => exact took_list (ih _ _)
  | report event next ih => exact (ih _).report
  | look next ih => exact (ih true s).of_course (.look true)
  | signal next ih => exact (ih s).of_course .signal
  | pause resumed stopped ih _ => exact (ih s).of_course .resumed
  | wait stopped _ => exact took_end (.waits stopped _) (.inl rfl)

/-- **A handler takes one of its courses**, whether it comes to its end or is stopped. -/
lemma took_drive (hworkflow : Text.blank workflow = false) (b : Behaviour) (w : Watch)
    (s : ExecutionState) : b.Took workflow s ((b.drive workflow w).run s) := by
  induction b generalizing w s with
  | finish value => exact took_end (.finish value _) (.inl (Ending.run_seen _ w s))
  | fail message => exact took_end (.fail message _) (.inl (Ending.run_seen _ w s))
  | giveUp => exact took_end (.giveUp _) (.inl (Ending.run_seen _ w s))
  | read key default next ih => exact took_read (ih _ w _)
  | write key value next ih => exact took_write hworkflow (ih _ w _)
  | use operation next ih => exact took_use (ih _ w _)
  | list next ih => exact took_list (ih _ w _)
  | report event next ih => exact (ih w _).report
  | look next ih => exact (ih w.signalled w s).of_course (.look _)
  | signal next ih => exact (ih w.signal s).of_course .signal
  | pause resumed stopped ih _ =>
      rw [drive, run_pause]
      split
      · exact (took_unwind hworkflow stopped s).of_course .stopped
      · exact (ih w.afterTurn s).of_course .resumed
  | wait stopped _ =>
      have hstopped := (took_unwind hworkflow stopped s).of_course .woken
      rw [drive]
      split
      · rwa [run_bind, run_lookAfter, run_bind, run_pauses]
      · split
        · rwa [run_wait, run_bind, run_pauses]
        · exact took_end (.waits stopped _) (.inl rfl)

end Behaviour

/-! ## Calls -/

/-- The status that an answer reports, if there is an outcome. -/
def statusIn? {ε : Type} (answer : Except ε Outcome) : Option Status :=
  answer.toOption.map (·.status)

/-- What an answer reports as merged. -/
def updatesIn {ε : Type} (answer : Except ε Outcome) : List (String × String) :=
  (answer.toOption.map (·.updates)).getD []

lemma Except.map_mapError {ε ε' α β : Type} (f : ε → ε') (g : α → β) (answer : Except ε α) :
    (answer.mapError f).map g = (answer.map g).mapError f := by
  cases answer <;> rfl

lemma Except.map_eq_error_iff {ε α β : Type} {g : α → β} {answer : Except ε α} {e : ε} :
    answer.map g = .error e ↔ answer = .error e := by
  cases answer <;> simp [Except.map]

lemma Except.mapError_eq_error_iff {ε ε' α : Type} {f : ε → ε'} {answer : Except ε α} {e : ε'} :
    answer.mapError f = .error e ↔ ∃ cause, e = f cause ∧ answer = .error cause := by
  cases answer <;> simp [Except.mapError, eq_comm]

lemma Except.eq_ok_of_toOption {ε α : Type} {answer : Except ε α} {value : α}
    (h : answer.toOption = some value) : answer = .ok value := by
  cases answer with
  | error e => exact absurd h (by simp [Except.toOption])
  | ok found => exact congrArg Except.ok (Option.some.inj h)

lemma Except.toOption_mapError {ε ε' α : Type} (f : ε → ε') (answer : Except ε α) :
    (answer.mapError f).toOption = answer.toOption := by
  cases answer <;> rfl

lemma updatesIn_mapError {ε ε' : Type} (f : ε → ε') (answer : Except ε Outcome) :
    updatesIn (answer.mapError f) = updatesIn answer := by
  cases answer <;> rfl

namespace Ending

/-- What comes of a call that ended so, and what is merged into the variables; there is neither if
    what was returned, or the error, cannot be shown. -/
def report : Ending → Except Json.TextError (Status × List (String × String))
  | returned value => (updatesOf? value).map fun updates => (.completed, updates)
  | failed message => message.map fun _ => (.failed, [])
  | gaveUp | stopped => .ok (.cancelled, [])
  | suspended => .ok (.suspended, [])

/-- Only a returned value completes a call, and only its texts are merged. -/
lemma report_ok {ending : Ending} {status : Status} {updates : List (String × String)}
    (h : ending.report = .ok (status, updates)) :
    status ∈ [.completed, .failed, .cancelled, .suspended] ∧
      (status ≠ .completed → updates = []) ∧
      (status = .completed → ∃ value, ending = .returned value ∧ updatesOf? value = .ok updates) := by
  cases ending with
  | returned value =>
      rw [report] at h
      cases hshown : updatesOf? value with
      | error e => exact nomatch hshown ▸ h
      | ok texts =>
          rw [hshown] at h
          obtain ⟨rfl, rfl⟩ := Prod.mk.inj (Except.ok.inj h)
          exact ⟨.head _, fun hne => absurd rfl hne, fun _ => ⟨value, rfl, hshown⟩⟩
  | failed message =>
      cases message with
      | error e => exact nomatch h
      | ok text =>
          obtain ⟨rfl, rfl⟩ := Prod.mk.inj (Except.ok.inj h)
          simp
  | gaveUp | stopped | suspended =>
      obtain ⟨rfl, rfl⟩ := Prod.mk.inj (Except.ok.inj h)
      simp

end Ending

/-- The ending decides what comes of a call and what is merged. -/
lemma ScheduledCall.run_conclude (c : ScheduledCall) (ending : Ending) (s : ExecutionState) :
    ((c.conclude ending).run s).1.map (fun outcome => (outcome.status, outcome.updates)) =
        ending.report ∧
      ((c.conclude ending).run s).2 =
        s.merge c.call.workflow (updatesIn ((c.conclude ending).run s).1) := by
  cases ending with
  | returned value =>
      rw [conclude, Ending.report]
      cases updatesOf? value with
      | error e => exact ⟨rfl, rfl⟩
      | ok updates => exact ⟨rfl, rfl⟩
  | failed message => cases message <;> exact ⟨rfl, rfl⟩
  | gaveUp => exact ⟨rfl, rfl⟩
  | stopped => exact ⟨rfl, rfl⟩
  | suspended => exact ⟨rfl, rfl⟩

/-- The call that a request makes, if its action is registered.  The parameters are filled from the
    variables that the instance has then; this fails if one of them cannot be shown. -/
def Request.call? (q : Request) (limit : Limit) (workflow : String) (s : ExecutionState) :
    Except Json.TextError (Option ScheduledCall) :=
  match q.descriptor?.filter fun found => s.registry.contains found.2.action with
  | none => .ok none
  | some (node, descriptor) =>
    (Template.fillAll? (s.bag workflow).get? descriptor.params).map fun params => some
      { call := ⟨workflow, node, params⟩
        action := descriptor.action
        event := q.event
        limit := q.limit.getD limit }

/-- A call is made as its request asks for it. -/
lemma Request.of_call? {q : Request} {limit : Limit} {workflow : String} {s : ExecutionState}
    {call : ScheduledCall} (h : q.call? limit workflow s = .ok (some call)) :
    call.call.workflow = workflow ∧ q.node = some call.call.node ∧ call.event = q.event ∧
      call.limit = q.limit.getD limit := by
  unfold Request.call? at h
  split at h
  · exact absurd h (by simp)
  · rename_i node descriptor hfound
    obtain ⟨hdescriptor, -⟩ := Option.filter_eq_some_iff.mp hfound
    obtain ⟨_, hnode, hparsed⟩ := Option.bind_eq_some_iff.mp hdescriptor
    obtain ⟨_, -, hpair⟩ := Option.map_eq_some_iff.mp hparsed
    cases hfill : Template.fillAll? (s.bag workflow).get? descriptor.params with
    | error e =>
        rw [hfill] at h
        exact absurd h (by simp [Except.map])
    | ok params =>
        rw [hfill] at h
        simp only [Except.map, Except.ok.injEq, Option.some.injEq] at h
        subst h
        exact ⟨rfl, hnode.trans (congrArg (some ·.1) hpair), rfl, rfl⟩

/-- **Executing an action in one step**: the call that it makes, left for the background or run. -/
lemma run_execute (options : Options) {q : Request} {workflow : String}
    (hworkflow : q.workflow = some workflow) (hblank : Text.blank workflow = false)
    (s : ExecutionState) :
    (execute options q).run s =
      match q.call? options.limit workflow s with
      | .error e => (.error (.text e), (s.bagOf workflow).2)
      | .ok none => (.ok (q.skipped (q.descriptor?.map (·.2.action))), s)
      | .ok (some call) =>
        let found := (s.bagOf workflow).2
        if options.background then
          (.ok { call.outcome .scheduled with started := false },
            { found with queue := found.queue ++ [call] })
        else ((call.run.run found).1.mapError .text, (call.run.run found).2) := by
  have husable : InstanceStates.usableId q.workflow = .ok workflow :=
    InstanceStates.usableId_eq_ok_iff.mpr ⟨hworkflow, hblank⟩
  unfold execute Request.call?
  cases hdescriptor : q.descriptor? with
  | none => rfl
  | some found =>
      obtain ⟨node, descriptor⟩ := found
      dsimp only
      rw [run_bind, run_get, husable]
      by_cases hcontains : s.registry.contains descriptor.action = true
      · rw [if_pos hcontains, Option.filter, if_pos hcontains]
        simp only [run_bind, run_update, dispatch]
        have hbag : (s.bagOf workflow).1 = s.bag workflow := rfl
        rw [hbag]
        cases Template.fillAll? (s.bag workflow).get? descriptor.params with
        | error e => rfl
        | ok params =>
            simp only [Except.map]
            split <;> rfl
      · rw [if_neg hcontains, Option.filter, if_neg hcontains]
        rfl

/-! ## Executing an action in the foreground -/

/-- The handler that was found, if one was.  There is neither if its maker failed with an error that
    cannot be shown. -/
def foundIn : Except Message (Option Handler) → Except Json.TextError (Option Handler)
  | .ok handler? => .ok handler?
  | .error message => message.map fun _ => none

/-- What the handler of a call does, if a handler is found. -/
def ScheduledCall.work? (c : ScheduledCall) (s : ExecutionState) :
    Except Json.TextError (Option Behaviour) :=
  (foundIn (s.resolve c.action c.call.workflow).1).map (Option.map fun handler =>
    handler.behaviour c.call)

lemma ScheduledCall.handler_of_work? {c : ScheduledCall} {s : ExecutionState} {b : Behaviour}
    (h : c.work? s = .ok (some b)) : ∃ handler,
      (s.resolve c.action c.call.workflow).1 = .ok (some handler) ∧ handler.behaviour c.call = b := by
  rw [work?] at h
  generalize (s.resolve c.action c.call.workflow).1 = found at h ⊢
  rcases found with (e | text) | _ | handler
  · exact nomatch h
  · exact nomatch h
  · exact nomatch h
  · exact ⟨handler, rfl, Option.some.inj (Except.ok.inj h)⟩

/-- What the handler does that serves a request, if there is a handler.  There is neither if a value
    cannot be shown to which a parameter refers, or the error of a maker. -/
def Request.work? (q : Request) (workflow : String) (s : ExecutionState) :
    Except Json.TextError (Option Behaviour) :=
  match q.descriptor?.filter fun found => s.registry.contains found.2.action with
  | none => .ok none
  | some (node, descriptor) =>
    (Template.fillAll? (s.bag workflow).get? descriptor.params).bind fun params =>
      ((s.registry.source? descriptor.action).elim (.ok none) fun source => foundIn source.yield).map
        (Option.map fun handler => handler.behaviour ⟨workflow, node, params⟩)

/-- How an execution goes, by what serves it.  What happens before the handler works is that its
    instance may come into being, and that the call is counted. -/
def Goes (workflow : String) (work? : Except Json.TextError (Option Behaviour)) (w : Watch)
    (s : ExecutionState) (answer : Except ExecutionError Outcome) (s' : ExecutionState) : Prop :=
  match work? with
  | .error e => answer = .error (.text e) ∧ Wrote workflow [] s s' ∧ s'.calls = s.calls
  | .ok none => statusIn? answer ∈ [some .skipped, some .failed] ∧ updatesIn answer = [] ∧
      Wrote workflow [] s s' ∧ s'.calls = s.calls
  | .ok (some b) => ∃ s₁, Wrote workflow [] s s₁ ∧ s₁.calls = s.calls + 1 ∧
      answer.map (fun outcome => (outcome.status, outcome.updates)) =
        ((b.drive workflow w).run s₁).1.report.mapError .text ∧
          s' = ((b.drive workflow w).run s₁).2.merge workflow (updatesIn answer)

section

variable {workflow : String} {work? : Except Json.TextError (Option Behaviour)} {w : Watch}
  {s s₀ s' : ExecutionState} {answer : Except ExecutionError Outcome}

lemma Goes.of_wrote (h : Goes workflow work? w s answer s') (hwrote : Wrote workflow [] s₀ s)
    (hcalls : s.calls = s₀.calls) : Goes workflow work? w s₀ answer s' := by
  rcases work? with e | _ | b
  · exact ⟨h.1, hwrote.append h.2.1, h.2.2.trans hcalls⟩
  · exact ⟨h.1, h.2.1, hwrote.append h.2.2.1, h.2.2.2.trans hcalls⟩
  · obtain ⟨s₁, hs₁, hcalls₁, h⟩ := h
    exact ⟨s₁, hwrote.append hs₁, hcalls ▸ hcalls₁, h⟩

/-- **At most one handler is called**, the one that serves. -/
lemma Goes.calls_eq (h : Goes workflow work? w s answer s') :
    s'.calls = s.calls + if work?.toOption.join.isSome then 1 else 0 := by
  rcases work? with e | _ | b
  · exact h.2.2
  · exact h.2.2.2
  · obtain ⟨s₁, -, hcalls, -, rfl⟩ := h
    have hkeeps := b.keeps_drive (Behaviour.stepsKeep_calls workflow) w
    have hdrive := hkeeps.run SameCalls.refl SameCalls.trans s₁
    rw [calls_merge, hdrive, hcalls]
    rfl

end

lemma ScheduledCall.goes_run (c : ScheduledCall) (s : ExecutionState) :
    Goes c.call.workflow (c.work? s) (.start s.calls c.event c.limit) s
      ((c.run.run s).1.mapError .text) (c.run.run s).2 := by
  rw [run, run_bind, run_update, work?]
  have hstates : (s.resolve c.action c.call.workflow).2.states = s.states := rfl
  have hcalls : (s.resolve c.action c.call.workflow).2.calls = s.calls := rfl
  have hstart := congrArg (Watch.start · c.event c.limit) hcalls
  generalize (s.resolve c.action c.call.workflow).2 = s' at hstates hcalls hstart
  rcases (s.resolve c.action c.call.workflow).1 with (e | text) | _ | handler
  · exact ⟨rfl, wrote_nil hstates, hcalls⟩
  · exact ⟨.tail _ (.head _), rfl, wrote_nil hstates, hcalls⟩
  · exact ⟨.head _, rfl, wrote_nil hstates, hcalls⟩
  · refine ⟨s'.countCall.2, wrote_nil hstates, congrArg (· + 1) hcalls, ?_⟩
    simp only [run_bind, run_update, run_pauses]
    rw [← hstart]
    obtain ⟨hreport, hmerged⟩ := c.run_conclude
      (((handler.behaviour c.call).drive c.call.workflow (.start s'.calls c.event c.limit)).run
        s'.countCall.2).1
      (((handler.behaviour c.call).drive c.call.workflow (.start s'.calls c.event c.limit)).run
        s'.countCall.2).2
    refine ⟨?_, hmerged.trans (by rw [updatesIn_mapError]; rfl)⟩
    refine Eq.trans ?_ (congrArg (Except.mapError ExecutionError.text) hreport)
    exact Except.map_mapError ..

/-- Which call a request makes decides what its handler does. -/
lemma Request.work?_eq (q : Request) (limit : Limit) (workflow : String) (s : ExecutionState) :
    q.work? workflow s = (q.call? limit workflow s).bind fun call? =>
      call?.elim (.ok none) fun call => call.work? (s.bagOf workflow).2 := by
  unfold work? call?
  cases hfound : q.descriptor?.filter fun found => s.registry.contains found.2.action with
  | none => rfl
  | some found =>
      obtain ⟨-, hcontains⟩ := Option.filter_eq_some_iff.mp hfound
      rw [Registry.contains_eq_isSome_source?] at hcontains
      obtain ⟨source, hsource⟩ := Option.isSome_iff_exists.mp hcontains
      have hbag : (s.bagOf workflow).2.registry.source? found.2.action = some source := hsource
      have hresolve := ExecutionState.resolve_eq hbag workflow
      dsimp only
      cases Template.fillAll? (s.bag workflow).get? found.2.params with
      | error e => rfl
      | ok params =>
          simp only [Except.map, Except.bind, Option.elim_some, ScheduledCall.work?, hresolve, hsource]

/-- **An execution in the foreground is the work of the handler that serves it**, with what becomes
    of its ending. -/
lemma goes_execute {options : Options} {q : Request} {workflow : String} (s : ExecutionState)
    (hforeground : options.background = false) (hworkflow : q.workflow = some workflow)
    (hblank : Text.blank workflow = false) :
    Goes workflow (q.work? workflow s) (.start s.calls q.event (q.limit.getD options.limit)) s
      ((execute options q).run s).1 ((execute options q).run s).2 := by
  rw [run_execute options hworkflow hblank, q.work?_eq options.limit]
  cases hcall : q.call? options.limit workflow s with
  | error e => exact ⟨rfl, wrote_bagOf workflow s, rfl⟩
  | ok call? =>
      cases call? with
      | none => exact ⟨.head _, rfl, wrote_nil rfl, rfl⟩
      | some call =>
          obtain ⟨hof, -, hevent, hlimit⟩ := Request.of_call? hcall
          have hgoes := call.goes_run (s.bagOf workflow).2
          rw [hof, hevent, hlimit] at hgoes
          simp only [hforeground, Bool.false_eq_true, if_false]
          exact hgoes.of_wrote (wrote_bagOf workflow s) rfl

/-- A course of the handler that serves, if one does.  Without a handler nothing is changed, and
    nothing ends. -/
def CourseOf (work? : Except Json.TextError (Option Behaviour)) (bag : VariableBag)
    (changes : List BagChange) (ending? : Option Ending) : Prop :=
  match work? with
  | .error _ | .ok none => changes = [] ∧ ending? = none
  | .ok (some b) => ∃ ending, ending? = some ending ∧ b.Course bag changes ending

/-- What an answer says of the status and of the merged texts can be read off its report. -/
lemma statusIn?_of_report {answer : Except ExecutionError Outcome}
    {report : Except ExecutionError (Status × List (String × String))}
    (h : answer.map (fun outcome => (outcome.status, outcome.updates)) = report) :
    statusIn? answer = report.toOption.map Prod.fst ∧
      updatesIn answer = (report.toOption.map Prod.snd).getD [] := by
  subst h
  cases answer <;> exact ⟨rfl, rfl⟩

/-- **What an execution leaves of the variables** is what a course of its handler changes at once,
    and then, if it completed, what the handler returned.  It has no outcome only if there is neither
    a handler nor none, or if the handler ended with something that cannot be shown. -/
lemma Goes.merges {workflow : String} {work? : Except Json.TextError (Option Behaviour)} {w : Watch}
    {s s' : ExecutionState} {answer : Except ExecutionError Outcome}
    (hblank : Text.blank workflow = false) (h : Goes workflow work? w s answer s') :
    ∃ changes ending?, CourseOf work? (s.bag workflow) changes ending? ∧
      Wrote workflow (changes ++ mergedChanges (updatesIn answer)) s s' ∧
      statusIn? answer ∈ [none, some .skipped, some .completed, some .failed, some .cancelled,
        some .suspended] ∧
      (statusIn? answer ≠ some .completed → updatesIn answer = []) ∧
      (statusIn? answer = some .completed →
        ∃ value, ending? = some (.returned value) ∧ updatesOf? value = .ok (updatesIn answer)) ∧
      (∀ e, answer = .error e → ∃ cause, e = .text cause ∧
        (work? = .error cause ∨ ∃ ending, ending? = some ending ∧ ending.report = .error cause)) := by
  rcases work? with e | _ | b
  · obtain ⟨rfl, hwrote, -⟩ := h
    exact ⟨[], none, ⟨rfl, rfl⟩, hwrote, .head _, fun _ => rfl, fun hcompleted =>
      absurd hcompleted (by simp [statusIn?, Except.toOption]), fun _ he =>
        ⟨e, (Except.error.inj he).symm, .inl rfl⟩⟩
  · obtain ⟨hstatus, hupdates, hwrote, -⟩ := h
    refine ⟨[], none, ⟨rfl, rfl⟩, by rwa [hupdates], ?_, fun _ => hupdates, fun hcompleted => ?_,
      fun e he => ?_⟩
    · revert hstatus
      simp only [List.mem_cons, List.not_mem_nil, or_false]
      tauto
    · rw [hcompleted] at hstatus
      exact absurd hstatus (by decide)
    · rw [he] at hstatus
      exact absurd hstatus (by simp [statusIn?, Except.toOption])
  · obtain ⟨s₁, hs₁, -, hreport, rfl⟩ := h
    obtain ⟨changes, ending, hcourse, hwrote, hseen⟩ := b.took_drive hblank w s₁
    rw [hs₁.own] at hcourse
    refine ⟨changes, some ending, ⟨ending, rfl, hcourse⟩,
      (hs₁.append hwrote).append (wrote_merge hblank _ _), ?_⟩
    generalize ((b.drive workflow w).run s₁).1 = seen at hseen hreport
    obtain ⟨hstatus, hupdates⟩ := statusIn?_of_report hreport
    rw [hstatus, hupdates]
    rcases hends : seen.report with cause | ⟨status, updates⟩
    · have hending : ending.report = .error cause := by
        obtain rfl | rfl := hseen
        · exact hends
        · exact absurd hends (by simp [Ending.report])
      refine ⟨.head _, fun _ => rfl, fun hcompleted => absurd hcompleted (by
        simp [Except.mapError, Except.toOption]), fun e he => ?_⟩
      rw [he, hends] at hreport
      exact ⟨cause, Except.error.inj hreport, .inr ⟨ending, rfl, hending⟩⟩
    · obtain ⟨hmem, hnothing, hreturned⟩ := Ending.report_ok hends
      refine ⟨List.mem_cons_of_mem _ (List.mem_cons_of_mem _ (List.mem_map_of_mem hmem)),
        fun hne => hnothing fun heq => hne (congrArg some heq), fun hcompleted => ?_, fun e he => ?_⟩
      · obtain ⟨value, hvalue, hshown⟩ := hreturned (Option.some.inj hcompleted)
        have hending : seen = ending := hseen.resolve_right (by simp [hvalue])
        exact ⟨value, congrArg some (hending.symm.trans hvalue), hshown⟩
      · rw [he, hends] at hreport
        exact absurd hreport (by simp [Except.map, Except.mapError])

end ActivityFlow
