import ActivityFlow.Proofs.Action.Sources
import ActivityFlow.Proofs.Routine.Division

/-!
# Actions serve their own instance

Every instance has a state of its own, and all share the registry.  Executing an action serves the
instance that it is executed for (`serves_execute`): what comes of it depends on the state of that
instance and on where handlers come from, and no other instance is touched.

Two things about handlers are never seen by an instance.  Their reports go to a journal, so a
behaviour may be compared without them (`Behaviour.mute`).  And a maker of handlers counts how often
it was asked, on behalf of all instances; that stays unseen only if what it makes does the same
every time, but for its reports (`HandlerSource.Steady`).
-/

namespace ActivityFlow

/-! ## Behaviours without reports -/

/-- What a handler does, but for its reports. -/
def Behaviour.mute : Behaviour → Behaviour
  | finish value => .finish value
  | fail message => .fail message
  | giveUp => .giveUp
  | read key default next => .read key default fun value => (next value).mute
  | write key value next => .write key value fun refusal => (next refusal).mute
  | use operation next => .use operation fun answer => (next answer).mute
  | list next => .list fun entries => (next entries).mute
  | report _ next => next.mute
  | look next => .look fun cancelled => (next cancelled).mute
  | signal next => .signal next.mute
  | pause resumed stopped => .pause resumed.mute stopped.mute
  | wait stopped => .wait stopped.mute

/-- What a handler does on each call, but for its reports. -/
def Handler.mute (h : Handler) (call : Call) : Behaviour :=
  (h.behaviour call).mute

/-- What a source yields is a handler that does the same every time, but for its reports, or the
    same failure, or no handler. -/
def HandlerSource.Steady (source : HandlerSource) : Prop :=
  ∀ n, (source.asked n).yield.map (Option.map Handler.mute)
    = source.yield.map (Option.map Handler.mute)

/-- All handlers come from steady sources. -/
def Registry.Steady (registry : Registry) : Prop :=
  ∀ name source, registry.sources name = some source → source.Steady

lemma HandlerSource.steady_shared (handler : Handler) : (HandlerSource.shared handler).Steady :=
  fun _ => rfl

namespace Registry

lemma steady_empty : Steady .empty :=
  fun _ _ h => absurd h (by simp [sources, source?])

/-- Whoever registers steady sources only has a steady registry. -/
lemma Steady.put {registry : Registry} (h : registry.Steady) (name : String)
    (registration : Registration) (hsource : registration.source.unasked.Steady) :
    Steady (registry.put name registration) := by
  intro other source hfound
  simp only [sources, source?, KeyedMap.get?_put, id_eq] at hfound
  split at hfound
  · obtain rfl : registration.source.unasked = source := by simpa using hfound
    exact hsource
  · exact h other source hfound

end Registry

namespace Script

/-- The tag of a script shows in its reports only. -/
lemma mute_perform (tag tag' : String) (call : Call) (result : Result) {next next' : Result → Behaviour}
    (h : ∀ result, (next result).mute = (next' result).mute) (i : Instruction) :
    (perform tag call result next i).mute = (perform tag' call result next' i).mute := by
  cases i with
  | set key value =>
      simp only [perform, Behaviour.mute, Behaviour.write.injEq, true_and]
      funext refusal
      cases refusal with
      | none => exact h result
      | some refusal => rfl
  | _ => simp [perform, reportStop, Behaviour.mute, h]

lemma mute_performAll (tag tag' : String) (call : Call) (instructions : List Instruction)
    (result : Result) : (performAll tag call instructions result).mute
      = (performAll tag' call instructions result).mute := by
  induction instructions generalizing result with
  | nil => rfl
  | cons i rest ih => exact mute_perform tag tag' call result ih i

/-- A maker that follows a script numbers its handlers, but they all do the same. -/
lemma steady_maker (script : Script) (name : String) (times : ℕ) :
    (HandlerSource.made (script.maker name) times).Steady := by
  have hmute (n : ℕ) : ((script.numbered n).handler name).mute = (script.handler name).mute :=
    funext fun call => mute_performAll _ _ call script.instructions .empty
  intro n
  simp [HandlerSource.asked, HandlerSource.yield, maker, Except.map, hmute]

end Script

/-! ## What belongs to an instance -/

namespace ExecutionState

/-- To an instance belongs its state, and all handlers come from the registry. -/
def division : Division String ExecutionState where
  share id s := s.states.get? id
  common s := s.registry.sources
  sound _ _ sources := ∀ name source, sources name = some source → source.Steady

variable {id : String} {s s' : ExecutionState}

lemma stateOf_of_agree (h : division.Agree id s s') : s'.states.stateOf id = s.states.stateOf id :=
  congrArg (·.getD InstanceState.fresh) h.share.symm

/-- Writing the same state for an instance. -/
lemma same_put {α : Type} (hs : division.Sound id s) (answer : α) (state : InstanceState) :
    division.Same id Eq s s' (answer, { s with states := s.states.put id state })
      (answer, { s' with states := s'.states.put id state }) where
  answer := rfl
  share := (KeyedMap.get?_put_self ..).trans (KeyedMap.get?_put_self ..).symm
  left := ⟨fun _ hother => (KeyedMap.get?_put ..).trans (if_neg hother), rfl⟩
  right := ⟨fun _ hother => (KeyedMap.get?_put ..).trans (if_neg hother), rfl⟩
  sound := hs

lemma serves_bagOf (id : String) : division.Serves id (bagOf id) := by
  intro s s' hs h
  rw [bagOf, bagOf, stateOf_of_agree h]
  exact same_put hs _ _

/-- The variables of an instance become those of a bag, whatever state it had. -/
lemma serves_withBag {α : Type} (id : String) (answer : α) (bag : VariableBag) :
    division.Serves id fun s => (answer, { s with states := s.states.putVariables id bag }) := by
  intro s s' hs h
  simp only [InstanceStates.putVariables, stateOf_of_agree h]
  exact same_put hs answer _

lemma serves_readVariable (id key : String) (default : Json) :
    division.Serves id (readVariable id key default) := by
  intro s s' hs h
  have hbag := serves_bagOf id s s' hs h
  exact ⟨congrArg (VariableBag.getD · key default) hbag.answer, hbag.share, hbag.left, hbag.right,
    hbag.sound⟩

lemma serves_writeVariable (id key : String) (value : Json) :
    division.Serves id (writeVariable id key value) := by
  intro s s' hs h
  unfold writeVariable InstanceStates.setVariable
  cases husable : InstanceStates.usableId (some id) with
  | error refusal => exact .of_answer hs h rfl
  | ok usable =>
      obtain rfl : id = usable :=
        Option.some.inj (InstanceStates.usableId_eq_ok_iff.mp husable).1
      by_cases hkey : Text.blank key = true
      · simp only [hkey, bind, Except.bind, if_true]
        exact .of_answer hs h rfl
      · simp only [hkey, bind, Except.bind, Bool.false_eq_true, if_false,
          InstanceStates.putVariables, stateOf_of_agree h]
        exact same_put hs _ _

lemma serves_useVariables (id : String) (operation : BagOperation) :
    division.Serves id (useVariables id operation) := by
  intro s s' hs h
  have hbag := serves_bagOf id s s' hs h
  have hrest := serves_withBag id (answerOf operation.program (s.bagOf id).1)
    (leftBy operation.program (s.bagOf id).1) _ _ hbag.sound (hbag.agree h)
  have hbags : (s'.bagOf id).1 = (s.bagOf id).1 := hbag.answer.symm
  simp only [useVariables, hbags]
  exact hrest.of_spares hbag.left hbag.right

lemma serves_listVariables (id : String) : division.Serves id (listVariables id) := by
  intro s s' hs h
  have hbag := serves_bagOf id s s' hs h
  exact ⟨congrArg KeyedMap.entries hbag.answer, hbag.share, hbag.left, hbag.right, hbag.sound⟩

lemma serves_merge (id : String) (updates : List (String × String)) :
    division.Serves id fun s => ((), s.merge id updates) := by
  intro s s' hs h
  simp only [merge]
  split
  · exact .of_answer hs h rfl
  · unfold InstanceStates.setVariables
    cases husable : InstanceStates.usableId (some id) with
    | error refusal => exact .of_answer hs h rfl
    | ok usable =>
        obtain rfl : id = usable :=
          Option.some.inj (InstanceStates.usableId_eq_ok_iff.mp husable).1
        simp only [bind, Except.bind, InstanceStates.putVariables, stateOf_of_agree h]
        exact same_put hs _ _

/-- What two requests for a handler have in common, if neither the counts of makers nor reports are
    seen. -/
def LikeHandlers (found found' : Except Message (Option Handler)) : Prop :=
  found.map (Option.map Handler.mute) = found'.map (Option.map Handler.mute)

/-- Two sources that are the same but for their counts yield handlers that are alike. -/
lemma likeHandlers_yield {source source' : HandlerSource} (hsteady : source.unasked.Steady)
    (h : source'.unasked = source.unasked) : LikeHandlers source.yield source'.yield := by
  obtain ⟨n, hn⟩ := source.exists_eq_asked
  obtain ⟨n', hn'⟩ := source'.exists_eq_asked
  rw [h] at hn'
  rw [LikeHandlers, hn, hn']
  exact (hsteady n).trans (hsteady n').symm

lemma matches_resolve (action id : String) :
    division.Matches id LikeHandlers (resolve action id) (resolve action id) := by
  intro s s' hs h
  have hagree : division.Agree id s (s.resolve action id).2 :=
    ⟨rfl, (s.registry.sources_resolve action (some id)).symm⟩
  refine ⟨?_, h.share, ⟨fun _ _ => rfl, s.registry.sources_resolve _ _⟩,
    ⟨fun _ _ => rfl, s'.registry.sources_resolve _ _⟩, hagree.sound hs⟩
  have hsources : (s.registry.source? action).map (·.unasked)
      = (s'.registry.source? action).map (·.unasked) := congrFun h.common action
  cases hfound : s.registry.source? action with
  | none =>
      rw [hfound, Option.map_none, eq_comm, Option.map_eq_none_iff] at hsources
      rw [resolve_of_none hfound, resolve_of_none hsources]
      rfl
  | some source =>
      rw [hfound, Option.map_some, eq_comm, Option.map_eq_some_iff] at hsources
      obtain ⟨source', hfound', hunasked⟩ := hsources
      have hsource : s.registry.sources action = some source.unasked := by
        rw [Registry.sources, hfound, Option.map_some]
      rw [resolve_eq hfound, resolve_eq hfound']
      exact likeHandlers_yield (hs action _ hsource) hunasked

lemma matches_countCall (id : String) :
    division.Matches id (fun _ _ => True) countCall countCall :=
  fun _ _ hs h => ⟨trivial, h.share, ⟨fun _ _ => rfl, rfl⟩, ⟨fun _ _ => rfl, rfl⟩, hs⟩

end ExecutionState

open ExecutionState Division Routine

/-! ## The work of a handler -/

@[simp] lemma run_lookAfter (turns : ℕ) (late : Bool) (s : ExecutionState) :
    (lookAfter turns late).run s = ((), s) := by
  cases late <;> simp [lookAfter]

lemma serves_pauses (turns : ℕ) (id : String) :
    division.Serves id (pauses turns : Routine ExecutionState Unit).run := by
  intro s s' hs h
  rw [run_pauses, run_pauses]
  exact .of_answer hs h rfl

lemma serves_lookAfter (turns : ℕ) (late : Bool) (id : String) :
    division.Serves id (lookAfter turns late).run := by
  intro s s' hs h
  rw [run_lookAfter, run_lookAfter]
  exact .of_answer hs h rfl

lemma Ending.serves_seen (ending : Ending) (w : Watch) (id : String) :
    division.Serves id (ending.seen w).run :=
  (serves_lookAfter _ _ id).bind fun _ => serves_pure ending

lemma Ending.serves_seenStopped (id : String) : division.Serves id Ending.seenStopped.run :=
  (serves_lookAfter 2 false id).bind fun _ => serves_pure stopped

namespace Behaviour

/-- A stopped handler serves its instance, and does the same without its reports. -/
lemma matches_unwind (id : String) (b : Behaviour) :
    division.Matches id Eq (b.unwind id).run (b.mute.unwind id).run := by
  induction b with
  | finish value => exact Ending.serves_seenStopped id
  | fail message => exact Ending.serves_seenStopped id
  | giveUp => exact Ending.serves_seenStopped id
  | read key default next ih =>
      exact Matches.step (serves_readVariable id key default) fun value _ h => h ▸ ih value
  | write key value next ih =>
      exact Matches.step (serves_writeVariable id key value) fun refusal _ h => h ▸ ih refusal
  | use operation next ih =>
      exact Matches.step (serves_useVariables id operation) fun answer _ h => h ▸ ih answer
  | list next ih =>
      exact Matches.step (serves_listVariables id) fun entries _ h => h ▸ ih entries
  | report event next ih => exact Matches.behind (fun _ => ⟨fun _ => rfl, rfl⟩) fun _ => ih
  | look next ih => exact ih true
  | signal next ih => exact ih
  | pause resumed stopped ih _ => exact ih
  | wait stopped _ => exact serves_pure _

/-- A handler serves its instance, and does the same without its reports and whatever the number of
    its call. -/
lemma matches_drive (id : String) (b : Behaviour) (w : Watch) (number : ℕ) :
    division.Matches id Eq (b.drive id w).run (b.mute.drive id { w with number }).run := by
  induction b generalizing w with
  | finish value => exact Ending.serves_seen _ w id
  | fail message => exact Ending.serves_seen _ w id
  | giveUp => exact Ending.serves_seen _ w id
  | read key default next ih =>
      exact Matches.step (serves_readVariable id key default) fun value _ h => h ▸ ih value w
  | write key value next ih =>
      exact Matches.step (serves_writeVariable id key value) fun refusal _ h => h ▸ ih refusal w
  | use operation next ih =>
      exact Matches.step (serves_useVariables id operation) fun answer _ h => h ▸ ih answer w
  | list next ih =>
      exact Matches.step (serves_listVariables id) fun entries _ h => h ▸ ih entries w
  | report event next ih => exact Matches.behind (fun _ => ⟨fun _ => rfl, rfl⟩) fun _ => ih w
  | look next ih => exact ih w.signalled w
  | signal next ih => exact ih w.signal
  | pause resumed stopped ih _ =>
      have hrest : division.Matches id Eq
          (if w.isLastTurn then unwind id stopped else drive id resumed w.afterTurn).run
          (if w.isLastTurn then unwind id stopped.mute
            else drive id resumed.mute { w.afterTurn with number }).run := by
        split
        · exact matches_unwind id stopped
        · exact ih w.afterTurn
      exact hrest
  | wait stopped _ =>
      have hunwind (turns : ℕ) := Matches.bind (serves_pauses turns id)
        fun _ _ _ => matches_unwind id stopped
      rw [mute, drive, drive]
      cases hgrace : w.grace with
      | some g => exact Matches.bind (serves_lookAfter g.look g.late id) fun _ _ _ => hunwind 1
      | none => cases halarm : w.alarm with
        | some alarm => exact hunwind alarm.turns
        | none => exact serves_pure _

/-- Handlers that differ in their reports only do the same for their instance. -/
lemma matches_drive_of_mute_eq {b b' : Behaviour} (h : b.mute = b'.mute) (id : String)
    (event : CancelEvent) (limit : Limit) (number number' : ℕ) :
    division.Matches id Eq (b.drive id (.start number event limit)).run
      (b'.drive id (.start number' event limit)).run := by
  have hb := matches_drive id b (.start number event limit) 0
  rw [h] at hb
  exact hb.trans (matches_drive id b' (.start number' event limit) 0).symm

end Behaviour

/-! ## A call -/

namespace ScheduledCall

lemma serves_conclude (c : ScheduledCall) (ending : Ending) :
    division.Serves c.call.workflow (c.conclude ending).run := by
  cases ending with
  | returned value =>
      rw [conclude]
      split
      · exact serves_pure _
      · exact Serves.bind (t := modify _) (serves_merge _ _) fun _ => serves_pure _
  | failed message => exact serves_pure _
  | gaveUp => exact serves_pure _
  | stopped => exact serves_pure _
  | suspended => exact serves_pure _

/-- **A call serves the instance that it is made for**, from the search for its handler to the
    merging of its result. -/
theorem serves_run (c : ScheduledCall) : division.Serves c.call.workflow c.run.run := by
  refine Matches.bind (t := update _) (u := update _) (matches_resolve _ _) fun found found' h => ?_
  rcases found with message | _ | handler <;> rcases found' with message' | _ | handler' <;>
    simp only [LikeHandlers, Except.map, Option.map_none, Option.map_some, Except.ok.injEq,
      Except.error.injEq, Option.some.injEq, reduceCtorEq] at h
  · rw [h]
    exact serves_pure _
  · exact serves_pure _
  · refine Matches.bind (t := update _) (u := update _) (matches_countCall _) fun number number' _ =>
      Matches.bind (serves_pauses 1 _) fun _ _ _ => ?_
    refine Matches.bind (R := Eq) ?_ fun ending _ hending => hending ▸ c.serves_conclude ending
    exact Behaviour.matches_drive_of_mute_eq (congrFun h c.call) _ _ _ number number'

end ScheduledCall

variable {id : String}

lemma serves_dispatch (options : Options) (q : Request) (id : String) (node : Node)
    (descriptor : Descriptor) (bag : VariableBag) :
    division.Serves id (dispatch options q id node descriptor bag).run := by
  unfold dispatch
  split
  · exact serves_pure _
  · rename_i params hparams
    dsimp only
    split
    · refine Serves.bind (t := modify _) (fun s s' hs h => ?_) fun _ => serves_pure _
      exact ⟨rfl, h.share, ⟨fun _ _ => rfl, rfl⟩, ⟨fun _ _ => rfl, rfl⟩, hs⟩
    · exact ScheduledCall.serves_run ⟨⟨id, node, params⟩, descriptor.action, q.event,
        q.limit.getD options.limit⟩

/-- **Executing an action serves the instance that it is executed for.** -/
theorem serves_execute (options : Options) {q : Request} (hq : q.workflow = some id) :
    division.Serves id (execute options q).run := by
  unfold execute
  split
  · exact serves_pure _
  · refine serves_get_bind (fun s s' _ h => ?_) fun s _ => ?_
    · rw [Registry.contains_eq, Registry.contains_eq, show s'.registry.sources = s.registry.sources
        from h.common.symm]
    · split
      · split
        · exact serves_pure _
        · rename_i workflow husable
          obtain rfl : id = workflow := Option.some.inj
            (hq.symm.trans (InstanceStates.usableId_eq_ok_iff.mp husable).1)
          refine Serves.bind (t := update _) (serves_bagOf id) fun bag => ?_
          exact (serves_dispatch _ _ _ _ _ bag).bind fun outcome => serves_pure _
      · exact serves_pure _

end ActivityFlow
