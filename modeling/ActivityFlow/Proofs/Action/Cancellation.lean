import ActivityFlow.Proofs.Action.Conduct

/-!
# Calls that are cancelled from the beginning

A call whose cancel event is set when it is made is not stopped at once.  Its handler still gets a
few turns, and what it returns within them is merged as if nobody had cancelled the call
(`completes_under_preset_event`).  A handler that takes longer, or that waits, is stopped, and
nothing that it returns is merged.

`execute_under_preset_event` says which of the two happens: `Behaviour.answer?` is how a handler ends
by itself if it pauses no more often than it may, and `Limit.patience` is how often that is.  A
returned value that cannot be shown does not let the call complete; there is no outcome then.
-/

namespace ActivityFlow

open ExecutionState Routine

/-- How a handler ends by itself, told that its call is cancelled, if it pauses no more often than it
    may and waits for nothing. -/
def Behaviour.answer? : Behaviour → VariableBag → (patience : ℕ) → Option Ending
  | finish value, _, _ => some (.returned value)
  | fail message, _, _ => some (.failed message)
  | giveUp, _, _ => some .gaveUp
  | read key default next, bag, patience => (next (bag.getD key default)).answer? bag patience
  | write key value next, bag, patience =>
    if Text.blank key then (next (some .missingKey)).answer? bag patience
    else (next none).answer? (bag.put key value) patience
  | use operation next, bag, patience =>
    (next (answerOf operation.program bag)).answer? (leftBy operation.program bag) patience
  | list next, bag, patience => (next bag.entries).answer? bag patience
  | report _ next, bag, patience => next.answer? bag patience
  | look next, bag, patience => (next true).answer? bag patience
  | signal next, bag, patience => next.answer? bag patience
  | pause _ _, _, 0 => none
  | pause resumed _, bag, patience + 1 => resumed.answer? bag patience
  | wait _, _, _ => none

/-- How often a handler may pause whose call was cancelled at the beginning. -/
def Limit.patience (limit : Limit) : ℕ :=
  if limit = .limited 0 then 1 else 2

variable {workflow : String} {s : ExecutionState}

/-- The ending to which the work came by itself, if it was not stopped. -/
def Ending.own? : Ending → Option Ending
  | stopped | suspended => none
  | ending => some ending

namespace Behaviour

/-- Whatever a stopped handler returns does not matter. -/
lemma own?_unwind (workflow : String) (b : Behaviour) (s : ExecutionState) :
    ((b.unwind workflow).run s).1.own? = none := by
  induction b generalizing s with
  | finish value => exact congrArg (fun seen => seen.1.own?) (Ending.run_seenStopped s)
  | fail message => exact congrArg (fun seen => seen.1.own?) (Ending.run_seenStopped s)
  | giveUp => exact congrArg (fun seen => seen.1.own?) (Ending.run_seenStopped s)
  | read key default next ih => exact ih _ _
  | write key value next ih => exact ih _ _
  | use operation next ih => exact ih _ _
  | list next ih => exact ih _ _
  | report event next ih => exact ih _
  | look next ih => exact ih true s
  | signal next ih => exact ih s
  | pause resumed stopped ih _ => exact ih s
  | wait stopped _ => rfl

/-- **A handler that is to be stopped comes to an ending if it does so by itself in the turns that are
    left to it.** -/
lemma own?_drive (hworkflow : Text.blank workflow = false) (b : Behaviour) {w : Watch} {g : Grace}
    (hsignalled : w.signalled = true) (hgrace : w.grace = some g) (s : ExecutionState) :
    ((b.drive workflow w).run s).1.own? = b.answer? (s.bag workflow) g.turns := by
  induction b generalizing w g s with
  | finish value => exact congrArg (fun seen => seen.1.own?) (Ending.run_seen _ w s)
  | fail message => exact congrArg (fun seen => seen.1.own?) (Ending.run_seen _ w s)
  | giveUp => exact congrArg (fun seen => seen.1.own?) (Ending.run_seen _ w s)
  | read key default next ih =>
      have hbag : (s.readVariable workflow key default).2.bag workflow = s.bag workflow :=
        (wrote_bagOf workflow s).own
      have hnext := ih ((s.bag workflow).getD key default) hsignalled hgrace
        (s.readVariable workflow key default).2
      rwa [hbag] at hnext
  | write key value next ih =>
      rw [drive, run_step, answer?]
      cases hkey : Text.blank key with
      | true =>
          rw [writeVariable_of_blank hworkflow hkey, if_pos rfl]
          exact ih _ hsignalled hgrace s
      | false =>
          have hwritten : (s.bag workflow).put key value =
              (s.bag workflow).changed [.write key value] := rfl
          rw [writeVariable_of_not_blank hworkflow hkey, if_neg Bool.false_ne_true,
            ih none hsignalled hgrace, (wrote_putVariables hwritten).own]
          rfl
  | use operation next ih =>
      have hbag : (s.useVariables workflow operation).2.bag workflow =
          leftBy operation.program (s.bag workflow) := by
        rw [(wrote_useVariables workflow operation s).own, operation.leftBy_eq_changed]
      have hnext := ih (answerOf operation.program (s.bag workflow)) hsignalled hgrace
        (s.useVariables workflow operation).2
      rwa [hbag] at hnext
  | list next ih =>
      have hnext := ih (s.bag workflow).entries hsignalled hgrace (s.listVariables workflow).2
      have hbag : (s.listVariables workflow).2.bag workflow = s.bag workflow :=
        (wrote_bagOf workflow s).own
      rwa [hbag] at hnext
  | report event next ih => exact ih hsignalled hgrace _
  | look next ih =>
      rw [drive, hsignalled]
      exact ih true hsignalled hgrace s
  | signal next ih =>
      refine ih rfl ?_ s
      rw [Watch.signal, hgrace]
      rfl
  | pause resumed stopped ih _ =>
      rw [drive, run_pause, Watch.isLastTurn, hgrace]
      cases hturns : g.turns with
      | zero => simpa [hturns, answer?] using own?_unwind workflow stopped s
      | succ patience =>
          have hafter : w.afterTurn.grace = some g.afterTurn := by
            rw [Watch.afterTurn, hgrace]
            rfl
          have hleft : g.afterTurn.turns = patience := by
            rw [Grace.afterTurn, hturns, Nat.add_sub_cancel]
          have hstill : w.afterTurn.signalled = true := hsignalled
          rw [answer?, ← hleft, ← ih hstill hafter s]
          simp [hturns]
  | wait stopped _ =>
      rw [drive, hgrace, answer?]
      simpa using own?_unwind workflow stopped s

end Behaviour

/-! ## Executing an action -/

lemma Watch.grace_start (number : ℕ) (limit : Limit) :
    ∃ g, (start number .preset limit).grace = some g ∧ g.turns = limit.patience := by
  unfold start Limit.patience
  split
  · exact ⟨.ofNoTime, rfl, rfl⟩
  · exact ⟨.ofEarlyEvent, rfl, rfl⟩

/-- A call completes if a value was returned that can be shown. -/
lemma Ending.report_completed_iff {ending : Ending} :
    (ending.report.toOption.map Prod.fst = some .completed) ↔
      ∃ value, ending.own? = some (.returned value) ∧ ∃ updates, updatesOf? value = .ok updates := by
  constructor
  · intro h
    obtain ⟨⟨status, updates⟩, hreport, rfl⟩ := Option.map_eq_some_iff.mp h
    obtain ⟨value, rfl, hshown⟩ := (report_ok (Except.eq_ok_of_toOption hreport)).2.2 rfl
    exact ⟨value, rfl, updates, hshown⟩
  · rintro ⟨value, hown, updates, hshown⟩
    have hending : ending = .returned value := by
      cases ending <;> simp_all [own?]
    rw [hending, report, hshown]
    rfl

/-- A call has no outcome if its handler came to an ending that cannot be shown. -/
lemma Ending.report_error_iff {ending : Ending} {cause : Json.TextError} :
    ending.report = .error cause ↔ ∃ own, ending.own? = some own ∧ own.report = .error cause := by
  cases ending with
  | returned _ | failed _ | gaveUp => simp [own?]
  | stopped | suspended => simp [report, own?]

namespace Request

/-- Whether the handler that serves a request returns by itself, with a value that can be shown,
    although its call is cancelled from the beginning. -/
def Outruns (q : Request) (workflow : String) (limit : Limit) (s : ExecutionState) : Prop :=
  ∃ b value, q.work? workflow s = .ok (some b) ∧
    b.answer? (s.bag workflow) limit.patience = some (.returned value) ∧
      ∃ updates, updatesOf? value = .ok updates

/-- Whether something that cannot be shown leaves a request without an outcome: before its handler
    works, or what the handler comes to by itself although its call is cancelled from the beginning. -/
def Stumbles (q : Request) (workflow : String) (limit : Limit) (s : ExecutionState)
    (cause : Json.TextError) : Prop :=
  q.work? workflow s = .error cause ∨ ∃ b ending, q.work? workflow s = .ok (some b) ∧
    b.answer? (s.bag workflow) limit.patience = some ending ∧ ending.report = .error cause

end Request

/-- The answer to a request that is cancelled from the beginning, and what it leaves of the variables
    if nothing is merged. -/
lemma Goes.preset {q : Request} {limit : Limit} {s s' : ExecutionState}
    {answer : Except ExecutionError Outcome} (hblank : Text.blank workflow = false)
    (h : Goes workflow (q.work? workflow s) (.start s.calls .preset limit) s answer s') :
    (statusIn? answer = some .completed ↔ q.Outruns workflow limit s) ∧
      ∀ e, answer = .error e ↔ ∃ cause, e = .text cause ∧ q.Stumbles workflow limit s cause := by
  rw [Request.Outruns]
  simp only [Request.Stumbles]
  rcases hwork : q.work? workflow s with cause | _ | b
  · rw [hwork] at h
    obtain ⟨rfl, -, -⟩ := h
    refine ⟨iff_of_false (by simp [statusIn?, Except.toOption]) (by simp), fun e => ⟨?_, ?_⟩⟩
    · rintro ⟨⟩
      exact ⟨cause, rfl, .inl rfl⟩
    · rintro ⟨_, rfl, ⟨⟨⟩⟩ | ⟨_, _, hnone, _⟩⟩
      · rfl
      · exact absurd hnone (by simp)
  · rw [hwork] at h
    obtain ⟨hstatus, -, -, -⟩ := h
    refine ⟨iff_of_false (fun hcompleted => ?_) (by simp), fun e => iff_of_false ?_ (by simp)⟩
    · rw [hcompleted] at hstatus
      exact absurd hstatus (by decide)
    · rintro rfl
      exact absurd hstatus (by simp [statusIn?, Except.toOption])
  · rw [hwork] at h
    obtain ⟨s₁, hs₁, -, hreport, -⟩ := h
    obtain ⟨g, hgrace, hturns⟩ := Watch.grace_start s.calls limit
    have hvalue := b.own?_drive hblank rfl hgrace s₁
    have hbag : s₁.bag workflow = s.bag workflow := hs₁.own
    rw [hbag, hturns] at hvalue
    constructor
    · rw [(statusIn?_of_report hreport).1, Except.toOption_mapError, Ending.report_completed_iff,
        hvalue]
      simp
    · intro e
      have hanswer : answer = .error e ↔ ∃ cause, e = .text cause ∧ ∃ ending,
          b.answer? (s.bag workflow) limit.patience = some ending ∧ ending.report = .error cause := by
        rw [← Except.map_eq_error_iff, hreport, Except.mapError_eq_error_iff, ← hvalue]
        exact exists_congr fun cause => and_congr_right fun _ => Ending.report_error_iff
      rw [hanswer]
      simp

/-- **A call that is cancelled from the beginning completes just if its handler returns within the
    turns that are left to it.**  If it does not, nothing that the handler returns is merged: the
    variables of the instance are as a course of the handler changed them at once.  There is no
    outcome just if something cannot be shown. -/
theorem execute_under_preset_event {options : Options} {q : Request} {workflow : String}
    (s : ExecutionState) (hforeground : options.background = false)
    (hworkflow : q.workflow = some workflow) (hblank : Text.blank workflow = false)
    (hevent : q.event = .preset) :
    ∃ answer s', (execute options q).run s = (answer, s') ∧
      (statusIn? answer = some .completed ↔ q.Outruns workflow (q.limit.getD options.limit) s) ∧
      (∀ e, answer = .error e ↔ ∃ cause, e = .text cause ∧
        q.Stumbles workflow (q.limit.getD options.limit) s cause) ∧
      (statusIn? answer ≠ some .completed → updatesIn answer = [] ∧
        ∃ changes ending?, CourseOf (q.work? workflow s) (s.bag workflow) changes ending? ∧
          s'.bag workflow = (s.bag workflow).changed changes) := by
  have hgoes := goes_execute s hforeground hworkflow hblank
  rw [hevent] at hgoes
  obtain ⟨hcompleted, herror⟩ := hgoes.preset hblank
  refine ⟨_, _, rfl, hcompleted, herror, fun hne => ?_⟩
  obtain ⟨changes, ending?, hcourse, hwrote, -, hnone, -, -⟩ := hgoes.merges hblank
  have hown := hwrote.own
  rw [hnone hne, VariableBag.changed_append] at hown
  exact ⟨hnone hne, changes, ending?, hcourse, hown⟩

/-- A handler that waits is stopped, and what it then returns is not merged. -/
theorem execute_under_preset_event_waiting :
    let behaviour : Behaviour := .write "x" (.str "1") fun _ =>
      .wait (.finish (.obj [("y", .str "2")]))
    let handler : Handler := ⟨"greet", none, none, fun _ => behaviour⟩
    let node : Node := ⟨"N", some "N", some "\x7b\"action\": \"greet\"\x7d", none⟩
    let q : Request := ⟨some "w", some node, .preset, none⟩
    let s : ExecutionState := { ExecutionState.empty with
      registry := KeyedMap.empty.put "greet" ⟨"greet", .shared handler, []⟩ }
    ∃ answer s', (execute ⟨.unlimited, false⟩ q).run s = (answer, s') ∧
      statusIn? answer = some .cancelled ∧ updatesIn answer = [] ∧ (s'.bag "w").keys = ["x"] := by
  intro behaviour handler node q s
  obtain ⟨answer, s', hrun, -, -, hnone⟩ :
      ∃ answer s', (execute ⟨.unlimited, false⟩ q).run s = (answer, s') ∧
        (statusIn? answer = some .completed ↔ q.Outruns "w" .unlimited s) ∧
        (∀ e, answer = .error e ↔ ∃ cause, e = .text cause ∧ q.Stumbles "w" .unlimited s cause) ∧
        (statusIn? answer ≠ some .completed → updatesIn answer = [] ∧
          ∃ changes ending?, CourseOf (q.work? "w" s) (s.bag "w") changes ending? ∧
            s'.bag "w" = (s.bag "w").changed changes) :=
    execute_under_preset_event s rfl rfl (by decide) rfl
  have hstatus : statusIn? answer = some .cancelled :=
    (congrArg (fun seen => statusIn? seen.1) hrun).symm
  have hkeys := congrArg (fun seen => (seen.2.bag "w").keys) hrun
  exact ⟨answer, s', hrun, hstatus, (hnone (by simp [hstatus])).1,
    hkeys.symm.trans (by decide +kernel)⟩

/-- **A call that was cancelled before it was made completes**, although its handler pauses once,
    and what the handler returns is merged. -/
theorem completes_under_preset_event :
    let behaviour : Behaviour := .pause (.finish (.obj [("x", .str "1")])) .giveUp
    let handler : Handler := ⟨"greet", none, none, fun _ => behaviour⟩
    let node : Node := ⟨"N", some "N", some "\x7b\"action\": \"greet\"\x7d", none⟩
    let q : Request := ⟨some "w", some node, .preset, none⟩
    let s : ExecutionState := { ExecutionState.empty with
      registry := KeyedMap.empty.put "greet" ⟨"greet", .shared handler, []⟩ }
    ∃ outcome s', (execute ⟨.unlimited, false⟩ q).run s = (.ok outcome, s') ∧
      outcome.status = .completed ∧ outcome.updates = [("x", "1")] ∧
        ((s'.bag "w").get? "x").bind (·.string?) = some "1" := by
  intro behaviour handler node q s
  exact ⟨_, _, rfl, rfl, rfl, by decide +kernel⟩

end ActivityFlow
