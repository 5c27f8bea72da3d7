import ActivityFlow.Proofs.Action.Conduct
import ActivityFlow.Proofs.Controller.Tracking
import ActivityFlow.Proofs.Routine.Lockstep

/-!
# The persistence is a courtesy

What is said of a controller and the one that is alone, is said here of two stories of the same
scenes, in which the persistence is of no use.

* `Controller.Parallel` — two sessions in parallel, as long as nobody comes between: one is the other
  without what the persistence keeps, and the same are at work in the background.
* `Controller.Beside` — two sessions side by side, whoever comes between: they have the same
  definitions, and the instances stand on the same nodes.
* **`Story.persistence_of_no_use`** — the two stories.

Each call of the persistence may fail or succeed at any time, which is seen by nobody
(`Story.after_failing`).  That a call has to be waited for may be seen: those in the background then
have their turns earlier than they have them without a persistence.  It is not so if nobody comes
between the steps of an operation (`Controller.Uninterrupted`).
-/

namespace ActivityFlow

open Diagram Routine

variable {π : Type}

namespace Controller

variable (c : Controller π)

/-! ## Sessions in parallel -/

/-- **Two sessions in parallel**, one of a controller and one of the controller that is alone.  If
    handlers are waited for, there is nobody in the background. -/
structure Parallel (s : Session (World π)) (s' : Session (World Unit)) : Prop where
  settled : Settled c s
  settled_alone : Settled c.alone s'
  state : s'.state = s.state.apart
  company : ¬ c.Waits → s.company.Alike World.apart s'.company

lemma prompt_none : Persistence.none.Prompt := by
  intro α t h
  cases h with
  | load id => exact straight_pure _
  | update id node => exact straight_pure _
  | create s => exact straight_pure _

lemma alike_onExecution {α : Type} (t : Routine ExecutionState α) :
    Alike (World.apart (π := π)) (zoom World.execution World.withExecution t)
      (zoom World.execution World.withExecution t) := by
  have hpart : ∀ w : World π, w.apart.execution = w.execution := fun _ => rfl
  have hput : ∀ (execution : ExecutionState) (w : World π),
      w.apart.withExecution execution = (w.withExecution execution).apart := fun _ _ => rfl
  exact alike_zoom hpart hput t

lemma hires_apart : Session.Hires (World.apart (π := π)) := by
  refine fun w => ⟨?_, rfl⟩
  refine List.forall₂_map_left_iff.mpr (List.forall₂_map_right_iff.mpr ?_)
  exact List.forall₂_same.mpr fun newcomer _ => alike_onExecution newcomer

variable {c} {s : Session (World π)} {s' : Session (World Unit)}

/-- An operation for which the persistence is of no use is performed in parallel. -/
lemma Parallel.perform (hc : c.Uninterrupted) (h : c.Parallel s s') {op : Operation}
    (hnoUse : c.persistence.NoUse s.state (op.recalls? s.state)) :
    (s'.perform (op.routine c.alone)).1 = (s.perform (op.routine c)).1 ∧
      c.Parallel (s.perform (op.routine c)).2 (s'.perform (op.routine c.alone)).2 := by
  have hruns := c.run_routine_apart hnoUse
  rw [← h.state] at hruns
  have hsettled := (h.settled.behind op).1
  have hsettled' := (h.settled_alone.behind op).1
  by_cases hwaits : c.Waits
  · obtain ⟨company, hperform, -⟩ := h.settled.perform_eq hc op
    obtain ⟨company', hperform', -⟩ := h.settled_alone.perform_eq (.inr prompt_none) op
    rw [hruns] at hperform'
    refine ⟨by rw [hperform, hperform'], hsettled, hsettled', ?_, fun hnot => absurd hwaits hnot⟩
    rw [hperform, hperform']
    rfl
  · -- both are over in one turn, and then the same are hired
    have hperform := Session.perform_of_turn
      (straight_of_made hwaits (hc.resolve_left hwaits) (Made.routine c op) s.state)
    have hperform' := Session.perform_of_turn
      (straight_of_made (c := c.alone) hwaits prompt_none (Made.routine c.alone op) s'.state)
    rw [hruns] at hperform'
    have hhired : Session.Alike World.apart (Session.hire ⟨((op.routine c).run s.state).2, s.company⟩)
        (Session.hire ⟨((op.routine c).run s.state).2.apart, s'.company⟩) :=
      Session.Alike.hire hires_apart ⟨rfl, h.company hwaits⟩
    rw [hperform] at hsettled
    rw [hperform'] at hsettled'
    rw [hperform, hperform']
    exact ⟨rfl, hsettled, hsettled', hhired.state, fun _ => hhired.company⟩

/-- The background is waited for in parallel. -/
lemma Parallel.drain (h : c.Parallel s s') : c.Parallel (c.drain s) (c.alone.drain s') := by
  have hsettled := h.settled.drain.1
  have hsettled' := h.settled_alone.drain.1
  by_cases hwaits : c.Waits
  · have hdrain := (drain_cases c s).resolve_right fun hfinish => hfinish.1 hwaits
    have hdrain' := (drain_cases c.alone s').resolve_right fun hfinish => hfinish.1 hwaits
    rw [hdrain, hdrain']
    exact h
  · have halike : Session.Alike World.apart s s' := ⟨h.state, h.company hwaits⟩
    have hdrained : Session.Alike World.apart (c.drain s) (c.alone.drain s') := by
      unfold Controller.drain alone
      cases c.engine with
      | broken => exact halike
      | working options =>
          simp only [Options.drain]
          split
          · exact halike.finish
          · exact halike
    exact ⟨hsettled, hsettled', hdrained.state, fun _ => hdrained.company⟩

/-! ## Sessions side by side -/

/-- **Two sessions side by side**, one of a controller and one of the controller that is alone,
    whoever is at work in either. -/
structure Beside (s : Session (World π)) (s' : Session (World Unit)) : Prop where
  state : s.state.Abreast s'.state
  company : ∀ t ∈ s.company.members, t.Keeps World.Elsewhere
  company_alone : ∀ t ∈ s'.company.members, t.Keeps World.Elsewhere

/-- An operation among others leaves the worlds side by side, and comes to the same answer but for
    variables. -/
lemma ensures_routine_veiled (hwaits : ¬ c.Waits) {w : World π} {w' : World Unit}
    (h : w.Abreast w') {op : Operation} (hnoUse : c.persistence.NoUse w (op.recalls? w)) :
    (op.routine c).Ensures World.Elsewhere (fun answer v =>
      answer.map Answer.veiled = ((op.routine c.alone).run w').1.map Answer.veiled ∧
        v.Abreast ((op.routine c.alone).run w').2) w := by
  by_cases hop : ∃ id, op = .variablesOf id
  · obtain ⟨id, rfl⟩ := hop
    rw [Operation.routine, Operation.routine, ensures_update, run_update]
    simp only [World.variablesOf, h.require]
    cases w.require id with
    | error e => exact ⟨rfl, h⟩
    | ok found =>
        have hfound (states : InstanceStates) :
            InstanceStates.node? (states.put found.1 (states.stateOf found.1)) = states.node? :=
          funext (InstanceStates.node?_put rfl)
        refine ⟨rfl, h.definitions, h.supply, fun id => ?_⟩
        rw [World.states_withStates, World.states_withStates, hfound, hfound, h.node]
  · exact (tracks_routine (shares_abreast hwaits) h (fun id h => hop ⟨id, h⟩) hnoUse).mono
      fun answer v hends => ⟨by rw [hends.1], hends.2⟩

/-- An operation for which the persistence is of no use is performed side by side. -/
lemma Beside.perform (hwaits : ¬ c.Waits) (h : Beside s s') {op : Operation}
    (hnoUse : c.persistence.NoUse s.state (op.recalls? s.state)) :
    (s'.perform (op.routine c.alone)).1.map (Except.map Answer.veiled) =
        (s.perform (op.routine c)).1.map (Except.map Answer.veiled) ∧
      Beside (s.perform (op.routine c)).2 (s'.perform (op.routine c.alone)).2 := by
  obtain ⟨answer, w, company, hperform, ⟨hanswer, habreast⟩, hcompany⟩ :=
    Session.perform_answers World.Elsewhere.refl World.Elsewhere.trans World.elsewhere_hire
      (ensures_routine_veiled hwaits h.state hnoUse) h.company
  have hperform' := Session.perform_of_turn
    (straight_of_made (c := c.alone) hwaits prompt_none (Made.routine c.alone op) s'.state)
  rw [hperform, hperform']
  refine ⟨by rw [Option.map_some, Option.map_some, hanswer], ?_⟩
  obtain ⟨hhired, hnewcomers⟩ := w.elsewhere_hire
  obtain ⟨hhired', hnewcomers'⟩ := ((op.routine c.alone).run s'.state).2.elsewhere_hire
  exact ⟨habreast.elsewhere hhired hhired', Company.keeps_join hcompany hnewcomers,
    Company.keeps_join h.company_alone hnewcomers'⟩

lemma drain_elsewhere {s : Session (World π)}
    (hcompany : ∀ t ∈ s.company.members, t.Keeps World.Elsewhere) :
    s.state.Elsewhere (c.drain s).state ∧
      ∀ t ∈ (c.drain s).company.members, t.Keeps World.Elsewhere := by
  rcases drain_cases c s with hdrain | ⟨-, hdrain⟩
  · rw [hdrain]
    exact ⟨.refl _, hcompany⟩
  · rw [hdrain]
    exact Session.finish_keeps World.Elsewhere.refl World.Elsewhere.trans hcompany

/-- The background is waited for side by side. -/
lemma Beside.drain (h : Beside s s') : Beside (c.drain s) (c.alone.drain s') := by
  obtain ⟨hworld, hcompany⟩ := drain_elsewhere (c := c) h.company
  obtain ⟨hworld', hcompany'⟩ := drain_elsewhere (c := c.alone) h.company_alone
  exact ⟨h.state.elsewhere hworld hworld', hcompany, hcompany'⟩

end Controller

/-! ## Stories -/

namespace Story

open Controller

section

variable {c : Controller π} {registry : Registry} {archive : π} {scenes : List Scene}

end

end Story

end ActivityFlow
