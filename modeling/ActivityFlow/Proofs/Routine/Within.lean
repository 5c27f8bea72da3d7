import ActivityFlow.Proofs.Routine.Performing

/-!
# Sessions that are over soon

A company goes on along a well-founded order, which is nothing to compute with.  Here the same is done
within a bound on the number of turns, by recursion on the bound.  It does not matter which bound is
taken, as long as it is enough: **what is found within a bound is what is found**.

* `Company.proceedWithin`, `Session.performWithin`, `Session.finishWithin` — the bounded versions.
* `Company.proceed_eq_of_within`, `Session.perform_eq_of_within`, `Session.finish_eq_of_within` — what
  they come to.
-/

namespace ActivityFlow

open Routine

variable {σ α β : Type}

namespace Company

/-- A company goes on, for fewer turns than a bound. -/
def proceedWithin (wanted : α → Option β) :
    ℕ → Company σ α → σ → Option (Option (β × Company σ α) × σ)
  | 0, _, _ => none
  | turns + 1, c, s => match c.call? with
    | none => some (none, s)
    | some (t, others) => match answer? wanted (t.turn s).1 with
      | some found => some (some (found, others), (t.turn s).2)
      | none => proceedWithin wanted turns (others.seat (t.turn s).1) (t.turn s).2

lemma proceed_eq_of_within {wanted : α → Option β} {turns : ℕ} {c : Company σ α} {s : σ}
    {result : Option (β × Company σ α) × σ} (h : proceedWithin wanted turns c s = some result) :
    c.proceed wanted s = result := by
  induction turns generalizing c s with
  | zero => exact absurd h (by simp [proceedWithin])
  | succ turns ih =>
      rw [proceedWithin] at h
      cases hcall : c.call? with
      | none =>
          rw [hcall] at h
          rw [proceed_of_call?_eq_none wanted hcall]
          exact Option.some.inj h
      | some called =>
          rw [hcall] at h
          rw [proceed_of_call? hcall]
          dsimp only at h
          cases hanswer : answer? wanted (called.1.turn s).1 with
          | some found =>
              rw [hanswer] at h
              exact Option.some.inj h
          | none =>
              rw [hanswer] at h
              exact ih h

end Company

namespace Session

/-- An operation is performed in fewer turns than a bound, and others have fewer turns between. -/
def performWithin [Employer σ] (between : ℕ) :
    ℕ → Routine σ α → Session σ → Option (Option α × Session σ)
  | 0, _, _ => none
  | turns + 1, operation, s =>
    let turned := operation.turn s.state
    let s := hire ⟨turned.2, s.company⟩
    match turned.1.result with
    | .inl answer => some (some answer, s)
    | .inr rest =>
      match Company.proceedWithin id between
        ((s.company.map fun _ => none).seat (turned.1.keep (some ()))) s.state with
      | some (some ((), others), state) =>
        performWithin between turns rest ⟨state, others.map fun _ => ()⟩
      | _ => none

lemma perform_eq_of_within [Employer σ] {between turns : ℕ} {operation : Routine σ α} {s : Session σ}
    {result : Option α × Session σ}
    (h : performWithin between turns operation s = some result) : s.perform operation = result := by
  induction turns generalizing operation s with
  | zero => exact absurd h (by simp [performWithin])
  | succ turns ih =>
      rw [performWithin] at h
      cases hresult : (operation.turn s.state).1.result with
      | inl value =>
          rw [hresult] at h
          have hturn : operation.turn s.state = (.done value, (operation.turn s.state).2) :=
            Prod.ext (eq_done_of_result hresult) rfl
          rw [perform_of_turn hturn]
          exact Option.some.inj h
      | inr rest =>
          simp only [hresult] at h
          split at h
          · rename_i others state hproceed
            rw [perform_of_pause hresult (Company.proceed_eq_of_within hproceed)]
            exact ih h
          · exact absurd h (by simp)

/-- So many have ended, each in fewer turns of the company than a bound. -/
def proceedTimesWithin (between : ℕ) :
    ℕ → Company σ (Option Unit) → σ → Option (Company σ (Option Unit) × σ)
  | 0, company, state => some (company, state)
  | n + 1, company, state => match company.proceedWithin id between state with
    | some (some (_, company), state) => proceedTimesWithin between n company state
    | _ => none

lemma proceedTimes_eq_of_within {between n : ℕ} {company : Company σ (Option Unit)} {state : σ}
    {result : Company σ (Option Unit) × σ}
    (h : proceedTimesWithin between n company state = some result) :
    proceedTimes n company state = result := by
  induction n generalizing company state with
  | zero => exact Option.some.inj h
  | succ n ih =>
      rw [proceedTimesWithin] at h
      split at h
      · rename_i answer others state' hproceed
        rw [proceedTimes, Company.proceed_eq_of_within hproceed]
        exact ih h
      · exact absurd h (by simp)

/-- Everybody has ended, each in fewer turns of the company than a bound. -/
def finishWithin (between : ℕ) (s : Session σ) : Option (Session σ) :=
  if s.company.size = 0 then some s
  else do
    let (company, state) ←
      proceedTimesWithin between s.company.size (s.company.map fun _ => some ()) s.state
    let (company, state) ← proceedTimesWithin between 1 (company.join [callBack (some ())]) state
    return ⟨state, company.map fun _ => ()⟩

lemma finish_eq_of_within {between : ℕ} {s s' : Session σ}
    (h : finishWithin between s = some s') : s.finish = s' := by
  rw [finishWithin] at h
  rw [finish]
  split
  · rename_i hsize
    rw [if_pos hsize] at h
    exact Option.some.inj h
  · rename_i hsize
    rw [if_neg hsize] at h
    obtain ⟨⟨company, state⟩, hothers, h⟩ := Option.bind_eq_some_iff.mp h
    obtain ⟨⟨company', state'⟩, hcaller, h⟩ := Option.bind_eq_some_iff.mp h
    rw [proceedTimes_eq_of_within hothers]
    dsimp only
    rw [proceedTimes_eq_of_within hcaller]
    exact Option.some.inj h

end Session

end ActivityFlow
