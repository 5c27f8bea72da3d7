import ActivityFlow.Proofs.Routine.Performing

/-!
# Routines that cannot be told apart

A routine may come to a value that makes no difference to what follows.  With another value in its
place it is another routine, and yet the two do the same from every state that they can come to, as
long as others keep to what is relied on.

* `Routine.Indistinct` — the two take the same steps from a state on.
* `Routine.indistinct_bind` — what follows a part is the same behind each value that the part ensures.
* **`Routine.Indistinct.perform_eq`** — it makes no difference which of the two is performed.
-/

namespace ActivityFlow

variable {σ α β : Type}

namespace Routine

/-- **Two routines cannot be told apart** from a state on, as long as others keep to a relation. -/
inductive Indistinct (rely : σ → σ → Prop) : Routine σ α → Routine σ α → σ → Prop
  | same (t : Routine σ α) (s : σ) : Indistinct rely t t s
  | look {next next' : σ → Routine σ α} {s : σ} (h : Indistinct rely (next s) (next' s) s) :
      Indistinct rely (look next) (look next') s
  | become {state : σ} {next next' : Routine σ α} {s : σ} (h : Indistinct rely next next' state) :
      Indistinct rely (become state next) (become state next') s
  | pause {next next' : Routine σ α} {s : σ} (h : ∀ s', rely s s' → Indistinct rely next next' s') :
      Indistinct rely (pause next) (pause next') s
  | giveWay {next next' : Routine σ α} {s : σ}
      (h : ∀ s', rely s s' → Indistinct rely next next' s') :
      Indistinct rely (giveWay next) (giveWay next') s
  | wait {next next' : Routine σ α} {s : σ} (time rank : ℕ)
      (h : ∀ s', rely s s' → Indistinct rely next next' s') :
      Indistinct rely (wait time rank next) (wait time rank next') s

variable {rely : σ → σ → Prop} {t t' : Routine σ α} {s : σ}

/-! ## The operations of routines -/

lemma Indistinct.bind (h : Indistinct rely t t' s) (f : α → Routine σ β) :
    Indistinct rely (t >>= f) (t' >>= f) s := by
  rw [bind_eq, bind_eq]
  induction h with
  | same t s => exact .same _ s
  | look _ ih => exact .look ih
  | become _ ih => exact .become ih
  | pause _ ih => exact .pause ih
  | giveWay _ ih => exact .giveWay ih
  | wait time rank _ ih => exact .wait time rank ih

lemma Indistinct.map (h : Indistinct rely t t' s) (f : α → β) :
    Indistinct rely (t.map f) (t'.map f) s :=
  h.bind fun value => .done (f value)

/-- Two ends of a turn: an answer, or two routines that are left and cannot be told apart. -/
inductive TurnEnd.Indistinct (rely : σ → σ → Prop) (s : σ) : TurnEnd σ α → TurnEnd σ α → Prop
  | done (value : α) : TurnEnd.Indistinct rely s (.done value) (.done value)
  | left {e e' : TurnEnd σ α} {rest rest' : Routine σ α} (result : e.result = .inr rest)
      (result' : e'.result = .inr rest') (keep : ∀ call : Option Unit, e'.keep call = e.keep call)
      (rests : ∀ s', rely s s' → Routine.Indistinct rely rest rest' s') :
      TurnEnd.Indistinct rely s e e'

lemma TurnEnd.indistinct_self (e : TurnEnd σ α) (s : σ) : TurnEnd.Indistinct rely s e e := by
  cases hresult : e.result with
  | inl value =>
      rw [eq_done_of_result hresult]
      exact .done value
  | inr rest => exact .left hresult hresult (fun _ => rfl) fun s' _ => .same rest s'

lemma Indistinct.turn (h : Indistinct rely t t' s) :
    (t'.turn s).2 = (t.turn s).2 ∧
      TurnEnd.Indistinct rely (t.turn s).2 (t.turn s).1 (t'.turn s).1 := by
  induction h with
  | same t s => exact ⟨rfl, TurnEnd.indistinct_self _ _⟩
  | look _ ih => exact ih
  | become _ ih => exact ih
  | pause h => exact ⟨rfl, .left rfl rfl (fun _ => rfl) h⟩
  | giveWay h => exact ⟨rfl, .left rfl rfl (fun _ => rfl) h⟩
  | wait time rank h => exact ⟨rfl, .left rfl rfl (fun _ => rfl) h⟩

/-! ## In a session -/

/-- **It makes no difference which of two routines is performed** that cannot be told apart, among
    others who keep to what is relied on. -/
theorem Indistinct.perform_eq [Employer σ] (hrefl : ∀ s, rely s s)
    (htrans : ∀ {a b c}, rely a b → rely b c → rely a c)
    (hhire : ∀ s : σ, rely s (Employer.hire s).2 ∧ ∀ t ∈ (Employer.hire s).1, t.Keeps rely)
    {s : Session σ} (h : Indistinct rely t t' s.state)
    (hcompany : ∀ t ∈ s.company.members, t.Keeps rely) : s.perform t' = s.perform t := by
  -- with every turn less is left of the first
  induction t using wellFounded_isPart.induction generalizing t' s with
  | _ t ih =>
    obtain ⟨hstate, hend⟩ := h.turn
    generalize hended : (t.turn s.state).1 = e at hend
    generalize hended' : (t'.turn s.state).1 = e' at hend
    cases hend with
    | done value =>
        rw [Session.perform_of_turn (Prod.ext hended rfl),
          Session.perform_of_turn (Prod.ext hended' hstate)]
    | @left _ _ rest rest' hresult hresult' hkeep hrests =>
        subst hended hended'
        obtain ⟨hhired, hnewcomers⟩ := hhire (t.turn s.state).2
        obtain ⟨others, state, hproceed, hbetween, hothers⟩ :=
          Company.proceed_call hrefl htrans (Company.keeps_join hcompany hnewcomers) hresult
            (Employer.hire (t.turn s.state).2).2
        have hproceed' := hproceed
        rw [← hkeep, ← hstate] at hproceed'
        rw [Session.perform_of_pause hresult hproceed, Session.perform_of_pause hresult' hproceed']
        exact ih rest (isPart_of_result hresult) (s := ⟨state, others.map fun _ => ()⟩)
          (hrests state (htrans hhired hbetween)) hothers

end Routine

end ActivityFlow
