import ActivityFlow.Proofs.Routine.Straight

/-!
# Operations in a session

An operation of a session is performed turn by turn.  Between two of its turns those are hired who
are to do the work that it left, and the company goes on.  What comes of it depends on who is there.

* **`Session.perform_answers`** — among others who keep to what it relies on, an operation comes to
  an end, and what it ensures holds there.
* **`Session.perform_alone`** — with nobody else at work, and as long as it leaves no work, an
  operation does what it does on its own.
* `Session.perform_of_turn` — what is over in one turn is over before anybody else has a turn.
* `Session.finish_keeps` — waiting for the others keeps to what they keep to.
-/

namespace ActivityFlow

open Routine

variable {σ α : Type}

namespace Company

variable {rely : σ → σ → Prop}

/-- A company in which the place of a caller is kept. -/
lemma members_seat_keep {β : Type} (c : Company σ β) {e : TurnEnd σ α} {rest : Routine σ α}
    (h : e.result = .inr rest) (call : β) :
    (c.seat (e.keep call)).members.Perm (.done call :: c.members) := by
  have hleft : (e.keep call).left = [.done call] := by
    cases e <;> simp_all [TurnEnd.result, TurnEnd.keep, TurnEnd.left]
  simpa [hleft] using c.members_seat (e.keep call)

/-- A company goes on until a caller has its turn. -/
lemma proceed_call (hrefl : ∀ s, rely s s) (htrans : ∀ {a b c}, rely a b → rely b c → rely a c)
    {c : Company σ Unit} (hc : ∀ t ∈ c.members, t.Keeps rely) {e : TurnEnd σ α}
    {rest : Routine σ α} (h : e.result = .inr rest) (s : σ) :
    ∃ others s', ((c.map fun _ => none).seat (e.keep (some ()))).proceed id s =
        (some ((), others), s') ∧ rely s s' ∧
      ∀ t ∈ (others.map fun _ => ()).members, t.Keeps rely := by
  have hcall : ∀ s', rely s s' →
      Answers rely (fun () s' => rely s s') (.done (some ()) : Routine σ (Option Unit)) s' :=
    fun s' hs' => ⟨(), rfl, hs'⟩
  have hothers : ∀ t ∈ (c.map fun _ => (none : Option Unit)).members, InBackground rely t := by
    rw [members_map, List.forall_mem_map]
    exact fun t ht => inBackground_map (hc t ht)
  obtain ⟨⟨⟩, others, s', hproceed, hs', hleft⟩ :=
    proceed_answers hrefl htrans (members_seat_keep _ h (some ())) hcall hothers
  refine ⟨others, s', hproceed, hs', ?_⟩
  rw [members_map, List.forall_mem_map]
  exact fun t ht => (hleft t ht).keeps_map _

end Company

/-- A state in which nobody is to be hired. -/
structure Employer.Idle [Employer σ] (s : σ) : Prop where
  nobody : (Employer.hire s).1 = []
  state : (Employer.hire s).2 = s

namespace Routine

variable {β : Type} {guar : σ → σ → Prop} {t : Routine σ α} {s : σ}

lemma Keeps.alone (h : t.Keeps guar) : t.Conducts Eq guar (fun _ _ => True) s :=
  (h s).weaken (fun _ => trivial) (fun hguar => hguar) fun _ _ _ => trivial

/-- Alone, the second of two routines goes on where a run of the first ends. -/
lemma conducts_bind_alone {f : α → Routine σ β} (ht : t.Conducts Eq guar (fun _ _ => True) s)
    (hf : (f (t.run s).1).Conducts Eq guar (fun _ _ => True) (t.run s).2) :
    (t >>= f).Conducts Eq guar (fun _ _ => True) s := by
  rw [conducts_bind]
  induction t generalizing s with
  | done value => exact hf
  | look next ih => exact ih s ht hf
  | become state next ih => exact ⟨ht.1, ih ht.2 hf⟩
  | pause next ih =>
      rintro _ rfl
      exact ih (ht s rfl) hf
  | giveWay next ih =>
      rintro _ rfl
      exact ih (ht s rfl) hf
  | wait time rank next ih =>
      rintro _ rfl
      exact ih (ht s rfl) hf

end Routine

namespace Session

variable [Employer σ] {rely : σ → σ → Prop} {post : α → σ → Prop} {operation : Routine σ α}
  {s : Session σ}

/-! ## Turn by turn -/

/-- An operation that ends in its first turn leaves the others alone. -/
lemma perform_of_turn {value : α} {state : σ} (h : operation.turn s.state = (.done value, state)) :
    s.perform operation = (some value, hire ⟨state, s.company⟩) := by
  rw [perform]
  split
  · rename_i answer hanswer
    rw [h] at hanswer
    obtain rfl : value = answer := Sum.inl.inj hanswer
    rw [h]
  · rename_i rest hrest
    rw [h] at hrest
    exact absurd hrest (by simp [TurnEnd.result])

/-- An operation that pauses goes on when its place in the company has the turn. -/
lemma perform_of_pause {rest : Routine σ α} (hrest : (operation.turn s.state).1.result = .inr rest)
    {others : Company σ (Option Unit)} {state : σ}
    (hproceed : (((hire ⟨(operation.turn s.state).2, s.company⟩).company.map fun _ => none).seat
      ((operation.turn s.state).1.keep (some ()))).proceed id
        (hire ⟨(operation.turn s.state).2, s.company⟩).state = (some ((), others), state)) :
    s.perform operation = perform rest ⟨state, others.map fun _ => ()⟩ := by
  rw [perform]
  split
  · rename_i answer hanswer
    exact absurd (hrest.symm.trans hanswer) (by simp)
  · rename_i rest' hrest'
    obtain rfl : rest = rest' := Sum.inr.inj (hrest.symm.trans hrest')
    rw [hproceed]

/-! ## Among others -/

/-- **An operation that is performed among others comes to an end**, and what it ensures holds
    there.  Those who are still at work keep to what they kept to. -/
theorem perform_answers (hrefl : ∀ s, rely s s)
    (htrans : ∀ {a b c}, rely a b → rely b c → rely a c)
    (hhire : ∀ s : σ, rely s (Employer.hire s).2 ∧ ∀ t ∈ (Employer.hire s).1, t.Keeps rely)
    (hop : operation.Ensures rely post s.state) (hcompany : ∀ t ∈ s.company.members, t.Keeps rely) :
    ∃ value state company, s.perform operation = (some value, hire ⟨state, company⟩) ∧
      post value state ∧ ∀ t ∈ company.members, t.Keeps rely := by
  -- with every turn less is left of the operation
  induction operation using wellFounded_isPart.induction generalizing s with
  | _ operation ih =>
    obtain ⟨-, hdone, hleft⟩ := hop.turn (fun _ => trivial) (fun _ _ => trivial)
    cases hresult : (operation.turn s.state).1.result with
    | inl value =>
        have hend := eq_done_of_result hresult
        have hturn : operation.turn s.state = (.done value, (operation.turn s.state).2) :=
          Prod.ext hend rfl
        exact ⟨value, _, s.company, perform_of_turn hturn, hdone value hend, hcompany⟩
    | inr rest =>
        obtain ⟨hhired, hnewcomers⟩ := hhire (operation.turn s.state).2
        have hjoined := Company.keeps_join hcompany hnewcomers
        obtain ⟨others, state, hproceed, hstate, hothers⟩ :=
          Company.proceed_call hrefl htrans hjoined hresult
            (Employer.hire (operation.turn s.state).2).2
        have hrest : rest.Ensures rely post state :=
          hleft rest (by simp [left_of_result hresult]) state (htrans hhired hstate)
        rw [perform_of_pause hresult hproceed]
        exact ih rest (isPart_of_result hresult) (s := ⟨state, others.map fun _ => ()⟩) hrest
          hothers

/-! ## Alone -/

lemma hire_of_idle {state : σ} (h : Employer.Idle state) (company : Company σ Unit) :
    hire ⟨state, company⟩ = ⟨state, company⟩ := by
  simp [hire, h.nobody, h.state, Company.join]

/-- **With nobody else at work, performing an operation is running it**, if none of its turns leaves
    work for others. -/
theorem perform_alone (h : s.company.members = []) (hidle : Employer.Idle s.state)
    (hop : operation.Conducts Eq (fun s s' => Employer.Idle s → Employer.Idle s')
      (fun _ _ => True) s.state) :
    ∃ company : Company σ Unit, company.members = [] ∧
      s.perform operation =
        (some (operation.run s.state).1, hire ⟨(operation.run s.state).2, company⟩) := by
  induction operation using wellFounded_isPart.induction generalizing s with
  | _ operation ih =>
    obtain ⟨hturned, -, hleft⟩ := hop.turn (fun _ h => h) (fun h h' hs => h' (h hs))
    rw [run_eq_turn]
    cases hresult : (operation.turn s.state).1.result with
    | inl value =>
        have hend := eq_done_of_result hresult
        have hturn : operation.turn s.state = (.done value, (operation.turn s.state).2) :=
          Prod.ext hend rfl
        rw [hend]
        exact ⟨s.company, h, perform_of_turn hturn⟩
    | inr rest =>
        have hhire := hire_of_idle (hturned hidle) s.company
        have hmembers : (s.company.map fun _ => (none : Option Unit)).members = [] := by
          rw [Company.members_map, h, List.map_nil]
        have hplace := Company.members_seat_keep (s.company.map fun _ => none) hresult (some ())
        rw [hmembers, List.perm_singleton] at hplace
        have hfound : id ((Routine.done (some ())).run (operation.turn s.state).2).1 = some () := rfl
        obtain ⟨others, hothers, hproceed⟩ := Company.proceed_alone hplace hfound
        have hfinish : (operation.turn s.state).1.finish (operation.turn s.state).2 =
            rest.run (operation.turn s.state).2 := by
          generalize (operation.turn s.state).1 = e at hresult
          cases e <;> simp_all [TurnEnd.result, TurnEnd.finish]
        rw [hfinish, perform_of_pause hresult (by rw [hhire]; exact hproceed)]
        refine ih rest (isPart_of_result hresult) (s := ⟨_, others.map fun _ => ()⟩) ?_
          (hturned hidle) (hleft rest (by simp [left_of_result hresult]) _ rfl)
        rw [Company.members_map, hothers, List.map_nil]

/-! ## Waiting for the others -/

omit [Employer σ] in
lemma proceedTimes_keeps (hrefl : ∀ s, rely s s)
    (htrans : ∀ {a b c}, rely a b → rely b c → rely a c) (n : ℕ) {c : Company σ (Option Unit)}
    (hc : ∀ t ∈ c.members, t.Keeps rely) (s : σ) :
    rely s (proceedTimes n c s).2 ∧ ∀ t ∈ (proceedTimes n c s).1.members, t.Keeps rely := by
  induction n generalizing c s with
  | zero => exact ⟨hrefl s, hc⟩
  | succ n ih =>
      obtain ⟨hguar, hothers⟩ := c.proceed_keeps hrefl htrans id hc s
      rw [proceedTimes]
      split
      · rename_i answer others s' hproceed
        rw [hproceed] at hguar hothers
        obtain ⟨hrest, hmembers⟩ := ih (hothers _ rfl) s'
        exact ⟨htrans hguar hrest, hmembers⟩
      · rename_i s' hproceed
        rw [hproceed] at hguar
        exact ⟨hguar, by simp [Company.empty, Company.members]⟩

omit [Employer σ] in
lemma finish_keeps (hrefl : ∀ s, rely s s) (htrans : ∀ {a b c}, rely a b → rely b c → rely a c)
    (hcompany : ∀ t ∈ s.company.members, t.Keeps rely) :
    rely s.state s.finish.state ∧ ∀ t ∈ s.finish.company.members, t.Keeps rely := by
  rw [finish]
  split
  · exact ⟨hrefl s.state, hcompany⟩
  · obtain ⟨hguar, hothers⟩ := proceedTimes_keeps hrefl htrans s.company.size
      (Company.keeps_map hcompany fun _ => some ()) s.state
    have hcall : (callBack (some ()) : Routine σ (Option Unit)).Keeps rely := (keeps_pure _).pause
    obtain ⟨hrest, hmembers⟩ := proceedTimes_keeps hrefl htrans 1
      (Company.keeps_join hothers (List.forall_mem_singleton.mpr hcall)) _
    exact ⟨htrans hguar hrest, Company.keeps_map hmembers _⟩

end Session

end ActivityFlow
