import ActivityFlow.Proofs.Routine.Interference
import Mathlib.Data.List.Forall2

/-!
# Routines in lockstep

Two routines over different states may take the same steps, one on what the other's state looks like
when a part of it is forgotten.  The first works on states in `σ`, the second on states in `τ`, and
`view : σ → τ` says what is left of a state.

* `Routine.Agrees` — two routines agree from a state on: they go on in the same way, and wherever
  the first changes the state, the second changes it to the view of the change.  Behind a pause,
  where others may have changed the state to anything, they agree from every state on.
* `Company.Alike` — companies with the same places, at each of which two routines agree.
* **`Company.Alike.proceed`** — companies that are alike go on in the same way.
* `Session.Alike.finish` — sessions that are alike are so when everybody has ended.
-/

namespace ActivityFlow

variable {σ τ α β : Type}

namespace Routine

/-- **Two routines agree from a state on.** -/
inductive Agrees (view : σ → τ) : Routine σ α → Routine τ α → σ → Prop
  | done (value : α) (s : σ) : Agrees view (done value) (done value) s
  | look {next : σ → Routine σ α} {next' : τ → Routine τ α} {s : σ}
      (h : Agrees view (next s) (next' (view s)) s) : Agrees view (look next) (look next') s
  | become {state : σ} {next : Routine σ α} {next' : Routine τ α} {s : σ}
      (h : Agrees view next next' state) :
      Agrees view (become state next) (become (view state) next') s
  | pause {next : Routine σ α} {next' : Routine τ α} {s : σ}
      (h : ∀ s', Agrees view next next' s') : Agrees view (pause next) (pause next') s
  | giveWay {next : Routine σ α} {next' : Routine τ α} {s : σ}
      (h : ∀ s', Agrees view next next' s') : Agrees view (giveWay next) (giveWay next') s
  | wait {next : Routine σ α} {next' : Routine τ α} {s : σ} (time rank : ℕ)
      (h : ∀ s', Agrees view next next' s') :
      Agrees view (wait time rank next) (wait time rank next') s

/-- Two routines that agree from every state on. -/
def Alike (view : σ → τ) (t : Routine σ α) (t' : Routine τ α) : Prop :=
  ∀ s, Agrees view t t' s

variable {view : σ → τ}

/-! ## The operations of routines -/

lemma alike_pure (value : α) : Alike view (pure value : Routine σ α) (pure value) :=
  .done value

lemma Agrees.bind {t : Routine σ α} {t' : Routine τ α} {f : α → Routine σ β} {f' : α → Routine τ β}
    {s : σ} (h : Agrees view t t' s) (hf : ∀ value, Alike view (f value) (f' value)) :
    Agrees view (t >>= f) (t' >>= f') s := by
  rw [bind_eq, bind_eq]
  induction h with
  | done value s => exact hf value s
  | look _ ih => exact .look ih
  | become _ ih => exact .become ih
  | pause _ ih => exact .pause ih
  | giveWay _ ih => exact .giveWay ih
  | wait time rank _ ih => exact .wait time rank ih

lemma Alike.bind {t : Routine σ α} {t' : Routine τ α} {f : α → Routine σ β} {f' : α → Routine τ β}
    (h : Alike view t t') (hf : ∀ value, Alike view (f value) (f' value)) :
    Alike view (t >>= f) (t' >>= f') :=
  fun s => (h s).bind hf

lemma Agrees.map {t : Routine σ α} {t' : Routine τ α} {s : σ} (h : Agrees view t t' s)
    (f : α → β) : Agrees view (t.map f) (t'.map f) s :=
  h.bind fun value => alike_pure (f value)

lemma Alike.map {t : Routine σ α} {t' : Routine τ α} (h : Alike view t t') (f : α → β) :
    Alike view (t.map f) (t'.map f) :=
  fun s => (h s).map f

/-- Work on a part that is not forgotten. -/
lemma alike_zoom {υ : Type} {part : σ → υ} {put : υ → σ → σ} {part' : τ → υ} {put' : υ → τ → τ}
    (hpart : ∀ s, part' (view s) = part s) (hput : ∀ u s, put' u (view s) = view (put u s))
    (t : Routine υ α) : Alike view (zoom part put t) (zoom part' put' t) := by
  induction t with
  | done value => exact .done value
  | look next ih =>
      refine fun s => .look ?_
      rw [hpart]
      exact ih (part s) s
  | become state next ih =>
      refine fun s => .look ?_
      rw [hput]
      exact .become (ih (put state s))
  | pause next ih => exact fun _ => .pause ih
  | giveWay next ih => exact fun _ => .giveWay ih
  | wait time rank next ih => exact fun _ => .wait time rank ih

/-! ## Turns -/

/-- Turns that end in the same way, with agreement in what is left. -/
inductive TurnEnd.Alike (view : σ → τ) : TurnEnd σ α → TurnEnd τ α → Prop
  | done (value : α) : TurnEnd.Alike view (.done value) (.done value)
  | pause {rest : Routine σ α} {rest' : Routine τ α} (h : Routine.Alike view rest rest') :
      TurnEnd.Alike view (.pause rest) (.pause rest')
  | giveWay {rest : Routine σ α} {rest' : Routine τ α} (h : Routine.Alike view rest rest') :
      TurnEnd.Alike view (.giveWay rest) (.giveWay rest')
  | wait {rest : Routine σ α} {rest' : Routine τ α} (time rank : ℕ)
      (h : Routine.Alike view rest rest') :
      TurnEnd.Alike view (.wait time rank rest) (.wait time rank rest')

lemma TurnEnd.Alike.answer?_eq {e : TurnEnd σ α} {e' : TurnEnd τ α} (h : TurnEnd.Alike view e e')
    (wanted : α → Option β) : Company.answer? wanted e = Company.answer? wanted e' := by
  cases h <;> rfl

/-- Routines that agree have the same turn. -/
lemma Agrees.turn {t : Routine σ α} {t' : Routine τ α} {s : σ} (h : Agrees view t t' s) :
    TurnEnd.Alike view (t.turn s).1 (t'.turn (view s)).1 ∧
      (t'.turn (view s)).2 = view (t.turn s).2 := by
  induction h with
  | done value s => exact ⟨.done value, rfl⟩
  | look _ ih => exact ih
  | become _ ih => exact ih
  | pause h => exact ⟨.pause h, rfl⟩
  | giveWay h => exact ⟨.giveWay h, rfl⟩
  | wait time rank h => exact ⟨.wait time rank h, rfl⟩

end Routine

/-! ## Companies -/

open Routine

/-- Two that wait for the same time. -/
structure Waiting.Alike (view : σ → τ) (w : Waiting σ α) (w' : Waiting τ α) : Prop where
  time : w.time = w'.time
  rank : w.rank = w'.rank
  rest : Routine.Alike view w.rest w'.rest

namespace Company

/-- **Companies of routines that agree**, each at the same place in both. -/
structure Alike (view : σ → τ) (c : Company σ α) (c' : Company τ α) : Prop where
  clock : c.clock = c'.clock
  now : List.Forall₂ (Routine.Alike view) c.now c'.now
  behind : List.Forall₂ (Routine.Alike view) c.behind c'.behind
  next : List.Forall₂ (Routine.Alike view) c.next c'.next
  waiting : List.Forall₂ (Waiting.Alike view) c.waiting c'.waiting

variable {view : σ → τ} {c : Company σ α} {c' : Company τ α}

lemma alike_empty : Alike view (empty : Company σ α) empty :=
  ⟨rfl, .nil, .nil, .nil, .nil⟩

lemma forall₂_map {l : List (Routine σ α)} {l' : List (Routine τ α)}
    (h : List.Forall₂ (Routine.Alike view) l l') (f : α → β) :
    List.Forall₂ (Routine.Alike view) (l.map (Routine.map f)) (l'.map (Routine.map f)) :=
  List.forall₂_map_left_iff.mpr <| List.forall₂_map_right_iff.mpr <| h.imp fun _ _ ht => ht.map f

lemma Alike.map (h : Alike view c c') (f : α → β) : Alike view (c.map f) (c'.map f) where
  clock := h.clock
  now := forall₂_map h.now f
  behind := forall₂_map h.behind f
  next := forall₂_map h.next f
  waiting := List.forall₂_map_left_iff.mpr <| List.forall₂_map_right_iff.mpr <|
    h.waiting.imp fun _ _ hw => ⟨hw.time, hw.rank, hw.rest.map f⟩

lemma Alike.join (h : Alike view c c') {ts : List (Routine σ α)} {ts' : List (Routine τ α)}
    (hts : List.Forall₂ (Routine.Alike view) ts ts') : Alike view (c.join ts) (c'.join ts') where
  clock := h.clock
  now := h.now
  behind := h.behind
  next := List.rel_append h.next hts
  waiting := h.waiting

lemma forall₂_insertWaiting {w : Waiting σ α} {w' : Waiting τ α} (hw : Waiting.Alike view w w')
    {l : List (Waiting σ α)} {l' : List (Waiting τ α)}
    (h : List.Forall₂ (Waiting.Alike view) l l') :
    List.Forall₂ (Waiting.Alike view) (insertWaiting w l) (insertWaiting w' l') := by
  induction h with
  | nil => exact .cons hw .nil
  | @cons first first' later later' hfirst hlater ih =>
      have hbefore : w.before first = w'.before first' := by
        simp [Waiting.before, hw.time, hw.rank, hfirst.time, hfirst.rank]
      rw [insertWaiting, insertWaiting, hbefore]
      split
      · exact .cons hw (.cons hfirst hlater)
      · exact .cons hfirst ih

lemma Alike.seat (h : Alike view c c') {e : TurnEnd σ α} {e' : TurnEnd τ α}
    (he : TurnEnd.Alike view e e') : Alike view (c.seat e) (c'.seat e') := by
  cases he with
  | done value => exact h
  | pause hrest => exact { h with next := List.rel_append h.next (.cons hrest .nil) }
  | giveWay hrest => exact { h with behind := List.rel_append h.behind (.cons hrest .nil) }
  | wait time rank hrest =>
      have hw : Waiting.Alike view ⟨c.clock + time, rank, _⟩ ⟨c'.clock + time, rank, _⟩ :=
        ⟨congrArg (· + time) h.clock, rfl, hrest⟩
      exact { h with waiting := forall₂_insertWaiting hw h.waiting }

/-- Those whose time has come, and the others. -/
lemma forall₂_due {l : List (Waiting σ α)} {l' : List (Waiting τ α)}
    (h : List.Forall₂ (Waiting.Alike view) l l') (time : ℕ) :
    List.Forall₂ (Routine.Alike view) ((l.takeWhile (·.time = time)).map (·.rest))
        ((l'.takeWhile (·.time = time)).map (·.rest)) ∧
      List.Forall₂ (Waiting.Alike view) (l.dropWhile (·.time = time))
        (l'.dropWhile (·.time = time)) := by
  induction h with
  | nil => exact ⟨.nil, .nil⟩
  | @cons first first' later later' hfirst hlater ih =>
      rw [List.takeWhile_cons, List.takeWhile_cons, List.dropWhile_cons, List.dropWhile_cons,
        hfirst.time]
      split
      · exact ⟨.cons hfirst.rest ih.1, ih.2⟩
      · exact ⟨.nil, .cons hfirst hlater⟩

/-- Companies that are alike call the routine at the same place, or nobody. -/
lemma Alike.call? (h : Alike view c c') :
    (c.call? = none ∧ c'.call? = none) ∨ ∃ t t' others others',
      c.call? = some (t, others) ∧ c'.call? = some (t', others') ∧ Routine.Alike view t t' ∧
        Alike view others others' := by
  obtain ⟨clock, now, behind, next, waiting⟩ := c
  obtain ⟨clock', now', behind', next', waiting'⟩ := c'
  obtain ⟨rfl, hnow, hbehind, hnext, hwaiting⟩ := h
  -- in the order in which the places are looked at; one that is empty here is empty there
  cases hnow with
  | cons ht hrest => exact .inr ⟨_, _, _, _, rfl, rfl, ht, rfl, hrest, hbehind, hnext, hwaiting⟩
  | nil => cases hbehind with
    | cons ht hrest => exact .inr ⟨_, _, _, _, rfl, rfl, ht, rfl, hrest, .nil, hnext, hwaiting⟩
    | nil => cases hnext with
      | cons ht hrest => exact .inr ⟨_, _, _, _, rfl, rfl, ht, rfl, hrest, .nil, .nil, hwaiting⟩
      | nil => cases hwaiting with
        | nil => exact .inl ⟨rfl, rfl⟩
        | @cons first first' later later' hfirst hlater =>
            have hdue := forall₂_due hlater first.time
            refine .inr ⟨_, _, _, _, rfl, rfl, hfirst.rest, hfirst.time, ?_, .nil, .nil, ?_⟩
            · rw [← hfirst.time]
              exact hdue.1
            · rw [← hfirst.time]
              exact hdue.2

/-! ### Going on -/

/-- Companies that went on to the same answer, or to the end. -/
inductive WentOn (view : σ → τ) :
    Option (β × Company σ α) × σ → Option (β × Company τ α) × τ → Prop
  | ended (s : σ) : WentOn view (none, s) (none, view s)
  | found (answer : β) {others : Company σ α} {others' : Company τ α} (s : σ)
      (h : Alike view others others') :
      WentOn view (some (answer, others), s) (some (answer, others'), view s)

/-- A company goes on like another behind a turn that is called in both. -/
lemma wentOn_of_call? {wanted : α → Option β} {t : Routine σ α} {t' : Routine τ α}
    {others : Company σ α} {others' : Company τ α} {s : σ} (hcall : c.call? = some (t, others))
    (hcall' : c'.call? = some (t', others')) (hothers : Alike view others others')
    (ht : Agrees view t t' s)
    (hnext : Alike view (others.seat (t.turn s).1) (others'.seat (t'.turn (view s)).1) →
      WentOn view ((others.seat (t.turn s).1).proceed wanted (t.turn s).2)
        ((others'.seat (t'.turn (view s)).1).proceed wanted (view (t.turn s).2))) :
    WentOn view (c.proceed wanted s) (c'.proceed wanted (view s)) := by
  obtain ⟨hend, hstate⟩ := ht.turn
  rw [proceed_of_call? hcall, proceed_of_call? hcall', hstate, ← hend.answer?_eq wanted]
  split
  · exact .found _ _ hothers
  · exact hnext (hothers.seat hend)

/-- **Companies that are alike go on in the same way.** -/
theorem Alike.proceed (h : Alike view c c') (wanted : α → Option β) (s : σ) :
    WentOn view (c.proceed wanted s) (c'.proceed wanted (view s)) := by
  -- along the order in which a company is less behind a turn; for the second company it is enough
  -- that it stays alike
  have hwf : WellFounded (WellFoundedRelation.rel (α := Company σ α)) := WellFoundedRelation.wf
  induction c using hwf.induction generalizing c' s with
  | _ c ih =>
    rcases h.call? with ⟨hnone, hnone'⟩ | ⟨t, t', others, others', hcall, hcall', ht, hothers⟩
    · rw [proceed_of_call?_eq_none wanted hnone, proceed_of_call?_eq_none wanted hnone']
      exact .ended s
    · exact wentOn_of_call? hcall hcall' hothers (ht s) fun hseat =>
        ih _ (isLess_seat_turn hcall s) hseat _

lemma Alike.size_eq (h : Alike view c c') : c.size = c'.size := by
  simp [size, members, h.now.length_eq, h.behind.length_eq, h.next.length_eq,
    h.waiting.length_eq]

end Company

/-! ## Sessions -/

namespace Session

variable {view : σ → τ}

/-- **Sessions that are alike**: the state of one is the view of the other's, and those at work are
    alike. -/
structure Alike (view : σ → τ) (s : Session σ) (s' : Session τ) : Prop where
  state : s'.state = view s.state
  company : s.company.Alike view s'.company

variable [Employer σ] [Employer τ]

/-- The view of a state leaves the same work for the company. -/
def Hires (view : σ → τ) : Prop :=
  ∀ s : σ, List.Forall₂ (Routine.Alike view) (Employer.hire s).1 (Employer.hire (view s)).1 ∧
    (Employer.hire (view s)).2 = view (Employer.hire s).2

variable {s : Session σ} {s' : Session τ}

lemma Alike.hire (hhire : Hires view) (h : Alike view s s') : Alike view s.hire s'.hire := by
  obtain ⟨state, company⟩ := s
  obtain ⟨state', company'⟩ := s'
  obtain ⟨rfl, hcompany⟩ := h
  exact ⟨(hhire state).2, hcompany.join (hhire state).1⟩

omit [Employer σ] [Employer τ]

/-- Companies that are alike go on for as many answers in the same way. -/
lemma proceedTimes_alike (n : ℕ) {c : Company σ (Option Unit)} {c' : Company τ (Option Unit)}
    (h : c.Alike view c') (state : σ) :
    (proceedTimes n c state).1.Alike view (proceedTimes n c' (view state)).1 ∧
      (proceedTimes n c' (view state)).2 = view (proceedTimes n c state).2 := by
  induction n generalizing c c' state with
  | zero => exact ⟨h, rfl⟩
  | succ n ih =>
      have hwent := h.proceed id state
      rw [proceedTimes, proceedTimes]
      generalize c.proceed id state = result at hwent ⊢
      generalize c'.proceed id (view state) = result' at hwent ⊢
      cases hwent with
      | ended => exact ⟨Company.alike_empty, rfl⟩
      | found answer state hothers => exact ih hothers state

/-- Sessions that are alike are alike when everybody has ended. -/
theorem Alike.finish (h : Alike view s s') : Alike view s.finish s'.finish := by
  obtain ⟨state, company⟩ := s
  obtain ⟨state', company'⟩ := s'
  obtain ⟨rfl, hcompany⟩ := h
  simp only [Session.finish, hcompany.size_eq]
  split
  · exact ⟨rfl, hcompany⟩
  · obtain ⟨hothers, hstate⟩ :=
      proceedTimes_alike company'.size (hcompany.map fun _ => some ()) state
    have hcall : Routine.Alike view (callBack (some ()) : Routine σ (Option Unit))
        (callBack (some ())) := fun _ => .pause fun s => .done _ s
    rw [hstate]
    obtain ⟨hend, hstate⟩ := proceedTimes_alike 1 (hothers.join (.cons hcall .nil)) _
    exact ⟨hstate, hend.map fun _ => ()⟩

end Session

end ActivityFlow
