import ActivityFlow.Session
import Mathlib.Tactic.Common

/-!
# Routines among others

While a routine pauses, others change the state.  What can still be said of its end depends on what
the others may do, and what they may do is what each of them promises of its own steps.  So a
routine is described by three things together (`Conducts`): the changes it has to **rely** on
while it pauses, the changes it **guarantees** to stay within, and what holds when it ends.

* `Ensures` — a routine that somebody waits for: what holds at its end, whatever others do within
  what it relies on.
* `Keeps` — a routine in the background: it relies on nothing and promises nothing of its end, but
  keeps to what it guarantees.
* **`Company.proceed_answers`** — a company of such routines goes on until the one that is waited for
  has ended, and what this one ensures holds there.

The laws of `Conducts` follow the operations of routines, so that a description of a long routine
is put together from those of its parts.
-/

namespace ActivityFlow

variable {σ τ α β : Type}

namespace Routine

/-- **How a routine conducts itself among others**, run from a state. -/
def Conducts (rely guar : σ → σ → Prop) (post : α → σ → Prop) : Routine σ α → σ → Prop
  | done value, s => post value s
  | look next, s => Conducts rely guar post (next s) s
  | become state next, s => guar s state ∧ Conducts rely guar post next state
  | pause next, s => ∀ s', rely s s' → Conducts rely guar post next s'
  | giveWay next, s => ∀ s', rely s s' → Conducts rely guar post next s'
  | wait _ _ next, s => ∀ s', rely s s' → Conducts rely guar post next s'

/-- What holds at the end of a routine, whatever others do within `rely`. -/
def Ensures (rely : σ → σ → Prop) (post : α → σ → Prop) (t : Routine σ α) (s : σ) : Prop :=
  t.Conducts rely (fun _ _ => True) post s

/-- A routine that stays within `guar`, whatever others do. -/
def Keeps (guar : σ → σ → Prop) (t : Routine σ α) : Prop :=
  ∀ s, t.Conducts (fun _ _ => True) guar (fun _ _ => True) s

variable {rely guar : σ → σ → Prop} {post : α → σ → Prop}

/-! ## What a routine ensures -/

/-- A routine conducts itself like its parts one after the other. -/
lemma conducts_bind (t : Routine σ α) (f : α → Routine σ β) {post : β → σ → Prop} (s : σ) :
    (t >>= f).Conducts rely guar post s ↔
      t.Conducts rely guar (fun value s' => (f value).Conducts rely guar post s') s := by
  rw [bind_eq]
  induction t generalizing s with
  | done value => exact Iff.rfl
  | look next ih => exact ih s s
  | become state next ih => exact and_congr_right fun _ => ih state
  | pause next ih => exact forall_congr' fun s' => imp_congr_right fun _ => ih s'
  | giveWay next ih => exact forall_congr' fun s' => imp_congr_right fun _ => ih s'
  | wait time rank next ih => exact forall_congr' fun s' => imp_congr_right fun _ => ih s'

lemma conducts_map (t : Routine σ α) (f : α → β) {post : β → σ → Prop} (s : σ) :
    (t.map f).Conducts rely guar post s ↔
      t.Conducts rely guar (fun value s' => post (f value) s') s :=
  conducts_bind t (fun value => done (f value)) s

/-- More may be relied on, and less be guaranteed and asked of the end. -/
lemma Conducts.weaken {rely' guar' : σ → σ → Prop} {post' : α → σ → Prop} {t : Routine σ α} {s : σ}
    (h : t.Conducts rely guar post s) (hrely : ∀ {a b}, rely' a b → rely a b)
    (hguar : ∀ {a b}, guar a b → guar' a b) (hpost : ∀ value s', post value s' → post' value s') :
    t.Conducts rely' guar' post' s := by
  induction t generalizing s with
  | done value => exact hpost value s h
  | look next ih => exact ih s h
  | become state next ih => exact ⟨hguar h.1, ih h.2⟩
  | pause next ih => exact fun s' hs' => ih (h s' (hrely hs'))
  | giveWay next ih => exact fun s' hs' => ih (h s' (hrely hs'))
  | wait time rank next ih => exact fun s' hs' => ih (h s' (hrely hs'))

lemma Conducts.mono {post' : α → σ → Prop} {t : Routine σ α} {s : σ}
    (h : t.Conducts rely guar post s) (hpost : ∀ value s', post value s' → post' value s') :
    t.Conducts rely guar post' s :=
  h.weaken (fun hrely => hrely) (fun hguar => hguar) hpost

@[simp] lemma ensures_pure (value : α) (s : σ) :
    (pure value : Routine σ α).Ensures rely post s ↔ post value s := Iff.rfl

@[simp] lemma ensures_bind (t : Routine σ α) (f : α → Routine σ β) {post : β → σ → Prop} (s : σ) :
    (t >>= f).Ensures rely post s ↔
      t.Ensures rely (fun value s' => (f value).Ensures rely post s') s :=
  conducts_bind t f s

@[simp] lemma ensures_get {post : σ → σ → Prop} (s : σ) :
    (get : Routine σ σ).Ensures rely post s ↔ post s s := Iff.rfl

@[simp] lemma ensures_modify (f : σ → σ) {post : Unit → σ → Prop} (s : σ) :
    (modify f).Ensures rely post s ↔ post () (f s) :=
  and_iff_right trivial

@[simp] lemma ensures_update (f : σ → α × σ) (s : σ) :
    (update f).Ensures rely post s ↔ post (f s).1 (f s).2 :=
  and_iff_right trivial

@[simp] lemma ensures_map (t : Routine σ α) (f : α → β) {post : β → σ → Prop} (s : σ) :
    (t.map f).Ensures rely post s ↔ t.Ensures rely (fun value s' => post (f value) s') s :=
  conducts_map t f s

lemma Ensures.mono {post' : α → σ → Prop} {t : Routine σ α} {s : σ} (h : t.Ensures rely post s)
    (hpost : ∀ value s', post value s' → post' value s') : t.Ensures rely post' s :=
  Conducts.mono h hpost

/-- What holds at the end of a part holds where the next part begins. -/
lemma Ensures.bind {t : Routine σ α} {f : α → Routine σ β} {post' : β → σ → Prop} {s : σ}
    (h : t.Ensures rely post s) (hf : ∀ value s', post value s' → (f value).Ensures rely post' s') :
    (t >>= f).Ensures rely post' s :=
  (ensures_bind t f s).mpr (h.mono hf)

lemma Ensures.weaken {rely' : σ → σ → Prop} {t : Routine σ α} {s : σ} (h : t.Ensures rely post s)
    (hrely : ∀ {a b}, rely' a b → rely a b) : t.Ensures rely' post s :=
  Conducts.weaken h hrely (fun hguar => hguar) fun _ _ hpost => hpost

/-! ## What a routine keeps to -/

lemma Keeps.weaken {guar' : σ → σ → Prop} {t : Routine σ α} (h : t.Keeps guar)
    (hguar : ∀ {a b}, guar a b → guar' a b) : t.Keeps guar' :=
  fun s => (h s).weaken (fun hrely => hrely) hguar fun _ _ hpost => hpost

/-- Every routine keeps to what is always so. -/
lemma keeps_of_forall (hguar : ∀ s s', guar s s') (t : Routine σ α) : t.Keeps guar := by
  intro s
  induction t generalizing s with
  | done value => trivial
  | look next ih => exact ih s s
  | become state next ih => exact ⟨hguar s state, ih state⟩
  | pause next ih => exact fun s' _ => ih s'
  | giveWay next ih => exact fun s' _ => ih s'
  | wait time rank next ih => exact fun s' _ => ih s'

lemma keeps_pure (value : α) : (pure value : Routine σ α).Keeps guar :=
  fun _ => trivial

lemma Keeps.bind {t : Routine σ α} {f : α → Routine σ β} (h : t.Keeps guar)
    (hf : ∀ value, (f value).Keeps guar) : (t >>= f).Keeps guar :=
  fun s => (conducts_bind t f s).mpr ((h s).mono fun value s' _ => hf value s')

lemma Keeps.map {t : Routine σ α} (h : t.Keeps guar) (f : α → β) : (t.map f).Keeps guar :=
  h.bind fun value => keeps_pure (f value)

lemma keeps_step {f : σ → α × σ} {next : α → Routine σ β} (hf : ∀ s, guar s (f s).2)
    (hnext : ∀ value, (next value).Keeps guar) : (step f next).Keeps guar :=
  fun s => ⟨hf s, hnext (f s).1 (f s).2⟩

lemma keeps_update {f : σ → α × σ} (hf : ∀ s, guar s (f s).2) : (update f).Keeps guar :=
  keeps_step hf keeps_pure

lemma keeps_modify {f : σ → σ} (hf : ∀ s, guar s (f s)) : (modify f).Keeps guar :=
  fun s => ⟨hf s, trivial⟩

lemma keeps_get : (get : Routine σ σ).Keeps guar :=
  fun _ => trivial

lemma Keeps.pause {t : Routine σ α} (h : t.Keeps guar) : (Routine.pause t).Keeps guar :=
  fun _ s' _ => h s'

lemma Keeps.giveWay {t : Routine σ α} (h : t.Keeps guar) : (Routine.giveWay t).Keeps guar :=
  fun _ s' _ => h s'

lemma Keeps.wait {t : Routine σ α} (h : t.Keeps guar) (time rank : ℕ) :
    (Routine.wait time rank t).Keeps guar :=
  fun _ s' _ => h s'

lemma keeps_pauses : ∀ n : ℕ, (pauses n : Routine σ Unit).Keeps guar
  | 0 => keeps_pure ()
  | n + 1 => (keeps_pauses n).pause

/-- A routine that keeps to a relation ends within the relation, if the others keep to it too. -/
lemma Keeps.ensures (htrans : ∀ {a b c}, guar a b → guar b c → guar a c) {t : Routine σ α}
    (h : t.Keeps guar) {start s : σ} (hs : guar start s) :
    t.Ensures guar (fun _ s' => guar start s') s := by
  -- what is left of `t` is known only at the states it comes to, so the induction is on `Conducts`
  suffices ∀ {s}, t.Conducts (fun _ _ => True) guar (fun _ _ => True) s → guar start s →
      t.Ensures guar (fun _ s' => guar start s') s from this (h s) hs
  clear h hs
  induction t with
  | done value => exact fun _ hs => hs
  | look next ih => exact fun {s} h hs => ih s h hs
  | become state next ih => exact fun h hs => ⟨trivial, ih h.2 (htrans hs h.1)⟩
  | pause next ih => exact fun h hs s' hs' => ih (h s' trivial) (htrans hs hs')
  | giveWay next ih => exact fun h hs s' hs' => ih (h s' trivial) (htrans hs hs')
  | wait time rank next ih => exact fun h hs s' hs' => ih (h s' trivial) (htrans hs hs')

/-- Work on a part of the state keeps to what it means for the whole. -/
lemma Keeps.zoom {view : τ → σ} {put : σ → τ → τ} {guar' : τ → τ → Prop}
    (view_put : ∀ s t, view (put s t) = s)
    (hguar : ∀ t s, guar (view t) s → guar' t (put s t)) {routine : Routine σ α}
    (h : routine.Keeps guar) : (Routine.zoom view put routine).Keeps guar' := by
  suffices ∀ t, routine.Conducts (fun _ _ => True) guar (fun _ _ => True) (view t) →
      (Routine.zoom view put routine).Conducts (fun _ _ => True) guar' (fun _ _ => True) t from
    fun t => this t (h (view t))
  clear h
  induction routine with
  | done value => exact fun _ _ => trivial
  | look next ih => exact fun t h => ih (view t) t h
  | become state next ih =>
      intro t h
      refine ⟨hguar t state h.1, ih (put state t) ?_⟩
      rw [view_put]
      exact h.2
  | pause next ih => exact fun t h t' _ => ih t' (h (view t') trivial)
  | giveWay next ih => exact fun t h t' _ => ih t' (h (view t') trivial)
  | wait time rank next ih => exact fun t h t' _ => ih t' (h (view t') trivial)

/-- Work on a part that others leave alone comes to what it comes to on its own. -/
lemma ensures_zoom {view : τ → σ} {put : σ → τ → τ} {rely : τ → τ → Prop}
    (view_put : ∀ s t, view (put s t) = s) (put_put : ∀ s s' t, put s (put s' t) = put s t)
    (put_view : ∀ t, put (view t) t = t) (hrefl : ∀ t, rely t t)
    (htrans : ∀ {a b c}, rely a b → rely b c → rely a c)
    (hview : ∀ {a b}, rely a b → view b = view a)
    (hput : ∀ {a b} s, rely a b → rely (put s a) (put s b)) (routine : Routine σ α) (t : τ) :
    (Routine.zoom view put routine).Ensures rely (fun value t' =>
      value = (routine.run (view t)).1 ∧ rely (put (routine.run (view t)).2 t) t') t := by
  -- what others do in a pause is put behind the work on the part
  have hpause {next : Routine σ α} {t t' : τ} (hrely : rely t t')
      (h : (Routine.zoom view put next).Ensures rely (fun value t'' =>
        value = (next.run (view t')).1 ∧ rely (put (next.run (view t')).2 t') t'') t') :
      (Routine.zoom view put next).Ensures rely (fun value t'' =>
        value = (next.run (view t)).1 ∧ rely (put (next.run (view t)).2 t) t'') t' := by
    rw [hview hrely] at h
    exact h.mono fun value t'' hend => ⟨hend.1, htrans (hput _ hrely) hend.2⟩
  induction routine generalizing t with
  | done value =>
      refine ⟨rfl, ?_⟩
      rw [run_done, put_view]
      exact hrefl t
  | look next ih => exact ih (view t) t
  | become state next ih =>
      have h := ih (put state t)
      rw [view_put, put_put] at h
      exact ⟨trivial, h⟩
  | pause next ih => exact fun t' hrely => hpause hrely (ih t')
  | giveWay next ih => exact fun t' hrely => hpause hrely (ih t')
  | wait time rank next ih => exact fun t' hrely => hpause hrely (ih t')

/-! ## One turn -/

/-- A turn ends with the answer, or leaves a routine behind and nothing to be wanted. -/
lemma TurnEnd.done_or_left (e : TurnEnd σ α) :
    (∃ value, e = .done value) ∨
      ∃ rest, e.left = [rest] ∧ ∀ wanted : α → Option β, Company.answer? wanted e = none := by
  cases e with
  | done value => exact .inl ⟨value, rfl⟩
  | pause rest => exact .inr ⟨rest, rfl, fun _ => rfl⟩
  | giveWay rest => exact .inr ⟨rest, rfl, fun _ => rfl⟩
  | wait time rank rest => exact .inr ⟨rest, rfl, fun _ => rfl⟩

/-- A routine that ends in its first turn leaves the turn to what follows. -/
lemma turn_bind {t : Routine σ α} {s s' : σ} {value : α} (h : t.turn s = (.done value, s'))
    (f : α → Routine σ β) : (t >>= f).turn s = (f value).turn s' := by
  rw [bind_eq]
  induction t generalizing s with
  | done value' =>
      obtain ⟨rfl, rfl⟩ : value' = value ∧ s = s' := by simpa [Routine.turn] using h
      rfl
  | look next ih => exact ih s h
  | become state next ih => exact ih h
  | pause next => simp [Routine.turn] at h
  | giveWay next => simp [Routine.turn] at h
  | wait time rank next => simp [Routine.turn] at h

lemma turn_map {t : Routine σ α} {s s' : σ} {value : α} (h : t.turn s = (.done value, s'))
    (f : α → β) : (t.map f).turn s = (.done (f value), s') :=
  turn_bind h fun value => done (f value)

lemma turn_update (f : σ → α × σ) (s : σ) : (update f).turn s = (.done (f s).1, (f s).2) := rfl

lemma turn_modify (f : σ → σ) (s : σ) : (modify f).turn s = (.done (), f s) := rfl

lemma turn_get (s : σ) : (get : Routine σ σ).turn s = (.done s, s) := rfl

/-- In a turn a routine stays within what it guarantees.  Behind the turn it has ended as it
    should, or what is left of it conducts itself in the same way. -/
lemma Conducts.turn (hrefl : ∀ s, guar s s) (htrans : ∀ {a b c}, guar a b → guar b c → guar a c)
    {t : Routine σ α} {s : σ} (h : t.Conducts rely guar post s) :
    guar s (t.turn s).2 ∧ (∀ value, (t.turn s).1 = .done value → post value (t.turn s).2) ∧
      ∀ rest ∈ (t.turn s).1.left, ∀ s', rely (t.turn s).2 s' →
        rest.Conducts rely guar post s' := by
  induction t generalizing s with
  | done value =>
      refine ⟨hrefl s, fun value' hvalue => ?_, by simp [Routine.turn, TurnEnd.left]⟩
      obtain rfl : value = value' := by simpa [Routine.turn] using hvalue
      exact h
  | look next ih => exact ih s h
  | become state next ih => exact ⟨htrans h.1 (ih h.2).1, (ih h.2).2⟩
  | pause next =>
      have hnext : ∀ s', rely s s' → next.Conducts rely guar post s' := h
      exact ⟨hrefl s, by simp [Routine.turn], by simpa [Routine.turn, TurnEnd.left] using hnext⟩
  | giveWay next =>
      have hnext : ∀ s', rely s s' → next.Conducts rely guar post s' := h
      exact ⟨hrefl s, by simp [Routine.turn], by simpa [Routine.turn, TurnEnd.left] using hnext⟩
  | wait time rank next =>
      have hnext : ∀ s', rely s s' → next.Conducts rely guar post s' := h
      exact ⟨hrefl s, by simp [Routine.turn], by simpa [Routine.turn, TurnEnd.left] using hnext⟩

end Routine

/-! ## In a company -/

namespace Company

open Routine

variable {rely : σ → σ → Prop} {post : α → σ → Prop}

/-- A member in the background: it keeps to a relation, and its end is of no interest. -/
def InBackground (rely : σ → σ → Prop) (t : Routine σ (Option α)) : Prop :=
  ∀ s, t.Conducts (fun _ _ => True) rely (fun answer _ => answer = none) s

/-- The member that somebody waits for: it ends with an answer. -/
def Answers (rely : σ → σ → Prop) (post : α → σ → Prop) (t : Routine σ (Option α)) (s : σ) : Prop :=
  t.Ensures rely (fun answer s' => ∃ value, answer = some value ∧ post value s') s

lemma proceed_of_call?_eq_none (wanted : α → Option β) {c : Company σ α} (h : c.call? = none)
    (s : σ) : c.proceed wanted s = (none, s) := by
  rw [proceed]
  split
  · rfl
  · simp_all

lemma proceed_of_call? {wanted : α → Option β} {c others : Company σ α} {t : Routine σ α}
    (h : c.call? = some (t, others)) (s : σ) :
    c.proceed wanted s = match answer? wanted (t.turn s).1 with
      | some found => (some (found, others), (t.turn s).2)
      | none => (others.seat (t.turn s).1).proceed wanted (t.turn s).2 := by
  rw [proceed]
  split
  · simp_all
  · rename_i hcall
    rw [h] at hcall
    obtain ⟨rfl, rfl⟩ : t = _ ∧ others = _ := by simpa using hcall
    rfl

/-- A company that goes on to an answer of the member that somebody waits for. -/
def ComesToAnswer (rely : σ → σ → Prop) (post : α → σ → Prop) (c : Company σ (Option α)) (s : σ) :
    Prop :=
  ∃ value others s', c.proceed id s = (some (value, others), s') ∧ post value s' ∧
    ∀ t ∈ others.members, InBackground rely t

/-- The turn of the one that is waited for. -/
lemma comesToAnswer_of_call? {c others : Company σ (Option α)} {lead : Routine σ (Option α)} {s : σ}
    (hcall : c.call? = some (lead, others)) (hlead : Answers rely post lead s)
    (hothers : ∀ t ∈ others.members, InBackground rely t)
    (hnext : ∀ next, (lead.turn s).1.left = [next] →
      (∀ s', rely (lead.turn s).2 s' → Answers rely post next s') →
        ComesToAnswer rely post (others.seat (lead.turn s).1) (lead.turn s).2) :
    ComesToAnswer rely post c s := by
  obtain ⟨-, hdone, hleft⟩ := hlead.turn (fun _ => trivial) (fun _ _ => trivial)
  rw [ComesToAnswer, proceed_of_call? hcall]
  rcases (lead.turn s).1.done_or_left with ⟨answer, hend⟩ | ⟨next, hseat, hnone⟩
  · obtain ⟨value, rfl, hpost⟩ := hdone answer hend
    refine ⟨value, others, (lead.turn s).2, ?_, hpost, hothers⟩
    rw [hend]
    rfl
  · rw [hnone]
    exact hnext next hseat (hleft next (by simp [hseat]))

/-- **A company goes on until the member that somebody waits for has ended**, and what this member
    ensures holds then. -/
theorem proceed_answers (hrefl : ∀ s, rely s s)
    (htrans : ∀ {a b c}, rely a b → rely b c → rely a c) {c : Company σ (Option α)}
    {lead : Routine σ (Option α)} {rest : List (Routine σ (Option α))} {s : σ}
    (hmembers : c.members.Perm (lead :: rest))
    (hlead : ∀ s', rely s s' → Answers rely post lead s')
    (hrest : ∀ t ∈ rest, InBackground rely t) : ComesToAnswer rely post c s := by
  have hwf : WellFounded (WellFoundedRelation.rel (α := Company σ (Option α))) :=
    WellFoundedRelation.wf
  -- every turn leaves less to do, whoever's it is; `lead` is what the member still has to do
  induction c using hwf.induction generalizing lead rest s with
  | _ c ih =>
    obtain ⟨t, others, hcall⟩ := exists_call? (c := c) fun hnil => by simp [hnil] at hmembers
    rw [members_call? hcall] at hmembers
    have hless := isLess_seat_turn hcall s
    have hseat := members_seat others (t.turn s).1
    rcases Replacement.cons_perm_cons hmembers with ⟨rfl, hothers⟩ | ⟨k, hothers, hk⟩
    · refine comesToAnswer_of_call? hcall (hlead s (hrefl s))
        (fun u hu => hrest u (hothers.subset hu)) fun next hnext hleft => ?_
      rw [hnext, List.singleton_append] at hseat
      exact ih _ hless (hseat.trans (hothers.cons next)) hleft hrest
    · -- a turn in the background stays within what `lead` relies on
      obtain ⟨hguar, hdone, hleft⟩ :=
        (hrest t (hk.symm.subset List.mem_cons_self) s).turn hrefl htrans
      have hnone : answer? id (t.turn s).1 = none := by
        rcases (t.turn s).1.done_or_left with ⟨answer, hend⟩ | ⟨next, -, hnone⟩
        · rw [hend, hdone answer hend]
          rfl
        · exact hnone id
      rw [ComesToAnswer, proceed_of_call? hcall, hnone]
      have hseated := hseat.trans ((hothers.append_left _).trans List.perm_middle)
      refine ih _ hless hseated (fun s' hs' => hlead s' (htrans hguar hs')) fun u hu => ?_
      rcases List.mem_append.mp hu with hu | hu
      · exact fun s' => hleft u hu s' trivial
      · exact hrest u (hk.symm.subset (List.mem_cons_of_mem t hu))

/-- **A company of routines that all keep to a relation keeps to it**, however far it goes on. -/
theorem proceed_keeps (hrefl : ∀ s, rely s s)
    (htrans : ∀ {a b c}, rely a b → rely b c → rely a c) (wanted : α → Option β) {c : Company σ α}
    (hc : ∀ t ∈ c.members, t.Keeps rely) (s : σ) :
    rely s (c.proceed wanted s).2 ∧
      ∀ found ∈ (c.proceed wanted s).1, ∀ t ∈ found.2.members, t.Keeps rely := by
  have hwf : WellFounded (WellFoundedRelation.rel (α := Company σ α)) := WellFoundedRelation.wf
  induction c using hwf.induction generalizing s with
  | _ c ih =>
    cases hcall : c.call? with
    | none =>
        rw [proceed_of_call?_eq_none wanted hcall]
        exact ⟨hrefl s, by simp⟩
    | some called =>
        obtain ⟨t, others⟩ := called
        rw [members_call? hcall, List.forall_mem_cons] at hc
        obtain ⟨ht, hothers⟩ := hc
        obtain ⟨hguar, -, hleft⟩ := (ht s).turn hrefl htrans
        rw [proceed_of_call? hcall]
        split
        · exact ⟨hguar, by simpa using hothers⟩
        · have hseat : ∀ u ∈ (others.seat (t.turn s).1).members, u.Keeps rely := by
            intro u hu
            rcases List.mem_append.mp ((members_seat _ _).subset hu) with hu | hu
            · exact fun s' => hleft u hu s' trivial
            · exact hothers u hu
          obtain ⟨hrest, hfound⟩ := ih _ (isLess_seat_turn hcall s) hseat (t.turn s).2
          exact ⟨htrans hguar hrest, hfound⟩

lemma keeps_map {c : Company σ α} (hc : ∀ t ∈ c.members, t.Keeps rely) (f : α → β) :
    ∀ t ∈ (c.map f).members, t.Keeps rely := by
  rw [members_map, List.forall_mem_map]
  exact fun t ht => (hc t ht).map f

lemma inBackground_map {t : Routine σ β} (h : t.Keeps rely) :
    InBackground rely (t.map fun _ => (none : Option α)) :=
  fun s => (conducts_map t _ s).mpr ((h s).mono fun _ _ _ => rfl)

lemma InBackground.keeps_map {t : Routine σ (Option α)} (h : InBackground rely t)
    (f : Option α → β) : (t.map f).Keeps rely :=
  fun s => (conducts_map t f s).mpr ((h s).mono fun _ _ _ => trivial)

lemma mem_members_join {c : Company σ α} {ts : List (Routine σ α)} {t : Routine σ α} :
    t ∈ (c.join ts).members ↔ t ∈ c.members ∨ t ∈ ts := by
  simp only [join, members, List.mem_append]
  tauto

lemma keeps_join {c : Company σ α} {ts : List (Routine σ α)} (hc : ∀ t ∈ c.members, t.Keeps rely)
    (hts : ∀ t ∈ ts, t.Keeps rely) : ∀ t ∈ (c.join ts).members, t.Keeps rely := by
  intro t ht
  rcases mem_members_join.mp ht with ht | ht
  · exact hc t ht
  · exact hts t ht

end Company

end ActivityFlow
