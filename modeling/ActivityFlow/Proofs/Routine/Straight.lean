import ActivityFlow.Proofs.Routine.Interference

/-!
# Routines that need one turn only

A routine that never pauses comes to its end in its first turn, and that is the end of its run
(`Routine.Straight`).  Nobody else has a turn meanwhile, so a company does not matter to it.

Of a routine that may pause it is the run without company that is the easiest to speak of, and what
it ensures among others holds at the end of its run as well (`Routine.Ensures.run`).
-/

namespace ActivityFlow.Routine

variable {σ τ α β : Type} {rely guar : σ → σ → Prop}

/-! ## Runs -/

@[simp] lemma run_mapped (f : α → β) (t : Routine σ α) (s : σ) :
    (f <$> t).run s = (f (t.run s).1, (t.run s).2) :=
  run_map f t s

/-- What is ensured among others, who may also do nothing, holds at the end of a run. -/
lemma Ensures.run (hrefl : ∀ s, rely s s) {post : α → σ → Prop} {t : Routine σ α} {s : σ}
    (h : t.Ensures rely post s) : post (t.run s).1 (t.run s).2 := by
  induction t generalizing s with
  | done value => exact h
  | look next ih => exact ih s h
  | become state next ih => exact ih h.2
  | pause next ih => exact ih (h s (hrefl s))
  | giveWay next ih => exact ih (h s (hrefl s))
  | wait time rank next ih => exact ih (h s (hrefl s))

/-- Where others do nothing, what a routine ensures is what holds at the end of its run. -/
lemma ensures_alone {post : α → σ → Prop} {t : Routine σ α} {s : σ} :
    t.Ensures Eq post s ↔ post (t.run s).1 (t.run s).2 := by
  refine ⟨fun h => h.run fun _ => rfl, fun h => ?_⟩
  induction t generalizing s with
  | done value => exact h
  | look next ih => exact ih s h
  | become state next ih => exact ⟨trivial, ih h⟩
  | pause next ih =>
      rintro _ rfl
      exact ih h
  | giveWay next ih =>
      rintro _ rfl
      exact ih h
  | wait time rank next ih =>
      rintro _ rfl
      exact ih h

/-- A run keeps to what its routine keeps to. -/
lemma Keeps.run (hrefl : ∀ s, guar s s) (htrans : ∀ {a b c}, guar a b → guar b c → guar a c)
    {t : Routine σ α} (h : t.Keeps guar) (s : σ) : guar s (t.run s).2 := by
  have hends : t.Ensures guar (fun _ s' => guar s s') s := by
    apply h.ensures
    · exact hrefl s
    · exact htrans
  have hend := hends.run hrefl
  exact hend

/-! ## One turn -/

/-- A routine that comes to its end in its first turn, wherever it begins. -/
def Straight (t : Routine σ α) : Prop :=
  ∀ s, t.turn s = (.done (t.run s).1, (t.run s).2)

/-- What holds behind its only turn, a routine ensures among others. -/
lemma Straight.ensures {post : α → σ → Prop} {t : Routine σ α} {s : σ} (h : t.Straight)
    (hpost : post (t.run s).1 (t.run s).2) : t.Ensures rely post s := by
  have hturn := h s
  generalize (t.run s).1 = value at hturn hpost
  generalize (t.run s).2 = s' at hturn hpost
  clear h
  induction t generalizing s with
  | done found =>
      obtain ⟨rfl, rfl⟩ : found = value ∧ s = s' := by simpa [turn] using hturn
      exact hpost
  | look next ih => exact ih s hturn
  | become state next ih => exact ⟨trivial, ih hturn⟩
  | pause next => simp [turn] at hturn
  | giveWay next => simp [turn] at hturn
  | wait time rank next => simp [turn] at hturn

lemma straight_pure (value : α) : (pure value : Routine σ α).Straight :=
  fun _ => rfl

lemma straight_get : (get : Routine σ σ).Straight :=
  fun _ => rfl

lemma straight_update (f : σ → α × σ) : (update f).Straight :=
  fun _ => rfl

lemma Straight.bind {t : Routine σ α} {f : α → Routine σ β} (h : t.Straight)
    (hf : ∀ value, (f value).Straight) : (t >>= f).Straight := by
  intro s
  rw [turn_bind (h s), run_bind]
  exact hf _ _

/-- Work on a part of the state takes as many turns as on its own. -/
lemma Straight.zoom {view : τ → σ} {put : σ → τ → τ} (view_put : ∀ s t, view (put s t) = s)
    (put_put : ∀ s s' t, put s (put s' t) = put s t) (put_view : ∀ t, put (view t) t = t)
    {routine : Routine σ α} (h : routine.Straight) : (Routine.zoom view put routine).Straight := by
  intro t
  rw [run_zoom view_put put_put put_view]
  have hturn := h (view t)
  generalize (routine.run (view t)).1 = value at hturn ⊢
  generalize (routine.run (view t)).2 = s at hturn ⊢
  clear h
  -- a routine that ends in a turn is not straight behind its first step at every state
  induction routine generalizing t with
  | done found =>
      obtain ⟨rfl, rfl⟩ : found = value ∧ view t = s := by simpa [turn] using hturn
      rw [put_view]
      rfl
  | look next ih => exact ih (view t) t hturn
  | become state next ih =>
      have hrest := ih (put state t) (by rw [view_put]; exact hturn)
      rwa [put_put] at hrest
  | pause next => simp [turn] at hturn
  | giveWay next => simp [turn] at hturn
  | wait time rank next => simp [turn] at hturn

end ActivityFlow.Routine
