import ActivityFlow.Routine
import Mathlib.Tactic.Common

/-!
# States that are divided among owners

Some things in a state belong to owners, each to one of them, and others are common to all.  An
operation *serves* an owner if it does the same wherever the owner sees the same, and changes
nothing but what belongs to the owner (`Division.Serves`).

* `Division.Same` — two runs, of one operation or of two that match for an owner, from states
  that the owner cannot tell apart.
* **`Division.Same.commute`** — what is done for two owners may be done in either order.

For routines it is the run that counts.  The laws of `Matches` follow their operations, and are
about two routines at a time, since the values that are passed on within them may differ in what
the owner never sees.
-/

namespace ActivityFlow

variable {ι σ τ α α' β β' : Type}

/-- How states are divided among owners. -/
structure Division (ι σ : Type) where
  {Share Common : Type}
  /-- What belongs to an owner. -/
  share : ι → σ → Share
  /-- What everybody may see, and nobody changes. -/
  common : σ → Common
  /-- What may belong to an owner. -/
  sound : ι → Share → Common → Prop

namespace Division

variable {D : Division ι σ} {i j : ι} {R : α → α' → Prop} {Q : β → β' → Prop} {s s' s'' : σ}

/-- What belongs to an owner is as it may be. -/
def Sound (D : Division ι σ) (i : ι) (s : σ) : Prop :=
  D.sound i (D.share i s) (D.common s)

/-- An owner cannot tell two states apart. -/
structure Agree (D : Division ι σ) (i : ι) (s s' : σ) : Prop where
  share : D.share i s = D.share i s'
  common : D.common s = D.common s'

/-- Between two states nothing changed but what belongs to an owner. -/
structure Spares (D : Division ι σ) (i : ι) (s s' : σ) : Prop where
  share : ∀ j, j ≠ i → D.share j s' = D.share j s
  common : D.common s' = D.common s

lemma Agree.refl (s : σ) : D.Agree i s s :=
  ⟨rfl, rfl⟩

lemma Agree.sound (h : D.Agree i s s') (hs : D.Sound i s) : D.Sound i s' := by
  rw [Sound, ← h.share, ← h.common]
  exact hs

lemma Spares.refl (s : σ) : D.Spares i s s :=
  ⟨fun _ _ => rfl, rfl⟩

lemma Spares.trans (h : D.Spares i s s') (h' : D.Spares i s' s'') : D.Spares i s s'' :=
  ⟨fun j hj => (h'.share j hj).trans (h.share j hj), h'.common.trans h.common⟩

/-- Other owners do not see what is done for one. -/
lemma Spares.agree (h : D.Spares i s s') (hj : j ≠ i) : D.Agree j s s' :=
  ⟨(h.share j hj).symm, h.common.symm⟩

/-- **Two runs that are the same for an owner**, from two states to their ends.  The answers are
    related, the owner has the same, and nothing else changed in either. -/
structure Same (D : Division ι σ) (i : ι) (R : α → α' → Prop) (s s' : σ) (x : α × σ)
    (y : α' × σ) : Prop where
  answer : R x.1 y.1
  share : D.share i x.2 = D.share i y.2
  left : D.Spares i s x.2
  right : D.Spares i s' y.2
  sound : D.Sound i x.2

/-- Two operations do the same for an owner. -/
def Matches (D : Division ι σ) (i : ι) (R : α → α' → Prop) (f : σ → α × σ)
    (g : σ → α' × σ) : Prop :=
  ∀ s s', D.Sound i s → D.Agree i s s' → D.Same i R s s' (f s) (g s')

/-- **An operation serves an owner**: it sees nothing but what belongs to the owner and what is
    common, and changes nothing but what belongs to the owner. -/
def Serves (D : Division ι σ) (i : ι) (f : σ → α × σ) : Prop :=
  D.Matches i Eq f f

lemma Same.agree {x : α × σ} {y : α' × σ} (h : D.Same i R s s' x y) (hs : D.Agree i s s') :
    D.Agree i x.2 y.2 :=
  ⟨h.share, h.left.common.trans (hs.common.trans h.right.common.symm)⟩

/-- What was done before for the owner alone belongs to the runs as well. -/
lemma Same.of_spares {t t' : σ} {x : α × σ} {y : α' × σ} (left : D.Spares i s t)
    (right : D.Spares i s' t') (h : D.Same i R t t' x y) : D.Same i R s s' x y :=
  ⟨h.answer, h.share, left.trans h.left, right.trans h.right, h.sound⟩

/-- Nothing is done, and the answers are related. -/
lemma Same.of_answer {a : α} {a' : α'} (hs : D.Sound i s) (h : D.Agree i s s') (hR : R a a') :
    D.Same i R s s' (a, s) (a', s') :=
  ⟨hR, h.share, .refl s, .refl s', hs⟩

lemma Serves.spares {f : σ → α × σ} (h : D.Serves i f) (hs : D.Sound i s) :
    D.Spares i s (f s).2 :=
  (h s s hs (.refl s)).left

/-- What matches in one order matches in the other. -/
lemma Matches.symm {f g : σ → α × σ} (h : D.Matches i Eq f g) : D.Matches i Eq g f := by
  intro s s' hs hagree
  have hagree' : D.Agree i s' s := ⟨hagree.share.symm, hagree.common.symm⟩
  have hsame := h s' s (hagree.sound hs) hagree'
  exact ⟨hsame.answer.symm, hsame.share.symm, hsame.right, hsame.left,
    (hsame.agree hagree').sound hsame.sound⟩

lemma Matches.trans {f g k : σ → α × σ} (h : D.Matches i Eq f g) (h' : D.Matches i Eq g k) :
    D.Matches i Eq f k := by
  intro s s' hs hagree
  have hfirst := h s s hs (.refl s)
  have hsecond := h' s s' hs hagree
  exact ⟨hfirst.answer.trans hsecond.answer, hfirst.share.trans hsecond.share, hfirst.left,
    hsecond.right, hfirst.sound⟩

/-- **What is done for two owners may be done in either order.**  `x` is done for one and `z` for
    the other behind it; `y` is done for the other and `w` for the one behind it. -/
theorem Same.commute (hij : i ≠ j) {x w : α × σ} {y z : β × σ} (hone : D.Same i Eq s y.2 x w)
    (hother : D.Same j Eq s x.2 y z) :
    x.1 = w.1 ∧ y.1 = z.1 ∧ ∀ k, D.share k z.2 = D.share k w.2 := by
  refine ⟨hone.answer, hother.answer, fun k => ?_⟩
  by_cases hi : k = i
  · subst hi
    rw [hother.right.share k hij, hone.share]
  · by_cases hj : k = j
    · subst hj
      rw [← hother.share, hone.right.share k hi]
    · -- a third owner has what it had
      rw [hother.right.share k hj, hone.left.share k hi, hone.right.share k hi,
        hother.left.share k hj]

/-! ## Routines -/

open Routine

lemma matches_pure {a : α} {a' : α'} (h : R a a') :
    D.Matches i R (pure a : Routine σ α).run (pure a' : Routine σ α').run :=
  fun _ _ hs hagree => .of_answer hs hagree h

/-- Two routines go on alike from ends that are the same. -/
lemma Same.then {t : Routine σ α} {u : Routine σ α'} {f : α → Routine σ β} {f' : α' → Routine σ β'}
    (h : D.Same i R s s' (t.run s) (u.run s')) (hagree : D.Agree i s s')
    (hf : ∀ a a', R a a' → D.Matches i Q (f a).run (f' a').run) :
    D.Same i Q s s' ((t >>= f).run s) ((u >>= f').run s') := by
  have hrest := hf _ _ h.answer _ _ h.sound (h.agree hagree)
  rw [run_bind, run_bind]
  exact hrest.of_spares h.left h.right

lemma Matches.bind {t : Routine σ α} {u : Routine σ α'} {f : α → Routine σ β}
    {f' : α' → Routine σ β'} (h : D.Matches i R t.run u.run)
    (hf : ∀ a a', R a a' → D.Matches i Q (f a).run (f' a').run) :
    D.Matches i Q (t >>= f).run (u >>= f').run :=
  fun s s' hs hagree => (h s s' hs hagree).then hagree hf

lemma serves_pure (a : α) : D.Serves i (pure a : Routine σ α).run :=
  matches_pure rfl

lemma Serves.bind {t : Routine σ α} {f : α → Routine σ β} (h : D.Serves i t.run)
    (hf : ∀ a, D.Serves i (f a).run) : D.Serves i (t >>= f).run :=
  Matches.bind h fun a _ ha => ha ▸ hf a

lemma Serves.map {t : Routine σ α} (h : D.Serves i t.run) (f : α → β) :
    D.Serves i (t.map f).run :=
  h.bind fun a => serves_pure (f a)

lemma Matches.step {f : σ → α × σ} {f' : σ → α' × σ} {next : α → Routine σ β}
    {next' : α' → Routine σ β'} (h : D.Matches i R f f')
    (hnext : ∀ a a', R a a' → D.Matches i Q (next a).run (next' a').run) :
    D.Matches i Q (step f next).run (step f' next').run :=
  Matches.bind (t := update f) (u := update f') h hnext

/-- What nobody sees may be done first. -/
lemma Matches.behind {f : σ → α × σ} {next : α → Routine σ β} {t : Routine σ β'}
    (hf : ∀ s, (∀ j, D.share j (f s).2 = D.share j s) ∧ D.common (f s).2 = D.common s)
    (hnext : ∀ a, D.Matches i Q (next a).run t.run) :
    D.Matches i Q (Routine.step f next).run t.run := by
  intro s s' hs hagree
  obtain ⟨hshare, hcommon⟩ := hf s
  have hunseen : D.Agree i s (f s).2 := ⟨(hshare i).symm, hcommon.symm⟩
  have hrest := hnext (f s).1 (f s).2 s' (hunseen.sound hs)
    ⟨(hshare i).trans hagree.share, hcommon.trans hagree.common⟩
  exact hrest.of_spares ⟨fun j _ => hshare j, hcommon⟩ (.refl s')

/-- What is read from the state may decide how to go on, if an owner would read the same wherever it
    sees the same. -/
lemma serves_get_bind {f : σ → Routine σ α}
    (hread : ∀ s s', D.Sound i s → D.Agree i s s' → f s' = f s)
    (hf : ∀ s, D.Sound i s → D.Serves i (f s).run) : D.Serves i (get >>= f).run := by
  intro s s' hs hagree
  rw [run_bind, run_bind, run_get, run_get, hread s s' hs hagree]
  exact hf s hs s s' hs hagree

/-- Work on a part of the state serves an owner of the whole, if it serves an owner of the part. -/
lemma Serves.zoom {κ : Type} {E : Division κ τ} {k : κ} {view : τ → σ} {put : σ → τ → τ}
    (view_put : ∀ s t, view (put s t) = s) (put_put : ∀ s s' t, put s (put s' t) = put s t)
    (put_view : ∀ t, put (view t) t = t) (hsound : ∀ t, E.Sound k t → D.Sound i (view t))
    (hagree : ∀ t t', E.Agree k t t' → D.Agree i (view t) (view t'))
    (hput : ∀ t t' s s', E.Sound k t → D.Sound i s → E.Agree k t t' →
      D.Spares i (view t) s → D.Spares i (view t') s' → D.share i s = D.share i s' →
        E.Same k (fun _ _ => True) t t' ((), put s t) ((), put s' t'))
    {routine : Routine σ α} (h : D.Serves i routine.run) :
    E.Serves k (Routine.zoom view put routine).run := by
  intro t t' ht htt'
  have hpart := h (view t) (view t') (hsound t ht) (hagree t t' htt')
  have hwhole := hput t t' _ _ ht hpart.sound htt' hpart.left hpart.right hpart.share
  rw [run_zoom view_put put_put put_view, run_zoom view_put put_put put_view]
  exact ⟨hpart.answer, hwhole.share, hwhole.left, hwhole.right, hwhole.sound⟩

end Division

end ActivityFlow
