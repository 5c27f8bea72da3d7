/-!
# Routines that pause

Workflows of different instances may be worked on at the same time.  A routine is a computation
over a shared state that can pause, which lets other routines go on, and that can wait for the
clock, after which it goes on only when no other routine can.

* `Routine σ α` — a routine over states `σ` with answers in `α`.
* `Routine.run` — a routine on its own.  Nothing happens while it pauses or waits, so both are
  passed over, and the laws of `run` are those of a plain state computation.
* `Routine.turn` — one turn of a routine among others: what it does up to its next pause.

**A turn makes progress.**  Routines are trees, and what is left after a turn is a part of the tree
(`isPart_of_turn`).  That is why routines side by side come to an end.
-/

namespace ActivityFlow

/-- A computation over a shared state that can pause. -/
inductive Routine (σ α : Type) where
  | done (value : α)
  | look (next : σ → Routine σ α)
  | become (state : σ) (next : Routine σ α)
  /-- Let the other routines have their turn, and go on in the next round. -/
  | pause (next : Routine σ α)
  /-- Go on in this round, but behind all others. -/
  | giveWay (next : Routine σ α)
  /-- Go on after some time, which passes only while nobody else can do anything.  Of several whose
  time comes at once, the lower rank goes first. -/
  | wait (time rank : Nat) (next : Routine σ α)

namespace Routine

variable {σ τ α β : Type}

/-! ## A routine on its own -/

/-- The answer and the final state of a routine without company. -/
def run : Routine σ α → σ → α × σ
  | done value, s => (value, s)
  | look next, s => run (next s) s
  | become state next, _ => run next state
  | pause next, s => run next s
  | giveWay next, s => run next s
  | wait _ _ next, s => run next s

/-- One routine, and then another that depends on its answer. -/
def bind : Routine σ α → (α → Routine σ β) → Routine σ β
  | done value, f => f value
  | look next, f => look fun s => bind (next s) f
  | become state next, f => become state (bind next f)
  | pause next, f => pause (bind next f)
  | giveWay next, f => giveWay (bind next f)
  | wait time rank next, f => wait time rank (bind next f)

instance : Monad (Routine σ) where
  pure := done
  bind := bind

theorem bind_eq (t : Routine σ α) (f : α → Routine σ β) : t >>= f = bind t f := rfl

theorem bind_done (t : Routine σ α) : bind t done = t := by
  induction t <;> simp_all [bind]

theorem bind_assoc {γ : Type} (t : Routine σ α) (f : α → Routine σ β) (g : β → Routine σ γ) :
    bind (bind t f) g = bind t fun a => bind (f a) g := by
  induction t <;> simp_all [bind]

instance : LawfulMonad (Routine σ) := LawfulMonad.mk' _
  bind_done (fun _ _ => rfl) bind_assoc

/-- The state. -/
def get : Routine σ σ :=
  look done

/-- Replace the state. -/
def set (state : σ) : Routine σ Unit :=
  become state (done ())

/-- Change the state. -/
def modify (f : σ → σ) : Routine σ Unit :=
  look fun s => become (f s) (done ())

/-- Change the state and go on with what the change answers. -/
def step (f : σ → α × σ) (next : α → Routine σ β) : Routine σ β :=
  look fun s => become (f s).2 (next (f s).1)

/-- Change the state and answer with what the change says. -/
def update (f : σ → α × σ) : Routine σ α :=
  step f done

/-- The routine with its answer changed. -/
def map (f : α → β) (t : Routine σ α) : Routine σ β :=
  t.bind fun value => done (f value)

/-- Pause several times. -/
def pauses : Nat → Routine σ Unit
  | 0 => done ()
  | n + 1 => pause (pauses n)

@[simp] theorem run_pure (value : α) (s : σ) : (pure value : Routine σ α).run s = (value, s) := rfl

@[simp] theorem run_done (value : α) (s : σ) : (done value : Routine σ α).run s = (value, s) := rfl

@[simp] theorem run_pause (t : Routine σ α) (s : σ) : (pause t).run s = t.run s := rfl

@[simp] theorem run_giveWay (t : Routine σ α) (s : σ) : (giveWay t).run s = t.run s := rfl

@[simp] theorem run_wait (time rank : Nat) (t : Routine σ α) (s : σ) :
    (wait time rank t).run s = t.run s := rfl

@[simp] theorem run_get (s : σ) : (get : Routine σ σ).run s = (s, s) := rfl

@[simp] theorem run_set (state s : σ) : (set state : Routine σ Unit).run s = ((), state) := rfl

@[simp] theorem run_modify (f : σ → σ) (s : σ) : (modify f).run s = ((), f s) := rfl

@[simp] theorem run_step (f : σ → α × σ) (next : α → Routine σ β) (s : σ) :
    (step f next).run s = (next (f s).1).run (f s).2 := rfl

@[simp] theorem run_update (f : σ → α × σ) (s : σ) : (update f).run s = f s := rfl

@[simp] theorem run_pauses (n : Nat) (s : σ) : (pauses n : Routine σ Unit).run s = ((), s) := by
  induction n with
  | zero => rfl
  | succ n ih => simpa [pauses] using ih

/-- **A run of two routines in a row is a run of the second from where the first ended.** -/
@[simp] theorem run_bind (t : Routine σ α) (f : α → Routine σ β) (s : σ) :
    (t >>= f).run s = (f (t.run s).1).run (t.run s).2 := by
  rw [bind_eq]
  induction t generalizing s with
  | done => rfl
  | look next ih => exact ih s s
  | become state next ih => exact ih state
  | pause next ih => exact ih s
  | giveWay next ih => exact ih s
  | wait time rank next ih => exact ih s

@[simp] theorem run_map (f : α → β) (t : Routine σ α) (s : σ) :
    (t.map f).run s = (f (t.run s).1, (t.run s).2) :=
  run_bind t (fun value => done (f value)) s

/-! ## A part of a larger state -/

/-- A routine on a part of the state, given how to see the part and how to put it back. -/
def zoom (view : τ → σ) (put : σ → τ → τ) : Routine σ α → Routine τ α
  | done value => done value
  | look next => look fun t => zoom view put (next (view t))
  | become state next => look fun t => become (put state t) (zoom view put next)
  | pause next => pause (zoom view put next)
  | giveWay next => giveWay (zoom view put next)
  | wait time rank next => wait time rank (zoom view put next)

/-- Work on a part leaves the rest alone: it is a run on the part, put back into the whole. -/
theorem run_zoom {view : τ → σ} {put : σ → τ → τ} (view_put : ∀ s t, view (put s t) = s)
    (put_put : ∀ s s' t, put s (put s' t) = put s t) (put_view : ∀ t, put (view t) t = t)
    (routine : Routine σ α) (t : τ) :
    (zoom view put routine).run t =
      ((routine.run (view t)).1, put (routine.run (view t)).2 t) := by
  induction routine generalizing t with
  | done value => simp [zoom, put_view]
  | look next ih => exact ih (view t) t
  | become state next ih =>
    have h := ih (put state t)
    rw [view_put, put_put] at h
    exact h
  | pause next ih => exact ih t
  | giveWay next ih => exact ih t
  | wait time rank next ih => exact ih t

/-! ## Turns -/

/-- How a turn ends: with the answer, or with what is left of the routine. -/
inductive TurnEnd (σ α : Type) where
  | done (value : α)
  | pause (rest : Routine σ α)
  | giveWay (rest : Routine σ α)
  | wait (time rank : Nat) (rest : Routine σ α)

/-- What is left of a routine behind the end of a turn. -/
def TurnEnd.left : TurnEnd σ α → List (Routine σ α)
  | .done _ => []
  | .pause rest | .giveWay rest | .wait _ _ rest => [rest]

/-- The answer behind the end of a turn, or what is left of the routine. -/
def TurnEnd.result : TurnEnd σ α → α ⊕ Routine σ α
  | .done value => .inl value
  | .pause rest | .giveWay rest | .wait _ _ rest => .inr rest

/-- The same end of a turn, with a mere call in the place of what is left. -/
def TurnEnd.keep (call : β) : TurnEnd σ α → TurnEnd σ β
  | .done _ => .done call
  | .pause _ => .pause (.done call)
  | .giveWay _ => .giveWay (.done call)
  | .wait time rank _ => .wait time rank (.done call)

/-- One turn of a routine. -/
def turn : Routine σ α → σ → TurnEnd σ α × σ
  | done value, s => (.done value, s)
  | look next, s => turn (next s) s
  | become state next, _ => turn next state
  | pause next, s => (.pause next, s)
  | giveWay next, s => (.giveWay next, s)
  | wait time rank next, s => (.wait time rank next, s)

/-- The end of a run, from the end of its first turn. -/
def TurnEnd.finish (s : σ) : TurnEnd σ α → α × σ
  | .done value => (value, s)
  | .pause rest | .giveWay rest | .wait _ _ rest => rest.run s

/-- A run is a turn and a run of what is left. -/
theorem run_eq_turn (t : Routine σ α) (s : σ) :
    t.run s = (t.turn s).1.finish (t.turn s).2 := by
  induction t generalizing s with
  | look next ih => exact ih s s
  | become state next ih => exact ih state
  | done | pause | giveWay | wait => rfl

/-- One routine is what another consists of behind its first step. -/
inductive IsNext : Routine σ α → Routine σ α → Prop
  | look (next : σ → Routine σ α) (s : σ) : IsNext (next s) (look next)
  | become (state : σ) (next : Routine σ α) : IsNext next (become state next)
  | pause (next : Routine σ α) : IsNext next (pause next)
  | giveWay (next : Routine σ α) : IsNext next (giveWay next)
  | wait (time rank : Nat) (next : Routine σ α) : IsNext next (wait time rank next)

/-- One routine is a part of another. -/
abbrev IsPart : Routine σ α → Routine σ α → Prop :=
  Relation.TransGen IsNext

theorem wellFounded_isPart : WellFounded (IsPart (σ := σ) (α := α)) := by
  refine WellFounded.transGen ⟨fun t => ?_⟩
  induction t with
  | done => exact ⟨_, fun _ h => nomatch h⟩
  | look next ih => exact ⟨_, fun _ h => by cases h; exact ih _⟩
  | become state next ih => exact ⟨_, fun _ h => by cases h; exact ih⟩
  | pause next ih => exact ⟨_, fun _ h => by cases h; exact ih⟩
  | giveWay next ih => exact ⟨_, fun _ h => by cases h; exact ih⟩
  | wait time rank next ih => exact ⟨_, fun _ h => by cases h; exact ih⟩

/-- **A turn makes progress**: what is left behind it is a part of the routine. -/
theorem isPart_of_turn {t rest : Routine σ α} {s : σ} (h : rest ∈ (t.turn s).1.left) :
    IsPart rest t := by
  induction t generalizing s with
  | done => simp [turn, TurnEnd.left] at h
  | look next ih => exact (ih s h).tail (.look next s)
  | become state next ih => exact (ih h).tail (.become state next)
  | pause next =>
    simp only [turn, TurnEnd.left, List.mem_singleton] at h
    exact .single (h ▸ .pause _)
  | giveWay next =>
    simp only [turn, TurnEnd.left, List.mem_singleton] at h
    exact .single (h ▸ .giveWay _)
  | wait time rank next =>
    simp only [turn, TurnEnd.left, List.mem_singleton] at h
    exact .single (h ▸ .wait time rank _)

theorem left_of_result {e : TurnEnd σ α} {rest : Routine σ α} (h : e.result = .inr rest) :
    e.left = [rest] := by
  cases e <;> simp_all [TurnEnd.result, TurnEnd.left]

theorem eq_done_of_result {e : TurnEnd σ α} {value : α} (h : e.result = .inl value) :
    e = .done value := by
  cases e <;> simp_all [TurnEnd.result]

theorem isPart_of_result {t rest : Routine σ α} {s : σ} (h : (t.turn s).1.result = .inr rest) :
    IsPart rest t :=
  isPart_of_turn (s := s) (by simp [left_of_result h])

instance : WellFoundedRelation (Routine σ α) :=
  ⟨IsPart, wellFounded_isPart⟩

end Routine

end ActivityFlow
