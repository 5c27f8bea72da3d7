import ActivityFlow.Routine

/-!
# Routines side by side

A company is a number of routines that share a state.  They take turns in rounds: in a round each
has one turn, in the order in which it asked for it.

* A routine that **pauses** gets its next turn in the next round, behind those that asked earlier.
* A routine that **gives way** goes on in the same round, behind all others.
* A routine that **waits** goes on when its time has come.  There is a clock, but it stands still as
  long as anybody can do anything.  Those whose time comes at once go on in the order of their
  ranks.

`Company.proceed` lets a company go on until one of its routines ends with an answer that is
wanted; the others keep their places, so that they can go on from there later.

**Why this ends.**  With every turn a routine is replaced by a part of it, or by nothing, and in a
well-founded order that can happen only finitely often, whatever the order of the turns
(`wellFounded_isLess`).

**Alone is like without company.**  A routine without company does what it does on its own
(`proceed_alone`).
-/

namespace ActivityFlow

/-! ## Replacing members of a list -/

namespace Replacement

variable {α : Type} {r : α → α → Prop}

/-- One list comes from another by replacing one member by any number of smaller ones; the order of
the members does not matter. -/
inductive IsLess (r : α → α → Prop) (after before : List α) : Prop
  | intro (member : α) (smaller rest : List α) (isSmaller : ∀ x ∈ smaller, r x member)
      (before_perm : before.Perm (member :: rest)) (after_perm : after.Perm (smaller ++ rest))

theorem acc_perm {l l' : List α} (h : Acc (IsLess r) l) (p : l'.Perm l) : Acc (IsLess r) l' :=
  ⟨_, fun _ ⟨member, smaller, rest, hs, hb, ha⟩ =>
    h.inv ⟨member, smaller, rest, hs, p.symm.trans hb, ha⟩⟩

/-- Two ways to take a member out of a list take out the same one, or two that are both there. -/
theorem cons_perm_cons {a b : α} {l m : List α} (h : (a :: l).Perm (b :: m)) :
    (a = b ∧ l.Perm m) ∨ ∃ k, l.Perm (b :: k) ∧ m.Perm (a :: k) := by
  rcases List.mem_cons.1 (h.symm.subset List.mem_cons_self) with rfl | hb
  · exact .inl ⟨rfl, h.cons_inv⟩
  · obtain ⟨s, t, rfl⟩ := List.append_of_mem hb
    refine .inr ⟨s ++ t, List.perm_middle, List.Perm.cons_inv (a := b) ?_⟩
    exact h.symm.trans ((List.perm_middle.cons a).trans (.swap b a _))

theorem acc_append {smaller l : List α}
    (h : ∀ x ∈ smaller, ∀ l, Acc (IsLess r) l → Acc (IsLess r) (x :: l))
    (hl : Acc (IsLess r) l) : Acc (IsLess r) (smaller ++ l) := by
  induction smaller with
  | nil => exact hl
  | cons x xs ih =>
    exact h x List.mem_cons_self _ (ih fun y hy => h y (List.mem_cons_of_mem x hy))

theorem acc_cons {a : α} (ha : Acc r a) (l : List α) (hl : Acc (IsLess r) l) :
    Acc (IsLess r) (a :: l) := by
  induction ha generalizing l with
  | intro a _ iha =>
    induction hl with
    | intro l hl ihl =>
      refine ⟨_, fun after ⟨member, smaller, rest, hs, hb, hp⟩ => ?_⟩
      rcases cons_perm_cons hb with ⟨rfl, hrest⟩ | ⟨k, hk, hrest⟩
      · exact acc_perm (acc_append (fun x hx => iha x (hs x hx)) ⟨l, hl⟩)
          (hp.trans (hrest.symm.append_left smaller))
      · refine acc_perm (ihl (smaller ++ k) ⟨member, smaller, k, hs, hk, .refl _⟩) ?_
        exact hp.trans ((hrest.append_left smaller).trans List.perm_middle)

/-- **Members cannot be replaced by smaller ones for ever.** -/
theorem wellFounded_isLess (h : WellFounded r) : WellFounded (IsLess r) := by
  refine ⟨fun l => ?_⟩
  induction l with
  | nil => exact ⟨_, fun _ ⟨_, _, _, _, hb, _⟩ => absurd hb.length_eq (by simp)⟩
  | cons a l ih => exact acc_cons (h.apply a) l ih

end Replacement

/-! ## Companies -/

/-- A routine that waits. -/
structure Waiting (σ α : Type) where
  /-- The time at which it goes on. -/
  time : Nat
  /-- Its rank among those that go on at the same time. -/
  rank : Nat
  rest : Routine σ α

/-- Whether one of two goes on before the other: at an earlier time, or with a lower rank. -/
def Waiting.before {σ α : Type} (a b : Waiting σ α) : Bool :=
  a.time < b.time || (a.time = b.time && a.rank < b.rank)

/-- Routines side by side, in the middle of a round. -/
structure Company (σ α : Type) where
  clock : Nat
  /-- Those that still have their turn in this round, in order. -/
  now : List (Routine σ α)
  /-- Those that gave way in this round. -/
  behind : List (Routine σ α)
  /-- Those that have their turn in the next round. -/
  next : List (Routine σ α)
  /-- Those that wait, the first to go on first. -/
  waiting : List (Waiting σ α)

namespace Company

variable {σ α β : Type}

/-- Nobody. -/
def empty : Company σ α :=
  ⟨0, [], [], [], []⟩

/-- All routines of a company. -/
def members (c : Company σ α) : List (Routine σ α) :=
  c.now ++ c.behind ++ c.next ++ c.waiting.map (·.rest)

/-- How many routines a company has. -/
def size (c : Company σ α) : Nat :=
  c.members.length

/-- The company in which everybody goes on behind its end with what its answer says. -/
def andThen (f : α → Routine σ β) (c : Company σ α) : Company σ β where
  clock := c.clock
  now := c.now.map (Routine.bind · f)
  behind := c.behind.map (Routine.bind · f)
  next := c.next.map (Routine.bind · f)
  waiting := c.waiting.map fun w => { w with rest := w.rest.bind f }

/-- The company with all answers changed. -/
def map (f : α → β) (c : Company σ α) : Company σ β :=
  c.andThen fun value => .done (f value)

/-- The company with routines that have their first turn in the next round. -/
def join (c : Company σ α) (ts : List (Routine σ α)) : Company σ α :=
  { c with next := c.next ++ ts }

theorem members_andThen (f : α → Routine σ β) (c : Company σ α) :
    (c.andThen f).members = c.members.map (Routine.bind · f) := by
  simp [andThen, members, Function.comp_def]

theorem members_map (f : α → β) (c : Company σ α) :
    (c.map f).members = c.members.map (Routine.map f) :=
  members_andThen _ c

/-- Enter a routine into a list of those that wait, behind those that do not come later. -/
def insertWaiting (w : Waiting σ α) : List (Waiting σ α) → List (Waiting σ α)
  | [] => [w]
  | first :: later =>
    if w.before first then w :: first :: later else first :: insertWaiting w later

/-- The routine that has the next turn, and the others.  When nobody is left in the round, a new one
begins, and when there is nobody for it, the clock goes on to the earliest time. -/
def call? (c : Company σ α) : Option (Routine σ α × Company σ α) :=
  match c.now, c.behind, c.next, c.waiting with
  | t :: rest, _, _, _ => some (t, { c with now := rest })
  | [], t :: rest, _, _ => some (t, { c with now := rest, behind := [] })
  | [], [], t :: rest, _ => some (t, { c with now := rest, next := [] })
  | [], [], [], first :: later =>
    some (first.rest, { c with
      clock := first.time
      now := (later.takeWhile (·.time = first.time)).map (·.rest)
      waiting := later.dropWhile (·.time = first.time) })
  | [], [], [], [] => none

/-- The company with a routine back at the place where its turn left it. -/
def seat (c : Company σ α) : Routine.TurnEnd σ α → Company σ α
  | .done _ => c
  | .pause rest => { c with next := c.next ++ [rest] }
  | .giveWay rest => { c with behind := c.behind ++ [rest] }
  | .wait time rank rest =>
    { c with waiting := insertWaiting ⟨c.clock + time, rank, rest⟩ c.waiting }

theorem members_call? {c others : Company σ α} {t : Routine σ α}
    (h : c.call? = some (t, others)) : c.members = t :: others.members := by
  obtain ⟨clock, now, behind, next, waiting⟩ := c
  simp only [call?] at h
  split at h <;> simp only [Option.some.injEq, Prod.mk.injEq, reduceCtorEq] at h
  all_goals
    obtain ⟨rfl, rfl⟩ := h
    simp [members, ← List.map_append, List.takeWhile_append_dropWhile]

theorem perm_insertWaiting (w : Waiting σ α) (l : List (Waiting σ α)) :
    ((insertWaiting w l).map (·.rest)).Perm (w.rest :: l.map (·.rest)) := by
  induction l with
  | nil => exact .refl _
  | cons first later ih =>
    unfold insertWaiting
    split
    · exact .refl _
    · exact (ih.cons first.rest).trans (.swap _ _ _)

theorem members_seat (c : Company σ α) (e : Routine.TurnEnd σ α) :
    (c.seat e).members.Perm (e.left ++ c.members) := by
  obtain ⟨clock, now, behind, next, waiting⟩ := c
  cases e with
  | done => exact .refl _
  | pause rest =>
    simp only [seat, members, Routine.TurnEnd.left, List.append_assoc, List.singleton_append]
    simpa using @List.perm_middle _ rest (now ++ (behind ++ next)) _
  | giveWay rest =>
    simp only [seat, members, Routine.TurnEnd.left, List.append_assoc, List.singleton_append]
    simpa using @List.perm_middle _ rest (now ++ behind) _
  | wait time rank rest =>
    simp only [seat, members, Routine.TurnEnd.left, List.singleton_append]
    exact ((perm_insertWaiting _ waiting).append_left _).trans List.perm_middle

/-- With every turn a company comes closer to its end. -/
instance : WellFoundedRelation (Company σ α) :=
  invImage members ⟨_, Replacement.wellFounded_isLess Routine.wellFounded_isPart⟩

theorem isLess_seat_turn {c others : Company σ α} {t : Routine σ α}
    (h : c.call? = some (t, others)) (s : σ) :
    WellFoundedRelation.rel (others.seat (t.turn s).1) c :=
  ⟨t, (t.turn s).1.left, others.members, fun _ hx => Routine.isPart_of_turn hx,
    members_call? h ▸ .refl _, members_seat others (t.turn s).1⟩

/-- The answer of a turn, if it is one that is wanted. -/
def answer? (wanted : α → Option β) : Routine.TurnEnd σ α → Option β
  | .done value => wanted value
  | _ => none

/-- **The company goes on** until one of its routines ends with an answer that is wanted, or until
nobody is left. -/
def proceed (wanted : α → Option β) (c : Company σ α) (s : σ) :
    Option (β × Company σ α) × σ :=
  match _h : c.call? with
  | none => (none, s)
  | some (t, others) =>
    match answer? wanted (t.turn s).1 with
    | some found => (some (found, others), (t.turn s).2)
    | none => proceed wanted (others.seat (t.turn s).1) (t.turn s).2
termination_by c
decreasing_by exact isLess_seat_turn _h s

/-! ## Alone -/

theorem exists_call? {c : Company σ α} (h : c.members ≠ []) :
    ∃ t others, c.call? = some (t, others) := by
  obtain ⟨clock, now, behind, next, waiting⟩ := c
  simp only [call?]
  split <;> simp_all [members]

/-- **A routine without company does what it does on its own.** -/
theorem proceed_alone {wanted : α → Option β} {t : Routine σ α} {found : β} {c : Company σ α}
    {s : σ} (hc : c.members = [t]) (hf : wanted (t.run s).1 = some found) :
    ∃ rest : Company σ α, rest.members = [] ∧
      c.proceed wanted s = (some (found, rest), (t.run s).2) := by
  induction t using Routine.wellFounded_isPart.induction generalizing c s with
  | _ t ih =>
    obtain ⟨u, others, hcall⟩ := exists_call? (c := c) (by simp [hc])
    have hmembers := members_call? hcall
    rw [hc, List.cons.injEq] at hmembers
    obtain ⟨rfl, hothers⟩ := hmembers
    have hpart : ∀ rest ∈ (t.turn s).1.left, Routine.IsPart rest t := fun _ =>
      Routine.isPart_of_turn
    have hrun := Routine.run_eq_turn t s
    have hseat := members_seat others (t.turn s).1
    rw [proceed]
    split
    · simp_all
    · rename_i hcall'
      rw [hcall] at hcall'
      obtain ⟨rfl, rfl⟩ : t = _ ∧ others = _ := by simpa using hcall'
      generalize t.turn s = e at hpart hrun hseat
      obtain ⟨e, s'⟩ := e
      rw [← hothers] at hseat
      cases e with
      | done value =>
        refine ⟨others, hothers.symm, ?_⟩
        rw [hrun] at hf ⊢
        simp only [Routine.TurnEnd.finish] at hf ⊢
        simp [answer?, hf]
      | pause rest | giveWay rest | wait time rank rest =>
        rw [hrun] at hf ⊢
        exact ih rest (hpart rest (by simp [Routine.TurnEnd.left]))
          (List.perm_singleton.1 (by simpa [Routine.TurnEnd.left] using hseat)) hf

end Company

end ActivityFlow
