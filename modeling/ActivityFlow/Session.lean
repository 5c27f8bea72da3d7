import ActivityFlow.Company

/-!
# Sessions

A session is a state on which operations are performed one after the other, together with the
company of routines that are still at work.  The company goes on while an operation pauses, and
stands still between operations.

* `Session.perform` — one operation.
* `Session.gather` — several operations at the same time.  The caller goes on when all have ended,
  or when the first has failed; in that case the others stay in the company.
* `Session.finish` — wait until everybody in the company has ended.

**When the caller goes on.**  Whoever waits for others learns of their end one round later, and goes
on one more round later.

**Newcomers.**  In each of its turns an operation may leave work in the state.  `Employer` says how
it is found behind the turn; those who do it have their first turn in the next round, before the
operation has its own.  Only operations leave work, so nobody is hired behind the turns of others.
-/

namespace ActivityFlow

/-- States in which operations leave work for the company. -/
class Employer (σ : Type) where
  /-- Those who are to do the work, and the state without it. -/
  hire : σ → List (Routine σ Unit) × σ

/-- A state, and those who are still at work on it. -/
structure Session (σ : Type) where
  state : σ
  company : Company σ Unit

namespace Session

variable {σ α ε : Type}

/-- A session in which nobody is at work. -/
def start (state : σ) : Session σ :=
  ⟨state, .empty⟩

/-- Let those join the company who are to do the work that was left. -/
def hire [Employer σ] (s : Session σ) : Session σ :=
  let (newcomers, state) := Employer.hire s.state
  ⟨state, s.company.join newcomers⟩

/-! ## One operation -/

/-- **Perform an operation.**  When it pauses its place in the company is kept, and the company goes
on until that has its turn.  There is no answer only if this never happens. -/
def perform [Employer σ] (operation : Routine σ α) (s : Session σ) : Option α × Session σ :=
  let turned := operation.turn s.state
  let s := hire ⟨turned.2, s.company⟩
  match _h : turned.1.result with
  | .inl answer => (some answer, s)
  | .inr rest =>
    match ((s.company.map fun _ => none).seat (turned.1.keep (some ()))).proceed id s.state with
    | (some ((), others), state) => perform rest ⟨state, others.map fun _ => ()⟩
    | (none, state) => (none, ⟨state, .empty⟩)
termination_by operation
decreasing_by exact Routine.isPart_of_result _h

/-! ## Several operations at the same time -/

/-- What the turn of a member means to a caller who waits for operations. -/
inductive Signal where
  /-- Nothing; nobody waits for it. -/
  | other
  /-- It is the turn of the operation at a place. -/
  | turn (place : Nat)
  /-- It is the caller's turn. -/
  | caller

/-- Whether a caller who waits takes note of a signal. -/
def Signal.wanted : Signal → Option Signal
  | other => none
  | signal => some signal

/-- The caller, who has seen the end of what it waits for. -/
def callBack (signal : α) : Routine σ α :=
  .pause (.done signal)

/-- The answers by their places, or the first failure. -/
abbrev Answers (ε α : Type) := Except ε (List (Nat × α))

/-- The answers with one more. -/
def addAnswer (place : Nat) (value : Except ε α) : Answers ε α → Answers ε α
  | .ok answers => value.map fun answer => (place, answer) :: answers
  | .error failure => .error failure

/-- Whether the caller knows all that it waits for: it did not know it before, and now there is a
failure, or nothing is outstanding. -/
def isEnough (outstanding : Nat) (found : Answers ε α) (value : Except ε α) : Bool :=
  found.isOk && (outstanding = 0 || !value.isOk)

/-- What is left of operations that a caller waits for, with their places. -/
abbrev Awaited (σ ε α : Type) := List (Nat × Routine σ (Except ε α))

namespace Awaited

variable {awaited others : Awaited σ ε α} {place : Nat} {t : Routine σ (Except ε α)}

/-- The operation at a place, and the others. -/
def takeOut (place : Nat) : Awaited σ ε α → Option (Routine σ (Except ε α) × Awaited σ ε α)
  | [] => none
  | entry :: rest =>
    if entry.1 = place then some (entry.2, rest)
    else (takeOut place rest).map fun found => (found.1, entry :: found.2)

theorem perm_takeOut (h : takeOut place awaited = some (t, others)) :
    (awaited.map Prod.snd).Perm (t :: others.map Prod.snd) := by
  induction awaited generalizing others with
  | nil => exact absurd h (by simp [takeOut])
  | cons entry rest ih =>
    rw [takeOut] at h
    split at h
    · simp only [Option.some.injEq, Prod.mk.injEq] at h
      obtain ⟨rfl, rfl⟩ := h
      exact .refl _
    · obtain ⟨found, hfound, h⟩ := Option.map_eq_some_iff.1 h
      simp only [Prod.mk.injEq] at h
      obtain ⟨rfl, rfl⟩ := h
      exact ((ih hfound).cons entry.2).trans (.swap ..)

/-- The company with the operations back at their places. -/
def giveBack (awaited : Awaited σ ε α) (company : Company σ Signal) : Company σ Unit :=
  company.andThen fun
    | .turn place => match awaited.lookup place with
      | some t => t.map fun _ => ()
      | none => .done ()
    | _ => .done ()

/-- With every turn of an operation less is left of all. -/
instance : WellFoundedRelation (Awaited σ ε α) :=
  invImage (List.map Prod.snd) ⟨_, Replacement.wellFounded_isLess Routine.wellFounded_isPart⟩

end Awaited

/-- Wait for operations, and then for the turn of the caller. -/
def await [Employer σ] (awaited : Awaited σ ε α) (found : Answers ε α)
    (company : Company σ Signal) (state : σ) : Answers ε α × Session σ :=
  match company.proceed Signal.wanted state with
  | (some (.turn place, company), state) =>
    match _h : awaited.takeOut place with
    | some (t, others) =>
      let turned := t.turn state
      let (newcomers, state) := Employer.hire turned.2
      let company := company.join (newcomers.map (Routine.map fun _ => .other))
      match _hresult : turned.1.result with
      | .inl value =>
        let company :=
          if isEnough others.length found value then company.join [callBack .caller] else company
        await others (addAnswer place value found) company state
      | .inr rest =>
        await ((place, rest) :: others) found (company.seat (turned.1.keep (.turn place))) state
    | none => (found, ⟨state, awaited.giveBack company⟩)
  | (some (_, company), state) => (found, ⟨state, awaited.giveBack company⟩)
  | (none, state) => (found, ⟨state, .empty⟩)
termination_by awaited
decreasing_by
  · exact ⟨t, [], _, by simp, Awaited.perm_takeOut _h, .refl _⟩
  · refine ⟨t, [rest], others.map Prod.snd, ?_, Awaited.perm_takeOut _h, .refl _⟩
    simpa using Routine.isPart_of_result _hresult

/-- The answers in the order of their places. -/
def inOrder (count : Nat) (answers : List (Nat × α)) : List α :=
  (List.range count).filterMap fun place => answers.lookup place

/-- **Perform operations at the same time.**  The answers come in the order of the operations. -/
def gather [Employer σ] (operations : List (Routine σ (Except ε α))) (s : Session σ) :
    Except ε (List α) × Session σ :=
  if operations.isEmpty then (.ok [], s)
  else
    let awaited : Awaited σ ε α := operations.zipIdx.map Prod.swap
    let company := (s.company.map fun _ => .other).join
      (awaited.map fun entry => .done (.turn entry.1))
    let (found, s) := await awaited (.ok []) company s.state
    (found.map (inOrder operations.length), s)

/-! ## Waiting for the others -/

/-- The company goes on until so many have ended. -/
def proceedTimes : Nat → Company σ (Option Unit) → σ → Company σ (Option Unit) × σ
  | 0, company, state => (company, state)
  | n + 1, company, state => match company.proceed id state with
    | (some (_, company), state) => proceedTimes n company state
    | (none, state) => (.empty, state)

/-- **Wait until everybody has ended**, and then for the turn of the caller. -/
def finish (s : Session σ) : Session σ :=
  if s.company.size = 0 then s
  else
    let (company, state) := proceedTimes s.company.size (s.company.map fun _ => some ()) s.state
    let (company, state) := proceedTimes 1 (company.join [callBack (some ())]) state
    ⟨state, company.map fun _ => ()⟩

end Session

end ActivityFlow
