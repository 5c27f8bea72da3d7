import ActivityFlow.Proofs.Controller.Settling
import ActivityFlow.Proofs.Routine.Within

/-!
# Stories that are over soon

What comes between the steps of an operation is a matter of single turns.  A story whose operations
need few of them can be followed turn by turn (`Story.afterWithin`), and what is seen then is so in
the story (`Story.after_of_within`).

The stories that are followed here have handlers in the background and a persistence that is
`hesitant`: it takes its time for one of its calls.  That is the one way in which others come between
the steps of an operation (see `Controller.Uninterrupted`), and it is enough for a handler that was
left to the background to do its work.
-/

namespace ActivityFlow

open Controller Routine

variable {π : Type}

namespace Story

/-- The story with one more scene, which is over in fewer turns than a bound. -/
def nextWithin (c : Controller π) (turns : ℕ) (story : Story π) : Scene → Option (Story π)
  | .ask op => do
    let (answer, session) ← story.session.performWithin turns turns (op.routine c)
    return ⟨session, noted story.imported op answer⟩
  | .wait => match c.engine with
    | .broken => return story
    | .working options =>
      if options.background then do
        return ⟨← story.session.finishWithin turns, story.imported⟩
      else return story

/-- The story of a list of scenes, each of which is over in fewer turns than a bound. -/
def afterWithin (c : Controller π) (turns : ℕ) (registry : Registry) (archive : π)
    (scenes : List Scene) : Option (Story π) :=
  scenes.foldlM (nextWithin c turns) (opening registry archive)

lemma next_eq_of_within {c : Controller π} {turns : ℕ} {story story' : Story π} {scene : Scene}
    (h : nextWithin c turns story scene = some story') : story.next c scene = story' := by
  cases scene with
  | ask op =>
      obtain ⟨⟨answer, session⟩, hperform, h⟩ := Option.bind_eq_some_iff.mp h
      rw [next, Session.perform_eq_of_within hperform]
      exact Option.some.inj h
  | wait =>
      rw [nextWithin] at h
      rw [next, drain]
      cases hengine : c.engine with
      | broken =>
          rw [hengine] at h
          exact Option.some.inj h
      | working options =>
          simp only [hengine] at h
          dsimp only [Options.drain]
          split at h
          · rename_i hbackground
            obtain ⟨session, hfinish, h⟩ := Option.bind_eq_some_iff.mp h
            rw [if_pos hbackground, Session.finish_eq_of_within hfinish]
            exact Option.some.inj h
          · rename_i hforeground
            rw [if_neg hforeground]
            exact Option.some.inj h

lemma foldl_eq_of_within {c : Controller π} {turns : ℕ} {story story' : Story π}
    {scenes : List Scene} (h : scenes.foldlM (nextWithin c turns) story = some story') :
    scenes.foldl (next c) story = story' := by
  induction scenes generalizing story with
  | nil => exact Option.some.inj h
  | cons scene scenes ih =>
      rw [List.foldlM_cons] at h
      obtain ⟨between, hnext, hrest⟩ := Option.bind_eq_some_iff.mp h
      rw [List.foldl_cons, next_eq_of_within hnext]
      exact ih hrest

/-- **What is seen of a story within a bound is so in the story.** -/
theorem after_of_within {c : Controller π} {registry : Registry} {archive : π}
    {scenes : List Scene} {α : Type} {f : Story π → α} {value : α} (turns : ℕ)
    (h : (afterWithin c turns registry archive scenes).map f = some value) :
    f (after c registry archive scenes) = value := by
  obtain ⟨story, hstory, hseen⟩ := Option.map_eq_some_iff.mp h
  rw [after, foldl_eq_of_within hstory]
  exact hseen

/-- A scene in which an operation is performed. -/
lemma session_after_ask (c : Controller π) (registry : Registry) (archive : π)
    (scenes : List Scene) (op : Operation) :
    (after c registry archive (scenes ++ [.ask op])).session =
      ((after c registry archive scenes).session.perform (op.routine c)).2 := by
  rw [after, List.foldl_concat]
  rfl

end Story

/-- Whether an instance has a variable. -/
def World.hasVariable (id name : String) (w : World π) : Bool :=
  ((w.states.stateOf id).bag.get? name).isSome

/-- An answer that is counted, and of which the fourth comes late. -/
def hesitantly {α : Type} (answer : α) : Routine ℕ (Except PersistenceError α) := do
  let answers ← get
  set (answers + 1)
  if answers = 3 then pauses 2
  return .ok answer

lemma run_hesitantly {α : Type} (answer : α) (answers : ℕ) :
    (hesitantly answer).run answers = (.ok answer, answers + 1) := by
  unfold hesitantly
  by_cases hlate : answers = 3
  · simp [hlate]
  · simp [hlate]

/-- A persistence that keeps nothing, and takes its time for its fourth call. -/
def hesitant : Persistence ℕ where
  loading := fun _ => hesitantly none
  updating := fun _ _ => hesitantly ()
  creating := fun _ => hesitantly ()

/-- A registry with a handler that writes a variable. -/
def greeting : Registry :=
  .put .empty "greet" ⟨"greet", .shared (Script.handler ⟨"greet", [.set "x" (.int 1)]⟩ "greet"), []⟩

/-- A diagram with an action for this handler. -/
def greetingText : String :=
  ":Museum;\nnote right\n\x7b\"action\": \"greet\"\x7d\nend note"

end ActivityFlow
