import Mathlib.Data.List.Induction

/-!
# The last word of a history

What stands under a key is mostly what was put there last, unless it was taken away since.  This can
be read off from the list of everything that was done: each entry of the history may say what stands
under the key from then on, or that nothing does, and the last one that says anything is right
(`lastWord`).

A state that is changed entry by entry shows the last word of its history if it shows the word of
each entry that has one and keeps what it showed at every other (`lastWord_of_step`).
-/

namespace ActivityFlow

universe u v w

variable {ω : Type u} {α : Type v} {σ : Type w}

/-- **The last word of a history**: what the last entry says that says anything. -/
def lastWord (tells? : ω → Option (Option α)) (history : List ω) : Option α :=
  (history.reverse.findSome? tells?).join

variable {tells? : ω → Option (Option α)}

lemma lastWord_concat (history : List ω) (entry : ω) :
    lastWord tells? (history ++ [entry]) = (tells? entry).getD (lastWord tells? history) := by
  rw [lastWord, List.reverse_append, List.reverse_singleton, List.singleton_append,
    List.findSome?_cons]
  cases tells? entry <;> rfl

/-- **A state shows the last word of its history** if each step shows the word of its entry. -/
theorem lastWord_of_step (view : σ → Option α) {step : σ → ω → σ}
    (hstep : ∀ s entry, view (step s entry) = (tells? entry).getD (view s)) {start : σ}
    (hstart : view start = none) (history : List ω) :
    view (history.foldl step start) = lastWord tells? history := by
  induction history using List.reverseRecOn with
  | nil => exact hstart
  | append_singleton history entry ih =>
      rw [List.foldl_append, List.foldl_cons, List.foldl_nil, hstep, ih, lastWord_concat]

end ActivityFlow
