import ActivityFlow.Graph.Definition
import ActivityFlow.Json.Basic
import ActivityFlow.Text.Numeral

/-!
# Choosing a way on

An instance moves along one of the transitions that leave its node, and a value says which.  The
value is compared with what a transition leads to, and then with its place in the order of
declaration.

* A text is first taken for the id of a target, then for the label of one, and then for a number.
* A whole number is a place; the first place is zero, and places outside the order choose nothing.
* Null chooses the only transition, if there is only one.
* Other values choose nothing.
-/

namespace ActivityFlow.Choice

/-- The first transition that leads to a node. -/
def byTarget (ways : List Transition) (id : String) : Option Transition :=
  ways.find? (·.target = id)

/-- The first transition that leads to a node with a label. -/
def byLabel (d : Definition) (ways : List Transition) (label : String) : Option Transition :=
  ways.find? fun way => (d.node? way.target).any (·.label = some label)

/-- The transition at a place. -/
def byPlace (ways : List Transition) (place : Int) : Option Transition :=
  if 0 ≤ place then ways[place.toNat]? else none

/-- The only transition. -/
def only : List Transition → Option Transition
  | [way] => some way
  | _ => none

/-- **The transition that a value chooses.** -/
def select (d : Definition) (ways : List Transition) : Json → Option Transition
  | .str text => (byTarget ways text).or <| (byLabel d ways text).or <|
    (Text.readInt? text).bind (byPlace ways)
  | .int place => byPlace ways place
  | .null => only ways
  | _ => none

theorem only_eq_some_iff {ways : List Transition} {t : Transition} :
    only ways = some t ↔ ways = [t] := by
  match ways with
  | [] | _ :: _ :: _ => simp [only]
  | [way] => simp [only]

theorem mem_of_byPlace {ways : List Transition} {place : Int} {t : Transition}
    (h : byPlace ways place = some t) : t ∈ ways := by
  unfold byPlace at h
  split at h
  · exact List.mem_of_getElem? h
  · exact absurd h (by simp)

/-- **Only what is offered is chosen.** -/
theorem mem_of_select {d : Definition} {ways : List Transition} {value : Json} {t : Transition}
    (h : select d ways value = some t) : t ∈ ways := by
  cases value with
  | str text =>
    simp only [select, Option.or_eq_some_iff] at h
    rcases h with h | ⟨-, h | ⟨-, h⟩⟩
    · exact List.mem_of_find?_eq_some h
    · exact List.mem_of_find?_eq_some h
    · obtain ⟨place, -, h⟩ := Option.bind_eq_some_iff.1 h
      exact mem_of_byPlace h
  | int place => exact mem_of_byPlace h
  | null =>
    rw [only_eq_some_iff.1 h]
    exact List.mem_singleton.2 rfl
  | _ => exact absurd h (by simp [select])

end ActivityFlow.Choice
