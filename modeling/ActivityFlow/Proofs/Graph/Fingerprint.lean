import ActivityFlow.Graph.Fingerprint
import ActivityFlow.Proofs.Graph.Snapshot
import ActivityFlow.Proofs.Json.Outline
import Mathlib.Data.List.Sort

/-!
# What a fingerprint is taken of

A fingerprint is the digest of a text, so it can tell no more apart than that text does.  The text
of a graph is the snapshot of its definition without the id and the name, with the fields of every
object in alphabetical order.  It tells apart everything that is left: two definitions have one text
exactly when they have the same nodes, the same transitions and the same start points
(`graphText_eq_iff`).

That nothing is lost has two reasons.  Values with one text are one value, because the text is read
back as the value (`Json.eq_of_write_eq`).  And the value of a part has all the fields of the part
in it, a missing text as null and an empty one as an empty string.
-/

namespace ActivityFlow

namespace Json

/-! ## Alphabetical order -/

/-- Whether the name of one field comes before that of another, or is the same. -/
abbrev ByName (field other : String × Json) : Prop :=
  field.1 ≤ other.1

mutual

/-- The value with the fields of every object in alphabetical order. -/
def sorted : Json → Json
  | null => null
  | bool value => bool value
  | int value => int value
  | real value => real value
  | str value => str value
  | arr items => arr (sortedItems items)
  | obj fields => obj ((sortedInside fields).insertionSort ByName)

/-- The items, each with its fields in alphabetical order. -/
def sortedItems : List Json → List Json
  | [] => []
  | item :: items => sorted item :: sortedItems items

/-- The fields in their places, each with the fields inside its value in alphabetical order. -/
def sortedInside : List (String × Json) → List (String × Json)
  | [] => []
  | (name, value) :: fields => (name, sorted value) :: sortedInside fields

end

@[simp] lemma sorted_ofOption : ∀ s : Option String, sorted (.ofOption s) = .ofOption s
  | none => by rw [ofOption, sorted]
  | some s => by rw [ofOption, sorted]

lemma sortedItems_map {α : Type} (toJson : α → Json) (parts : List α) :
    sortedItems (parts.map toJson) = parts.map fun part => (toJson part).sorted := by
  induction parts with
  | nil => rw [List.map_nil, sortedItems, List.map_nil]
  | cons part parts ih => rw [List.map_cons, sortedItems, ih, List.map_cons]

lemma ofOption_injective : ∀ {s t : Option String}, ofOption s = ofOption t → s = t
  | none, none, _ => rfl
  | some _, some _, h => congrArg some (Json.str.inj h)

end Json

open Json

/-! ## Parts of a graph -/

lemma Node.sorted_toJson (n : Node) : n.toJson.sorted = n.sortedJson := by
  simp [toJson, sortedJson, sorted, sortedInside, ByName]

lemma Transition.sorted_toJson (t : Transition) : t.toJson.sorted = t.sortedJson := by
  simp [toJson, sortedJson, sorted, sortedInside, ByName]

lemma StartPoint.sorted_toJson (p : StartPoint) : p.toJson.sorted = p.toJson := by
  simp [toJson, sorted, sortedInside]

lemma Node.textual_sortedJson (n : Node) : Textual n.sortedJson := by
  refine .obj (by simp) ?_
  simp [Textual.str]

lemma Transition.textual_sortedJson (t : Transition) : Textual t.sortedJson := by
  refine .obj (by simp) ?_
  simp [Textual.str]

lemma Node.sortedJson_injective : Function.Injective Node.sortedJson := by
  rintro ⟨_, _, _, _⟩ ⟨_, _, _, _⟩ h
  simp only [sortedJson, Json.obj.injEq, List.cons.injEq, Prod.mk.injEq, Json.str.injEq,
    true_and, and_true] at h
  obtain ⟨hid, hmetadata, hlabel, hnote⟩ := h
  rw [hid, ofOption_injective hmetadata, ofOption_injective hlabel, ofOption_injective hnote]

lemma Transition.sortedJson_injective : Function.Injective Transition.sortedJson := by
  rintro ⟨_, _, _, _⟩ ⟨_, _, _, _⟩ h
  simp only [sortedJson, Json.obj.injEq, List.cons.injEq, Prod.mk.injEq, Json.str.injEq,
    true_and, and_true] at h
  obtain ⟨hcondition, hsource, hid, htarget⟩ := h
  rw [hid, hsource, htarget, ofOption_injective hcondition]

lemma StartPoint.toJson_injective : Function.Injective StartPoint.toJson := by
  rintro ⟨_⟩ ⟨_⟩ h
  simp only [toJson, Json.obj.injEq, List.cons.injEq, Prod.mk.injEq, Json.str.injEq, true_and,
    and_true] at h
  rw [h]

/-! ## The graph -/

namespace Definition

/-- The fields of the snapshot of a definition that say what its graph is. -/
def graphFields (d : Definition) : List (String × Json) :=
  d.toFields.filter fun field => field.1 ≠ "id" ∧ field.1 ≠ "name"

lemma sorted_graphFields (d : Definition) : (Json.obj d.graphFields).sorted = d.graphJson := by
  simp [graphFields, toFields, graphJson, sorted, sortedInside, ByName, sortedItems_map,
    Node.sorted_toJson, Transition.sorted_toJson, StartPoint.sorted_toJson]

lemma textual_graphJson (d : Definition) : Textual d.graphJson := by
  refine .obj (by simp) ?_
  simp [textual_arr_map Node.textual_sortedJson, textual_arr_map Transition.textual_sortedJson,
    textual_arr_map StartPoint.textual_toJson]

lemma graphJson_eq_iff (d e : Definition) : d.graphJson = e.graphJson ↔
    d.nodes = e.nodes ∧ d.transitions = e.transitions ∧ d.startPoints = e.startPoints := by
  simp only [graphJson, Json.obj.injEq, List.cons.injEq, Prod.mk.injEq, Json.arr.injEq, true_and,
    and_true, Node.sortedJson_injective.list_map.eq_iff,
    Transition.sortedJson_injective.list_map.eq_iff,
    StartPoint.toJson_injective.list_map.eq_iff]
  exact ⟨fun ⟨hnodes, hstarts, htransitions⟩ => ⟨hnodes, htransitions, hstarts⟩,
    fun ⟨hnodes, htransitions, hstarts⟩ => ⟨hnodes, hstarts, htransitions⟩⟩

/-- **The digested text tells graphs apart, and nothing else.**  It is the text of the snapshot
    without id and name, its fields in alphabetical order; it is printed ASCII, so that its
    characters are its bytes; and two definitions have the same text exactly when they have the same
    nodes, transitions and start points. -/
theorem graphText_eq_iff (d e : Definition) :
    d.graphText = (Json.obj d.graphFields).sorted.write ∧
      (∀ c ∈ d.graphText, isPrinted c = true) ∧
      (d.graphText = e.graphText ↔
        d.nodes = e.nodes ∧ d.transitions = e.transitions ∧ d.startPoints = e.startPoints) := by
  refine ⟨by rw [sorted_graphFields, graphText], (balanced_write d.textual_graphJson).printed, ?_⟩
  rw [← graphJson_eq_iff]
  exact ⟨eq_of_write_eq d.textual_graphJson e.textual_graphJson, congrArg Json.write⟩

end Definition

end ActivityFlow
