import ActivityFlow.Graph.Snapshot
import ActivityFlow.Proofs.Json.RoundTrip

/-!
# Snapshots keep everything

The snapshot of a definition read back is the definition (`ofText_toText`), whatever its ids, labels
and notes hold and whether or not it is well formed.  Two things make it so: a snapshot is a textual
value, so its text is read as that value, and every part has all its fields in it, so that no
default of the lenient reader ever applies.  A label that is null stays apart from one that is
empty.
-/

namespace ActivityFlow

open Json

/-! ## Snapshots are textual -/

lemma Node.textual_toJson (n : Node) : Textual n.toJson := by
  refine .obj (by simp) ?_
  simp [Textual.str]

lemma Transition.textual_toJson (t : Transition) : Textual t.toJson := by
  refine .obj (by simp) ?_
  simp [Textual.str]

lemma StartPoint.textual_toJson (p : StartPoint) : Textual p.toJson := by
  refine .obj (by simp) ?_
  simp [Textual.str]

lemma textual_arr_map {α : Type} {parts : List α} {toJson : α → Json}
    (h : ∀ part, Textual (toJson part)) : Textual (.arr (parts.map toJson)) :=
  .arr (List.forall_mem_map.mpr fun part _ => h part)

lemma Definition.textual_toJson (d : Definition) : Textual d.toJson := by
  refine .obj (by simp [toFields]) ?_
  simp [toFields, Textual.str, textual_arr_map Node.textual_toJson,
    textual_arr_map Transition.textual_toJson, textual_arr_map StartPoint.textual_toJson]

/-! ## Reading the fields of a snapshot -/

namespace Snapshot

variable {name : String} {j : Json}

lemma required_of_field {s : String} (h : j.field? name = some (.str s)) :
    required name j = .ok s := by
  simp [required, h]

lemma withDefault_of_field {s : Option String} (default : String)
    (h : j.field? name = some (.ofOption s)) : withDefault name default j = .ok s := by
  cases s <;> simp [withDefault, h, ofOption]

lemma optional_of_field {s : Option String} (h : j.field? name = some (.ofOption s)) :
    optional name j = .ok s := by
  cases s <;> simp [optional, h, ofOption]

lemma items_of_field {parts : List Json} (h : j.field? name = some (.arr parts)) :
    items name j = .ok parts := by
  simp [items, h]

end Snapshot

open Snapshot

/-- Parts that are each read back are read back as a list. -/
lemma mapM_map_of_inverse {α : Type} {toJson : α → Json} {ofJson : Json → Except SnapshotError α}
    (h : ∀ part, ofJson (toJson part) = .ok part) (parts : List α) :
    (parts.map toJson).mapM ofJson = .ok parts := by
  induction parts with
  | nil => rfl
  | cons part parts ih =>
      rw [List.map_cons, List.mapM_cons, h, ih]
      rfl

lemma Node.ofJson_toJson (n : Node) : Node.ofJson n.toJson = .ok n := by
  have hid : required "id" n.toJson = .ok n.id := required_of_field rfl
  have hlabel : withDefault "label" n.id n.toJson = .ok n.label := withDefault_of_field _ rfl
  have hmetadata : optional "json_metadata" n.toJson = .ok n.metadata := optional_of_field rfl
  have hnote : optional "note_markdown" n.toJson = .ok n.note := optional_of_field rfl
  simp [Node.ofJson, hid, hlabel, hmetadata, hnote, bind, Except.bind, pure, Except.pure]

lemma Transition.ofJson_toJson (t : Transition) : Transition.ofJson t.toJson = .ok t := by
  have hid : required "id" t.toJson = .ok t.id := required_of_field rfl
  have hsource : required "from_node_id" t.toJson = .ok t.source := required_of_field rfl
  have htarget : required "to_node_id" t.toJson = .ok t.target := required_of_field rfl
  have hcondition : optional "condition" t.toJson = .ok t.condition := optional_of_field rfl
  simp [Transition.ofJson, hid, hsource, htarget, hcondition, bind, Except.bind, pure, Except.pure]

lemma StartPoint.ofJson_toJson (p : StartPoint) : StartPoint.ofJson p.toJson = .ok p := by
  rw [StartPoint.ofJson, required_of_field rfl]
  rfl

lemma Definition.ofJson_toJson (d : Definition) : Definition.ofJson d.toJson = .ok d := by
  have hid : required "id" d.toJson = .ok d.id := required_of_field rfl
  have hname : withDefault "name" "" d.toJson = .ok d.name := withDefault_of_field _ rfl
  have hnodes : items "nodes" d.toJson = .ok (d.nodes.map Node.toJson) := items_of_field rfl
  have htransitions : items "transitions" d.toJson = .ok (d.transitions.map Transition.toJson) :=
    items_of_field rfl
  have hstarts : items "start_points" d.toJson = .ok (d.startPoints.map StartPoint.toJson) :=
    items_of_field rfl
  simp [Definition.ofJson, hid, hname, hnodes, htransitions, hstarts,
    mapM_map_of_inverse Node.ofJson_toJson, mapM_map_of_inverse Transition.ofJson_toJson,
    mapM_map_of_inverse StartPoint.ofJson_toJson, bind, Except.bind, pure, Except.pure]

/-- **A snapshot is read back as the definition it was made of.** -/
theorem Definition.ofText_toText (d : Definition) : Definition.ofText d.toText = .ok d := by
  rw [ofText, parse, toText, toList_render, read_write d.textual_toJson]
  exact d.ofJson_toJson

end ActivityFlow
