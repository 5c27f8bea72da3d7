import ActivityFlow.Action.Descriptor
import ActivityFlow.Proofs.Json.Outline

/-!
# Descriptors that were written

The text of a JSON object stands for the descriptor that the object stands for (`read?_render`).
The text has a brace at either end, so neither the trimming nor the look at its outline changes
anything, and the reader gives back what was written.

What an object says of its action is taken without the blanks at either end (`ofJson?_of_action`).
An action that has none is taken as it is, and so are parameters that are texts
(`paramsOf_paramsJson`).
-/

namespace ActivityFlow

namespace Text

/-- A text that is stripped and not empty is not blank. -/
lemma blank_of_strip_eq_self {s : String} (hstrip : strip s = s) (hne : s ≠ "") :
    blank s = false := by
  by_contra hblank
  rw [Bool.not_eq_false, blank] at hblank
  have htrim : trim s.toList = [] := by
    have hskip := skipBlank_append hblank []
    rw [List.append_nil] at hskip
    rw [trim, hskip]
    rfl
  exact hne (by rw [← hstrip, strip, htrim, String.ofList_nil])

end Text

namespace Descriptor

/-- **The text of an object stands for what the object stands for.** -/
theorem read?_render {fields : List (String × Json)} (h : (Json.obj fields).Textual) :
    read? (Json.obj fields).render = ofJson? (.obj fields) := by
  have hbraced : isBraced (Json.obj fields).write = true := by
    obtain ⟨inside, hinside, -⟩ := Json.exists_write_obj h
    rw [hinside, isBraced, ← List.cons_append, List.getLast?_concat]
    rfl
  rw [read?, Json.toList_render, (Json.tight_write_obj h).trim_eq, if_pos hbraced, Json.read?,
    Json.read_write h]
  rfl

/-- A node with the text of an object for its metadata has the descriptor of the object. -/
lemma ofNode?_of_render {fields : List (String × Json)} (h : (Json.obj fields).Textual)
    {node : Node} (hmetadata : node.metadata = some (Json.obj fields).render) :
    ofNode? node = ofJson? (.obj fields) := by
  have hne : (Json.obj fields).render ≠ "" := by
    simpa [← String.toList_inj] using (Json.tight_write_obj h).nonempty
  rw [ofNode?, hmetadata]
  dsimp only
  rw [if_neg hne, read?_render h]

lemma ofJson?_of_action {fields : List (String × Json)} {action : String}
    (haction : Json.getField? "action" fields = some (.str action))
    (hblank : Text.blank action = false) :
    ofJson? (.obj fields) =
      some ⟨Text.strip action, paramsOf (Json.getField? "params" fields)⟩ := by
  have hfield : (Json.obj fields).field? "action" = some (.str action) := haction
  rw [ofJson?, hfield]
  simp only [hblank]
  rfl

/-- The parameters of a descriptor as a JSON value. -/
def paramsJson (params : List (String × String)) : Json :=
  .obj (params.map fun param => (param.1, .str param.2))

lemma paramsOf_paramsJson (params : List (String × String)) :
    paramsOf (some (paramsJson params)) = params := by
  simp [paramsOf, paramsJson, parameterText, Function.comp_def]

end Descriptor

end ActivityFlow
