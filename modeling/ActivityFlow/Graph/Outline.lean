import ActivityFlow.Graph.Definition

/-!
# Outlines

A definition drawn as plain text: a heading, a line per start point, and a line per transition with
its condition in brackets.
-/

namespace ActivityFlow

namespace Definition

/-- The line of a transition; a condition without characters is not shown. -/
def outlineTransition (t : Transition) : String :=
  let way := "  " ++ t.source ++ " -> " ++ t.target
  match t.condition with
  | none => way
  | some condition => if condition.isEmpty then way else way ++ " [" ++ condition ++ "]"

/-- The lines of the outline; a missing name shows as `None`. -/
def outlineLines (d : Definition) : List String :=
  ["Workflow: " ++ d.name.getD "None" ++ " (" ++ d.id ++ ")",
      String.ofList (List.replicate 40 '=')] ++
    d.startPoints.map (fun p => "[START] -> " ++ p.node) ++
    d.transitions.map outlineTransition

/-- The outline as one text. -/
def outline (d : Definition) : String :=
  "\n".intercalate d.outlineLines

end Definition

end ActivityFlow
