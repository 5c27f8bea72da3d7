import ActivityFlow.Graph.Definition
import ActivityFlow.Json.Printer
import ActivityFlow.Json.Reader

/-!
# Snapshots of definitions

A definition as a JSON value, for storing it elsewhere and reading it back.

**Reading is lenient.**  The id of the definition, the ids of nodes and transitions, and the ends of
transitions and start points are required; everything else has a default.  A missing name is the
empty text, missing lists are empty, and a node whose label is missing is labelled by its id.  A
name or a label that is null is not missing; it says that there is none.  Fields that do not belong
to a definition are passed over.  The first required field found missing is the one
that is reported.
-/

namespace ActivityFlow

/-- Why a value is no snapshot. -/
inductive SnapshotError where
  /-- The text cannot be read as JSON. -/
  | unreadable (cause : Json.ReadError)
  | missingField (name : String)
  /-- A field has a value of the wrong kind. -/
  | malformed (name : String)
  deriving DecidableEq, Repr

/-- The message of an error: for a field, its name. -/
def SnapshotError.message : SnapshotError → String
  | unreadable cause => cause.message
  | missingField name => name
  | malformed name => name

/-! ## Writing -/

/-- A node as a JSON value. -/
def Node.toJson (n : Node) : Json :=
  .obj [("id", .str n.id), ("label", .ofOption n.label), ("json_metadata", .ofOption n.metadata),
    ("note_markdown", .ofOption n.note)]

/-- A transition as a JSON value. -/
def Transition.toJson (t : Transition) : Json :=
  .obj [("id", .str t.id), ("from_node_id", .str t.source), ("to_node_id", .str t.target),
    ("condition", .ofOption t.condition)]

/-- A start point as a JSON value. -/
def StartPoint.toJson (p : StartPoint) : Json :=
  .obj [("node_id", .str p.node)]

/-- The fields of a definition as a JSON object. -/
def Definition.toFields (d : Definition) : List (String × Json) :=
  [("id", .str d.id), ("name", .ofOption d.name), ("nodes", .arr (d.nodes.map Node.toJson)),
    ("transitions", .arr (d.transitions.map Transition.toJson)),
    ("start_points", .arr (d.startPoints.map StartPoint.toJson))]

/-- A definition as a JSON value. -/
def Definition.toJson (d : Definition) : Json :=
  .obj d.toFields

/-- A definition as JSON text. -/
def Definition.toText (d : Definition) : String :=
  d.toJson.render

/-! ## Reading -/

namespace Snapshot

/-- A required string. -/
def required (name : String) (j : Json) : Except SnapshotError String :=
  match j.field? name with
  | some (.str s) => .ok s
  | some _ => .error (.malformed name)
  | none => .error (.missingField name)

/-- A string that may be null, with a default for when it is missing. -/
def withDefault (name default : String) (j : Json) : Except SnapshotError (Option String) :=
  match j.field? name with
  | some (.str s) => .ok (some s)
  | some .null => .ok none
  | some _ => .error (.malformed name)
  | none => .ok (some default)

/-- A string that may be missing or null. -/
def optional (name : String) (j : Json) : Except SnapshotError (Option String) :=
  match j.field? name with
  | some (.str s) => .ok (some s)
  | some .null | none => .ok none
  | some _ => .error (.malformed name)

/-- A list that may be missing. -/
def items (name : String) (j : Json) : Except SnapshotError (List Json) :=
  match j.field? name with
  | some (.arr xs) => .ok xs
  | some _ => .error (.malformed name)
  | none => .ok []

end Snapshot

open Snapshot

/-- The node that a value describes. -/
def Node.ofJson (j : Json) : Except SnapshotError Node := do
  let id ← required "id" j
  return ⟨id, ← withDefault "label" id j, ← optional "json_metadata" j,
    ← optional "note_markdown" j⟩

/-- The transition that a value describes. -/
def Transition.ofJson (j : Json) : Except SnapshotError Transition := do
  return ⟨← required "id" j, ← required "from_node_id" j, ← required "to_node_id" j,
    ← optional "condition" j⟩

/-- The start point that a value describes. -/
def StartPoint.ofJson (j : Json) : Except SnapshotError StartPoint := do
  return ⟨← required "node_id" j⟩

/-- The definition that a value describes. -/
def Definition.ofJson (j : Json) : Except SnapshotError Definition := do
  let id ← required "id" j
  let name ← withDefault "name" "" j
  let nodes ← (← items "nodes" j).mapM Node.ofJson
  let transitions ← (← items "transitions" j).mapM Transition.ofJson
  let startPoints ← (← items "start_points" j).mapM StartPoint.ofJson
  return ⟨id, name, nodes, transitions, startPoints⟩

/-- The definition that a text describes. -/
def Definition.ofText (text : String) : Except SnapshotError Definition :=
  match Json.parse text with
  | .ok j => Definition.ofJson j
  | .error cause => .error (.unreadable cause)

end ActivityFlow
