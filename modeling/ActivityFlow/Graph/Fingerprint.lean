import ActivityFlow.Digest.Sha256
import ActivityFlow.Graph.Snapshot

/-!
# Fingerprints

A short digest that tells two graphs apart.  It is cut from the digest of a text of the graph that
leaves out the id and the name of the definition, so two imports of the same diagram agree.  In that
text the fields of every object stand in alphabetical order.

* `Definition.graphText` — the text that is digested.
* `Definition.fingerprint` — the first sixteen hexadecimal digits of its digest.
-/

namespace ActivityFlow

/-- A node with its fields in alphabetical order. -/
def Node.sortedJson (n : Node) : Json :=
  .obj [("id", .str n.id), ("json_metadata", .ofOption n.metadata), ("label", .ofOption n.label),
    ("note_markdown", .ofOption n.note)]

/-- A transition with its fields in alphabetical order. -/
def Transition.sortedJson (t : Transition) : Json :=
  .obj [("condition", .ofOption t.condition), ("from_node_id", .str t.source), ("id", .str t.id),
    ("to_node_id", .str t.target)]

namespace Definition

/-- The graph alone, with all fields in alphabetical order. -/
def graphJson (d : Definition) : Json :=
  .obj [("nodes", .arr (d.nodes.map Node.sortedJson)),
    ("start_points", .arr (d.startPoints.map StartPoint.toJson)),
    ("transitions", .arr (d.transitions.map Transition.sortedJson))]

/-- The text of the graph that is digested; all its characters are ASCII. -/
def graphText (d : Definition) : List Char :=
  d.graphJson.write

/-- The fingerprint of the graph. -/
def fingerprint (d : Definition) : String :=
  String.ofList ((Sha256.hex (d.graphText.map Char.toNat)).take 16)

end Definition

end ActivityFlow
