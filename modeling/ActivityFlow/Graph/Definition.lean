/-!
# Workflow definitions

A workflow definition is the directed graph that a diagram describes: nodes are the steps a user
walks through, transitions are the ways on from a step, and start points say where to begin.  A
definition is data only; nothing in the type says that it is well formed, because a definition may
also come from a snapshot that somebody edited.

* `Definition.node?` — the first node with an id.
* `Definition.outgoing`, `Definition.incoming` — transitions in the order of declaration.
* `Definition.problems` — what keeps a definition from being well formed, one line each.
-/

namespace ActivityFlow

/-! ## Parts -/

/-- A step of a workflow. -/
structure Node where
  id : String
  /-- The name shown to the user; a snapshot may leave it out on purpose. -/
  label : Option String
  /-- The action descriptor attached to the step, as JSON text. -/
  metadata : Option String
  /-- Guidance shown to the user. -/
  note : Option String
  deriving DecidableEq, Repr, Inhabited

/-- A way from one step to another. -/
structure Transition where
  id : String
  source : String
  target : String
  /-- The label of the branch; an unconditional way has none. -/
  condition : Option String
  deriving DecidableEq, Repr, Inhabited

/-- A node where the workflow may begin. -/
structure StartPoint where
  node : String
  deriving DecidableEq, Repr, Inhabited

/-- A workflow as a graph. -/
structure Definition where
  id : String
  name : Option String
  nodes : List Node
  transitions : List Transition
  startPoints : List StartPoint
  deriving DecidableEq, Repr, Inhabited

namespace Definition

/-! ## Questions about a definition -/

/-- The first node with an id. -/
def node? (d : Definition) (id : String) : Option Node :=
  d.nodes.find? (·.id = id)

/-- Whether a node with an id exists. -/
def hasNode (d : Definition) (id : String) : Bool :=
  (d.node? id).isSome

/-- The transitions that leave a node, in the order of declaration. -/
def outgoing (d : Definition) (id : String) : List Transition :=
  d.transitions.filter (·.source = id)

/-- The transitions that lead to a node, in the order of declaration. -/
def incoming (d : Definition) (id : String) : List Transition :=
  d.transitions.filter (·.target = id)

/-- The node declared as the beginning: the first start point, or else the first node. -/
def declaredStart? (d : Definition) : Option String :=
  match d.startPoints, d.nodes with
  | point :: _, _ => some point.node
  | [], node :: _ => some node.id
  | [], [] => none

theorem hasNode_iff {d : Definition} {id : String} :
    d.hasNode id = true ↔ ∃ n ∈ d.nodes, n.id = id := by
  simp [hasNode, node?, List.find?_isSome]

theorem mem_outgoing {d : Definition} {id : String} {t : Transition} :
    t ∈ d.outgoing id ↔ t ∈ d.transitions ∧ t.source = id := by
  simp [outgoing]

/-! ## Problems -/

/-- What can be wrong with a definition. -/
inductive Problem where
  | duplicateNode (id : String)
  | danglingSource (transition source : String)
  | danglingTarget (transition target : String)
  | danglingStart (node : String)
  deriving DecidableEq, Repr

/-- The line that reports a problem. -/
def Problem.message : Problem → String
  | duplicateNode id => "Duplicate node id '" ++ id ++ "'"
  | danglingSource t s => "Transition " ++ t ++ " source '" ++ s ++ "' not found"
  | danglingTarget t s => "Transition " ++ t ++ " target '" ++ s ++ "' not found"
  | danglingStart n => "Start point '" ++ n ++ "' not found"

/-- The nodes whose id occurs earlier, given the ids already seen. -/
def duplicates : (seen : List String) → List Node → List Problem
  | _, [] => []
  | seen, n :: rest =>
    if n.id ∈ seen then .duplicateNode n.id :: duplicates seen rest
    else duplicates (n.id :: seen) rest

/-- The ends of a transition that are no node, source before target. -/
def danglingEnds (ids : List String) (t : Transition) : List Problem :=
  (if t.source ∈ ids then [] else [.danglingSource t.id t.source]) ++
    (if t.target ∈ ids then [] else [.danglingTarget t.id t.target])

/-- The problem of a start point that is no node. -/
def danglingStarts (ids : List String) (p : StartPoint) : List Problem :=
  if p.node ∈ ids then [] else [.danglingStart p.node]

/-- **What is wrong with a definition**: repeated nodes first, then the loose ends of transitions,
then the loose start points, each in its own order. -/
def problems (d : Definition) : List Problem :=
  let ids := d.nodes.map (·.id)
  duplicates [] d.nodes ++ d.transitions.flatMap (danglingEnds ids) ++
    d.startPoints.flatMap (danglingStarts ids)

end Definition

end ActivityFlow
