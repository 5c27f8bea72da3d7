import ActivityFlow.Graph.Definition
import ActivityFlow.Text.Blank

/-!
# What a step shows

Where an instance begins, and what is put before the user at a node.

* `Definition.start?` — the node an instance begins at.  The declared beginning is usually a bare
  marker; when there is exactly one way on from it, the instance begins behind it.
* `Definition.prompt` — the text and the choices of a node.  A node asks for a choice when more than
  one way leads on, or when a single way has a condition that is not blank.
-/

namespace ActivityFlow

/-- One way on that the user may choose. -/
structure Choice where
  index : Nat
  /-- The label of the target, or its id when it has none. -/
  text : String
  target : String
  condition : Option String
  deriving DecidableEq, Repr

/-- What a node puts before the user. -/
structure Prompt where
  isChoice : Bool
  text : Option String
  choices : List Choice
  label : Option String
  deriving DecidableEq, Repr

namespace Definition

/-- **Where an instance begins**: at the declared beginning, or at the one node behind it. -/
def start? (d : Definition) : Option String :=
  d.declaredStart?.map fun declared => match d.outgoing declared with
    | [only] => only.target
    | _ => declared

/-- The choice that a transition offers. -/
def choiceOf (d : Definition) (index : Nat) (t : Transition) : Choice where
  index := index
  text := (((d.node? t.target).bind (·.label)).filter fun label => !label.isEmpty).getD t.target
  target := t.target
  condition := t.condition

/-- Whether the ways on from a node have to be chosen from. -/
def asksChoice (ways : List Transition) : Bool :=
  1 < ways.length || ways.any fun t => !Text.blank? t.condition

/-- **What a node shows.**  A choice shows the note of the node; a plain step falls back to the
label when the note is missing or blank. -/
def prompt (d : Definition) (current : Option String) : Prompt :=
  let node := current.bind d.node?
  let ways := match current with
    | some id => d.outgoing id
    | none => []
  if asksChoice ways then
    { isChoice := true, text := node.bind (·.note),
      choices := ways.zipIdx.map fun way => d.choiceOf way.2 way.1, label := node.bind (·.label) }
  else
    { isChoice := false,
      text := node.bind fun n => match n.note with
        | some note => if Text.blank note then n.label else some note
        | none => n.label,
      choices := [], label := node.bind (·.label) }

end Definition

end ActivityFlow
