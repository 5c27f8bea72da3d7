import ActivityFlow.Graph.Definition
import ActivityFlow.Json.Display
import ActivityFlow.Json.Reader
import ActivityFlow.Text.Blank

/-!
# Action descriptors

A node says which action belongs to it by a JSON object with a field `action` and, if the action
has parameters, a field `params`.  The object is the metadata of the node; a node without metadata
may also have it for its note.

* `Descriptor.read?` — the descriptor that a text stands for.  A text that is no JSON object, or
  whose action is no name, stands for none, and that is never an error.
* `Descriptor.ofNode?` — the descriptor of a node.
* `parameterText` — parameters are texts, so a parameter of another kind becomes the text that its
  author most likely had in mind.
-/

namespace ActivityFlow

/-- The action of a node with the texts of its parameters. -/
structure Descriptor where
  action : String
  params : List (String × String)
  deriving DecidableEq, Repr

namespace Descriptor

/-- The text of a parameter: a text stands for itself, null for nothing, containers and the two
constants for their JSON text, and numbers for their decimal text. -/
def parameterText : Json → String
  | .null => ""
  | .str text => text
  | .real x => String.ofList (x.layout Json.literalNames)
  | value => value.render

/-- The parameters in a field; whatever is no object counts as none. -/
def paramsOf : Option Json → List (String × String)
  | some (.obj fields) => fields.map fun field => (field.1, parameterText field.2)
  | _ => []

/-- The descriptor that a JSON value stands for. -/
def ofJson? (value : Json) : Option Descriptor :=
  match value.field? "action" with
  | some (.str action) =>
    if Text.blank action then none
    else some { action := Text.strip action, params := paramsOf (value.field? "params") }
  | _ => none

/-- Whether a text has the outline of a JSON object: the first character opens a brace and the last
one closes a brace. -/
def isBraced (text : List Char) : Bool :=
  text.head? == some '\x7b' && text.getLast? == some '\x7d'

/-- The descriptor that a text stands for. -/
def read? (text : String) : Option Descriptor :=
  let body := Text.trim text.toList
  if isBraced body then (Json.read? body).bind ofJson? else none

/-- The descriptor of a node: the one in its metadata, or else, if it has no metadata, the one in
its note. -/
def ofNode? (node : Node) : Option Descriptor :=
  match node.metadata with
  | some metadata =>
    if metadata = "" then node.note.bind read? else read? metadata
  | none => node.note.bind read?

/-- A descriptor names an action. -/
theorem action_of_ofJson? {value : Json} {descriptor : Descriptor}
    (h : ofJson? value = some descriptor) :
    ∃ action, value.field? "action" = some (.str action) ∧ Text.blank action = false ∧
      descriptor.action = Text.strip action := by
  unfold ofJson? at h
  split at h
  · rename_i action ha
    split at h
    · exact absurd h (by simp)
    · rename_i hb
      simp only [Option.some.injEq] at h
      exact ⟨action, ha, by simpa using hb, h ▸ rfl⟩
  · exact absurd h (by simp)

end Descriptor

end ActivityFlow
