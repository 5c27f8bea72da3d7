import ActivityFlow.Diagram.Draft

/-!
# From text to definition

`Diagram.read` turns the text of a diagram into a workflow definition.  A text never fails halfway:
lines without meaning are set aside, and what is left open at the end is closed.  Only a text that
is missing or blank is refused.

**Names.**  A definition without a name is called `ImportedWorkflow`, and one without an id takes
the next id of a supply.  An empty id counts as missing; an id of blanks does not.
-/

namespace ActivityFlow

/-- Ids for definitions that were given none. -/
structure IdSupply where
  /-- How many ids were taken. -/
  taken : Nat := 0
  deriving DecidableEq, Repr, Inhabited

/-- The next id, and the supply behind it. -/
def IdSupply.next (s : IdSupply) : String × IdSupply :=
  ("generated-" ++ toString (s.taken + 1), ⟨s.taken + 1⟩)

/-- The given text, unless it is missing or empty. -/
def nonEmpty? (s : Option String) : Option String :=
  s.filter fun t => !t.isEmpty

namespace Diagram

/-- Why a diagram is refused. -/
inductive DiagramError where
  | emptyText
  deriving DecidableEq, Repr

/-- The message of an error. -/
def DiagramError.message : DiagramError → String
  | emptyText => "Diagram text must not be empty"

/-- A definition with the remarks of its diagram. -/
structure Reading where
  definition : Definition
  remarks : Remarks
  deriving DecidableEq, Repr

/-- The name of a definition that was given none. -/
def defaultName : String := "ImportedWorkflow"

/-- The definition that a draft amounts to. -/
def Draft.toDefinition (d : Draft) (id name : String) : Definition :=
  ⟨id, some name, d.entries.map (·.node), d.transitions, d.startPoints⟩

/-- The definition of a text under a given id and name. -/
def readAs (text : List Char) (id name : String) : Reading :=
  let draft := Draft.ofLines (prepareLines text)
  ⟨draft.toDefinition id name, draft.remarks⟩

/-- **The definition that a diagram describes.** -/
def read (text id name : Option String) (supply : IdSupply) :
    Except DiagramError Reading × IdSupply :=
  match text with
  | none => (.error .emptyText, supply)
  | some text =>
    if Text.blank text then (.error .emptyText, supply)
    else
      let name := (nonEmpty? name).getD defaultName
      match nonEmpty? id with
      | some id => (.ok (readAs text.toList id name), supply)
      | none =>
        let (id, supply) := supply.next
        (.ok (readAs text.toList id name), supply)

end Diagram

end ActivityFlow
