import ActivityFlow.Graph.Definition
import ActivityFlow.OrderedMap
import ActivityFlow.Text.Blank

/-!
# The store of definitions

Definitions are kept under their ids, a later one in place of an earlier one.  A definition can only
be asked for by an id that is neither missing nor blank, whatever ids the stored definitions have.
-/

namespace ActivityFlow

/-- The definitions that are stored. -/
abbrev DefinitionStore := OrderedMap String Definition

/-- Why an operation on the store is refused. -/
inductive StoreError where
  | missingDefinition
  /-- No definition is stored under the id; a missing id shows as `None`. -/
  | unknownId (id : Option String)
  deriving DecidableEq, Repr

/-- The message of an error. -/
def StoreError.message : StoreError → String
  | missingDefinition => "definition is required"
  | unknownId id => "Unknown workflow id: " ++ id.getD "None"

namespace DefinitionStore

/-- Store a definition under its id. -/
def store (s : DefinitionStore) (d : Definition) : DefinitionStore :=
  s.put d.id d

/-- Store a definition that may be missing. -/
def store? (s : DefinitionStore) (d : Option Definition) : Except StoreError DefinitionStore :=
  match d with
  | some d => .ok (s.store d)
  | none => .error .missingDefinition

/-- The definition under an id. -/
def find? (s : DefinitionStore) (id : Option String) : Option Definition :=
  match id with
  | some id => if Text.blank id then none else s.get? id
  | none => none

/-- The definition under an id that has to be there. -/
def require (s : DefinitionStore) (id : Option String) : Except StoreError Definition :=
  match s.find? id with
  | some d => .ok d
  | none => .error (.unknownId id)

/-- Whether a definition can be asked for by an id. -/
def has (s : DefinitionStore) (id : Option String) : Bool :=
  (s.find? id).isSome

/-- Remove what is stored under an id; answers whether anything was. -/
def remove (s : DefinitionStore) (id : Option String) : Bool × DefinitionStore :=
  match id with
  | some id => (s.contains id, s.erase id)
  | none => (false, s)

/-- The ids of the stored definitions in order. -/
def ids (s : DefinitionStore) : List String :=
  s.keys

end DefinitionStore

end ActivityFlow
