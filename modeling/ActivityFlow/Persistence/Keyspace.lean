import ActivityFlow.Json.Display
import ActivityFlow.Persistence.Server

/-!
# Persistence on a server

Checkpoints and current nodes on a server of values and sets.  All of a persistence lives under one
root, and for a workflow `id` there are two keys and an entry in an index.  An id is a text, but any
other value may serve as one; in a key it stands as it would in a sentence.

* `root:definition:id` — the checkpoint as JSON text.
* `root:current:id` — the current node, absent when there is none.
* `root:index:definitions` — the set of the ids that have a checkpoint.

**Order of the commands.**  A checkpoint is written first, then entered into the index, and its
current node comes last.  When a command fails nothing behind it is sent.  A checkpoint without a
current node leaves an older pointer where it is.
-/

namespace ActivityFlow

/-- Where a persistence keeps its data on a server, and for how long. -/
structure Keyspace where
  root : String
  /-- After how many seconds a text expires; zero stands for never. -/
  lifetime : Int
  /-- Whether the server answers with bytes, whose encoding has to be found out. -/
  bytes : Bool
  deriving Repr

/-- A client, and whether there is a connection to it. -/
structure Link (κ : Type) where
  connected : Bool
  server : κ

/-- The link with another state of the client. -/
def Link.withServer {κ : Type} (server : κ) (link : Link κ) : Link κ :=
  { link with server := server }

/-- Work on a server, which may fail halfway and keeps what was done until then. -/
abbrev Remote (κ : Type) := ExceptT PersistenceError (Routine (Link κ))

variable {κ : Type} [Client κ]

namespace Remote

/-- Send a command, if there is a connection. -/
def send (c : Command) : Remote κ Reply := do
  let link : Link κ ← ExceptT.lift Routine.get
  if link.connected then
    ExceptT.mk (Routine.zoom Link.server Link.withServer (Client.sending c))
  else throw .notConnected

/-- See whether the server answers.  Without a connection there is nobody to ask. -/
def connect : Remote κ Unit := do
  discard (send .ping)

/-- Close the connection, if there is one. -/
def disconnect : Remote κ Unit := do
  let link : Link κ ← ExceptT.lift Routine.get
  if link.connected then
    discard (send .close)
    ExceptT.lift (Routine.modify fun link => { link with connected := false })

end Remote

namespace Keyspace

/-- The key of a checkpoint. -/
def definitionKey (k : Keyspace) (id : String) : String :=
  k.root ++ ":definition:" ++ id

/-- The key of a current node. -/
def currentKey (k : Keyspace) (id : String) : String :=
  k.root ++ ":current:" ++ id

/-- The key of the index. -/
def indexKey (k : Keyspace) : String :=
  k.root ++ ":index:definitions"

theorem definitionKey_injective (k : Keyspace) {id other : String}
    (h : k.definitionKey id = k.definitionKey other) : id = other := by
  simpa [definitionKey, ← String.toList_inj] using h

theorem currentKey_injective (k : Keyspace) {id other : String}
    (h : k.currentKey id = k.currentKey other) : id = other := by
  simpa [currentKey, ← String.toList_inj] using h

/-- Whatever the ids, a checkpoint and a current node never share a key. -/
theorem definitionKey_ne_currentKey (k : Keyspace) (id other : String) :
    k.definitionKey id ≠ k.currentKey other := by
  simp [definitionKey, currentKey, ← String.toList_inj]

/-- The command that writes a value. -/
def writing (k : Keyspace) (key : String) (value : Json) : Command :=
  if k.lifetime = 0 then .set key value else .setExpiring key k.lifetime value

/-- Whether a value is there but says nothing: null, false, zero, or without content. -/
def isVoid : Json → Bool
  | .null | .bool false | .int 0 | .str "" | .arr [] | .obj [] => true
  | .real (.finite _ 0 _) => true
  | _ => false

/-- The value of a field, if the field is there and says something. -/
def fieldValue? (name : String) (fields : List (String × Json)) : Option Json :=
  (Json.getField? name fields).filter fun value => !isVoid value

/-- Keep a checkpoint that is given by its fields. -/
def createFields (k : Keyspace) (fields : List (String × Json)) : Remote κ Unit := do
  match fieldValue? "id" fields with
  | none => throw .missingId
  | some id =>
    let text := Json.str (Json.obj fields).render
    discard (Remote.send (k.writing (k.definitionKey id.plain) text))
    discard (Remote.send (.addMember k.indexKey id))
    match fieldValue? "current_node_id" fields with
    | some node => discard (Remote.send (k.writing (k.currentKey id.plain) node))
    | none => pure ()

/-- Keep a checkpoint. -/
def create (k : Keyspace) (c : Checkpoint) : Remote κ Unit :=
  k.createFields c.toFields

/-- The characters of a JSON text as it arrives. -/
def characters (k : Keyspace) (text : String) : Except PersistenceError (List Char) :=
  if k.bytes then (Text.Encoding.reread text).mapError .undecodable else .ok text.toList

/-- The value of a JSON text as it arrives. -/
def readText (k : Keyspace) (text : String) : Except PersistenceError Json := do
  (Json.read (← k.characters text)).mapError .unreadable

/-- The checkpoint of a workflow; an empty text counts as none. -/
def load (k : Keyspace) (id : Json) : Remote κ (Option Json) := do
  match (← Remote.send (.get (k.definitionKey id.plain))).value? with
  | some (.str text) =>
    if text = "" then return none else return some (← ExceptT.mk (pure (k.readText text)))
  | _ => return none

/-- The current node of a workflow. -/
def loadCurrent (k : Keyspace) (id : Json) : Remote κ (Option Json) := do
  return (← Remote.send (.get (k.currentKey id.plain))).value?

/-- Keep the current node of a workflow; a node that says nothing takes the pointer away. -/
def updateCurrent (k : Keyspace) (id node : Json) : Remote κ Unit := do
  if isVoid node then discard (Remote.send (.delete [k.currentKey id.plain]))
  else discard (Remote.send (k.writing (k.currentKey id.plain) node))

/-- Forget a workflow. -/
def delete (k : Keyspace) (id : Json) : Remote κ Unit := do
  discard (Remote.send (.delete [k.definitionKey id.plain, k.currentKey id.plain]))
  discard (Remote.send (.removeMember k.indexKey id))

/-- The ids that have a checkpoint, sorted. -/
def list (k : Keyspace) : Remote κ (List Json) := do
  return (← Remote.send (.members k.indexKey)).members.mergeSort Json.atMost

/-- The keyspace as a persistence. -/
def persistence (k : Keyspace) : Persistence (Link κ) where
  loading := fun id => (k.loadCurrent (.str id)).run.map <| Except.map fun node =>
    node.bind Json.string?
  updating := fun id node => (k.updateCurrent (.str id) (.ofOption node)).run
  creating := fun c => (k.create c).run

end Keyspace

end ActivityFlow
