import ActivityFlow.Json.Order
import ActivityFlow.OrderedMap
import ActivityFlow.Persistence.Interface

/-!
# Clients of a server of values and sets

The other side of a persistence that keeps its data elsewhere: a server with a flat space of keys,
each of which may hold a value or a set of values.  All that is seen of it is a client, to which
commands are given.

* `Client` — a client answers commands, at once or after some time.
* `Client.View` — what is to be seen through a client: the values and the sets under the keys.
* `Client.Laws` — what a persistence relies on: what every command does to values and sets, and what
  it replies.
* `Server` — a client that keeps everything itself.  It records the commands that it receives, and
  commands with chosen names fail, after they have been recorded.  **`Server.laws`** — it obeys the
  laws as long as no commands fail.

Values are kept as they were handed in.  Expiry is recorded with a command but nothing ever expires.
-/

namespace ActivityFlow

/-- A command to a server. -/
inductive Command where
  | ping
  | close
  | set (key : String) (value : Json)
  | setExpiring (key : String) (seconds : Int) (value : Json)
  | get (key : String)
  | delete (keys : List String)
  | addMember (key : String) (member : Json)
  | removeMember (key : String) (member : Json)
  | members (key : String)
  deriving BEq, Repr

/-- The name of a command. -/
def Command.name : Command → String
  | ping => "ping"
  | close => "aclose"
  | set .. => "set"
  | setExpiring .. => "setex"
  | get _ => "get"
  | delete _ => "delete"
  | addMember .. => "sadd"
  | removeMember .. => "srem"
  | members _ => "smembers"

/-- What a server answers. -/
inductive Reply where
  | ok
  | value (value : Option Json)
  | values (members : List Json)
  deriving BEq, Repr

namespace Reply

/-- The value in a reply. -/
def value? : Reply → Option Json
  | .value found => found
  | _ => none

/-- The members in a reply. -/
def members : Reply → List Json
  | .values found => found
  | _ => []

end Reply

/-! ## Clients -/

/-- A client with states in `κ`. -/
class Client (κ : Type) where
  /-- Send a command, and wait for the reply. -/
  sending : Command → Routine κ (Except PersistenceError Reply)

/-- The reply to a command and the state behind it, if nobody else sends anything meanwhile. -/
def Client.receive {κ : Type} [Client κ] (c : Command) : κ → Except PersistenceError Reply × κ :=
  (Client.sending c).run

/-- A set with one more member. -/
def insertMember (set : List Json) (member : Json) : List Json :=
  if set.any (Json.alike member) then set else set ++ [member]

/-- A set without a member. -/
def eraseMember (set : List Json) (member : Json) : List Json :=
  set.filter fun x => !member.alike x

/-- What is to be seen through a client. -/
structure Client.View (κ : Type) where
  /-- The states in which the client can be relied on. -/
  Works : κ → Prop
  /-- The value under a key. -/
  value? : κ → String → Option Json
  /-- The set under a key. -/
  set? : κ → String → Option (List Json)

/-- Whether a command is taken: the client works, and nothing of the wrong kind stands under the keys
of the command. -/
def Client.View.Takes {κ : Type} (v : View κ) (s : κ) (c : Command) : Prop :=
  v.Works s ∧ match c with
    | .set key _ | .setExpiring key _ _ | .get key => v.set? s key = none
    | .delete keys => ∀ key ∈ keys, v.set? s key = none
    | .addMember key _ | .removeMember key _ | .members key => v.value? s key = none
    | .ping | .close => True

/-- **The laws of a client.**  Every command that is taken is answered, and values and sets change as
they should.  A set is a list whose order is up to the server, and it does not matter whether a set
without members is there. -/
structure Client.Laws {κ : Type} [Client κ] (v : View κ) : Prop where
  works : ∀ {s c}, v.Takes s c → v.Works (receive c s).2
  replies : ∀ {s c}, v.Takes s c → ∃ reply, (receive c s).1 = .ok reply
  get : ∀ {s key}, v.Takes s (.get key) → (receive (.get key) s).1 = .ok (.value (v.value? s key))
  members : ∀ {s key}, v.Takes s (.members key) → ∃ found,
    (receive (.members key) s).1 = .ok (.values found) ∧ found.Perm ((v.set? s key).getD [])
  /-- Values are written and deleted, and nothing else happens to them. -/
  values : ∀ {s c}, v.Takes s c → ∀ key, v.value? (receive c s).2 key = match c with
    | .set written value | .setExpiring written _ value =>
      if key = written then some value else v.value? s key
    | .delete keys => if key ∈ keys then none else v.value? s key
    | _ => v.value? s key
  /-- A set gets a member. -/
  addMember : ∀ {s key member}, v.Takes s (.addMember key member) →
    ((v.set? (receive (.addMember key member) s).2 key).getD []).Perm
      (insertMember ((v.set? s key).getD []) member)
  /-- A set loses a member. -/
  removeMember : ∀ {s key member}, v.Takes s (.removeMember key member) →
    ((v.set? (receive (.removeMember key member) s).2 key).getD []).Perm
      (eraseMember ((v.set? s key).getD []) member)
  /-- Other sets are left alone. -/
  sets : ∀ {s c}, v.Takes s c → ∀ key,
    (∀ member, c ≠ .addMember key member ∧ c ≠ .removeMember key member) →
      v.set? (receive c s).2 key = v.set? s key

/-! ## A server -/

/-- What a server holds and has received. -/
structure Server where
  values : OrderedMap String Json
  sets : OrderedMap String (List Json)
  /-- The names of the commands that fail. -/
  failing : List String
  /-- The commands so far, in order. -/
  commands : List Command

namespace Server

/-- A server that holds the given data and fails on the named commands. -/
def ofData (texts : List (String × String)) (sets : List (String × List String))
    (failing : List String) : Server where
  values := .ofList (texts.map fun entry => (entry.1, .str entry.2))
  sets := .ofList (sets.map fun entry => (entry.1, (entry.2.map .str).foldl insertMember []))
  failing := failing
  commands := []

/-- The members of a set. -/
def membersOf (s : Server) (key : String) : List Json :=
  (s.sets.get? key).getD []

/-- What a command does to the data, and the reply. -/
def perform (s : Server) : Command → Reply × Server
  | .ping | .close => (.ok, s)
  | .set key value | .setExpiring key _ value => (.ok, { s with values := s.values.put key value })
  | .get key => (.value (s.values.get? key), s)
  | .delete keys => (.ok, { s with values := keys.foldl KeyedMap.erase s.values })
  | .addMember key member =>
    (.ok, { s with sets := s.sets.put key (insertMember (s.membersOf key) member) })
  | .removeMember key member =>
    (.ok, { s with sets := s.sets.put key (eraseMember (s.membersOf key) member) })
  | .members key => (.values (s.membersOf key), s)

/-- Receive a command: record it, and perform it unless commands of its name fail. -/
def receive (s : Server) (c : Command) : Except PersistenceError Reply × Server :=
  let s := { s with commands := s.commands ++ [c] }
  if c.name ∈ s.failing then (.error .unreachable, s)
  else
    let (reply, s) := s.perform c
    (.ok reply, s)

instance : Client Server where
  sending c := Routine.update fun s => s.receive c

/-- A command that does not fail is recorded and performed. -/
theorem receive_of_works {s : Server} (h : s.failing = []) (c : Command) :
    Client.receive c s =
      (.ok (s.perform c).1, { (s.perform c).2 with commands := s.commands ++ [c] }) := by
  change s.receive c = _
  cases c <;> simp [receive, h, perform, membersOf]

theorem get?_foldl_erase (keys : List String) (values : OrderedMap String Json) (key : String) :
    (keys.foldl KeyedMap.erase values).get? key = if key ∈ keys then none else values.get? key := by
  induction keys generalizing values with
  | nil => simp
  | cons first rest ih =>
    rw [List.foldl_cons, ih, KeyedMap.get?_erase]
    by_cases hrest : key ∈ rest
    · simp [hrest]
    · simp [hrest]

/-- A server can be relied on as long as no commands fail. -/
def view : Client.View Server where
  Works s := s.failing = []
  value? s := s.values.get?
  set? s := s.sets.get?

/-- **A server obeys the laws of a client.** -/
theorem laws : Client.Laws view where
  works {s c} h := by
    rw [receive_of_works h.1]
    cases c <;> exact h.1
  replies h := ⟨_, congrArg Prod.fst (receive_of_works h.1 _)⟩
  get h := congrArg Prod.fst (receive_of_works h.1 _)
  members h := ⟨_, congrArg Prod.fst (receive_of_works h.1 _), .refl _⟩
  values {s c} h key := by
    rw [receive_of_works h.1]
    cases c with
    | set written value | setExpiring written seconds value =>
      exact KeyedMap.get?_put s.values written key value
    | delete keys => exact get?_foldl_erase keys s.values key
    | _ => rfl
  addMember h := by
    rw [receive_of_works h.1]
    simp [view, perform, membersOf]
  removeMember h := by
    rw [receive_of_works h.1]
    simp [view, perform, membersOf]
  sets {s c} h key hother := by
    rw [receive_of_works h.1]
    cases c with
    | addMember changed member | removeMember changed member =>
      refine (KeyedMap.get?_put ..).trans (if_neg ?_)
      rintro rfl
      simpa using hother member
    | _ => rfl

end Server

end ActivityFlow
