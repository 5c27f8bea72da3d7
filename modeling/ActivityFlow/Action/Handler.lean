import ActivityFlow.Graph.Definition
import ActivityFlow.Instance.Operations
import ActivityFlow.Json.Display
import ActivityFlow.Text.Quoted

/-!
# Handlers

A handler does the work of an action.  It may read and write the variables of its instance, or do
with them whatever a bag of variables offers.  It may look whether its call is cancelled, pause,
wait for something that never comes unless it is stopped, and end with a value, with an error, or by
giving up.

* `Behaviour` — what a handler does, as a tree.  Where the outside has a say, a branch follows for
  each thing that it may say: the value of a variable, the outcome of a write or of another operation
  on the bag, what the bag lists, whether the call is cancelled, whether the handler goes on after a
  pause or is stopped.
* `Handler` — a behaviour for each call, with the names under which a handler is known.
* `Event` — what handlers and their makers report of themselves.

Nothing is assumed about a handler that is stopped: it may clean up, write, pause and end in any
way that is open to it otherwise.
-/

namespace ActivityFlow

/-- A call of a handler. -/
structure Call where
  workflow : String
  node : Node
  params : List (String × String)

/-- A report of a handler, or of the maker of one. -/
inductive Event where
  /-- A maker was asked for a handler; the calls are counted from one. -/
  | asked (tag : String) (call : Nat) (workflow : Option String)
  /-- A handler began to work. -/
  | began (tag workflow node : String) (params : List (String × String))
  /-- A handler looked whether its call is cancelled. -/
  | looked (cancelled : Bool)
  /-- A handler that was waiting was stopped. -/
  | stopped (tag : String) (cancelled : Bool)
  deriving DecidableEq, Repr

/-- The message of an error, which cannot always be shown. -/
abbrev Message := Except Json.TextError String

/-- What a handler does. -/
inductive Behaviour where
  /-- End with a value.  The fields of an object stand under the texts of its keys; keys that are no
  texts themselves may give several fields one name. -/
  | finish (value : Json)
  | fail (message : Message)
  /-- Give up, as a handler does that takes itself for cancelled. -/
  | giveUp
  | read (key : String) (default : Json) (next : Json → Behaviour)
  | write (key : String) (value : Json) (next : Option StateError → Behaviour)
  /-- Do something with the bag of variables. -/
  | use (operation : BagOperation)
    (next : Except VariableBag.BagError (Option Json) → Behaviour)
  /-- List the variables. -/
  | list (next : List (String × Json) → Behaviour)
  | report (event : Event) (next : Behaviour)
  /-- Look whether the call is cancelled. -/
  | look (next : Bool → Behaviour)
  /-- Cancel the call from the inside. -/
  | signal (next : Behaviour)
  | pause (resumed stopped : Behaviour)
  /-- Wait until stopped. -/
  | wait (stopped : Behaviour)

/-- A handler. -/
structure Handler where
  /-- The name that the handler has for itself. -/
  name : String
  /-- The mark by which its reports are told from those of others. -/
  tag : Option String
  /-- The name of the function that the handler wraps, if it wraps one. -/
  function : Option String
  behaviour : Call → Behaviour

namespace Handler

/-- The handler that does nothing of its own; asked to work, it fails without a word. -/
def unimplemented : Handler where
  name := ""
  tag := none
  function := none
  behaviour := fun _ => .fail (.ok "")

/-- A text in quotes. -/
def quote (text : String) : String :=
  String.ofList (Text.quoted text.toList)

/-- How a handler that wraps a function is described. -/
def describe (h : Handler) : Option String :=
  h.function.map fun function =>
    "FunctionActionHandler(name=" ++ quote h.name ++ ", func=" ++ quote function ++ ")"

end Handler

end ActivityFlow
