import ActivityFlow.Action.Handler

/-!
# Scripted handlers

A script is a list of instructions that makes up the behaviour of a handler.  The instructions fill
a result, which is what the handler ends with unless an instruction ends it before.

`Script.behaviour` is the behaviour of a script: the instructions in order, each of which either
passes a result on to the next or ends the handler.
-/

namespace ActivityFlow

/-- A key of a result: a text, or one of the constants. -/
inductive ResultKey where
  | text (name : String)
  | null
  | bool (value : Bool)
  deriving DecidableEq, Repr

/-- The text of a key. -/
def ResultKey.name : ResultKey → String
  | text name => name
  | null => Json.null.plain
  | bool value => (Json.bool value).plain

/-- An instruction of a script. -/
inductive Instruction where
  /-- Put a value into the result. -/
  | put (key : ResultKey) (value : Json)
  /-- Put all parameters of the call into the result. -/
  | echo
  /-- Put the value of a variable, or a default, into the result. -/
  | get (key : String) (default : Json) (into : String)
  /-- Write a variable at once. -/
  | set (key : String) (value : Json)
  /-- Report whether the call is cancelled. -/
  | cancelled
  /-- Cancel the call. -/
  | signal
  /-- Pause once. -/
  | tick
  /-- Wait; once stopped, report it and give up. -/
  | block
  /-- Wait; once stopped, report it and go on. -/
  | blockOnce
  /-- Fail with a text. -/
  | fail (text : String)
  /-- Give up. -/
  | giveUp
  /-- End with a value. -/
  | answer (value : Json)
  deriving Repr

/-- A script for handlers that are known by a tag. -/
structure Script where
  tag : String
  instructions : List Instruction
  deriving Repr

namespace Script

/-- A result. -/
abbrev Result := OrderedMap ResultKey Json

/-- The object that a result is for those who merge it. -/
def Result.toObject (result : Result) : Json :=
  .obj (result.entries.map fun entry => (entry.1.name, entry.2))

/-- The report of a handler that was waiting and is stopped. -/
def reportStop (tag : String) (next : Behaviour) : Behaviour :=
  .look fun cancelled => .report (.stopped tag cancelled) next

/-- What one instruction does, given what follows it. -/
def perform (tag : String) (call : Call) (result : Result) (next : Result → Behaviour) :
    Instruction → Behaviour
  | .put key value => next (result.put key value)
  | .echo => next (result.putAll (call.params.map fun param => (.text param.1, .str param.2)))
  | .get key default into => .read key default fun value => next (result.put (.text into) value)
  | .set key value => .write key value fun
    | none => next result
    | some refusal => .fail (.ok refusal.message)
  | .cancelled => .look fun flag => .report (.looked flag) (next result)
  | .signal => .signal (next result)
  | .tick => .pause (next result) .giveUp
  | .block => .wait (reportStop tag .giveUp)
  | .blockOnce => .wait (reportStop tag (next result))
  | .fail text => .fail (.ok text)
  | .giveUp => .giveUp
  | .answer value => .finish value

/-- What the instructions do, given the result so far. -/
def performAll (tag : String) (call : Call) : List Instruction → Result → Behaviour
  | [], result => .finish result.toObject
  | i :: rest, result => perform tag call result (performAll tag call rest) i

/-- The behaviour of a script: it reports its beginning and follows the instructions. -/
def behaviour (script : Script) (call : Call) : Behaviour :=
  .report (.began script.tag call.workflow call.node.id call.params)
    (performAll script.tag call script.instructions .empty)

end Script

end ActivityFlow
