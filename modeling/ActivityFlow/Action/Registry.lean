import ActivityFlow.Action.Script
import ActivityFlow.OrderedMap

/-!
# The registry of actions

Handlers are registered under the names of the actions that they serve, and a later registration
under a name takes the place of an earlier one.

* `Maker` — builds a handler for each call.  It counts how often it was asked, and it may fail or
  decline.
* `Registration` — either one handler, shared by all calls, or a maker.
* `Registry.register`, `Registry.registerHandler` — the two ways in.  Both refuse a blank name, so
  no blank name is ever registered.
* `Registry.resolve` — the handler for a call, with what its maker reported.
-/

namespace ActivityFlow

/-- A maker of handlers, known by a tag.  What it makes may depend on how often it was asked. -/
structure Maker where
  tag : String
  make : Nat → Except Message (Option Handler)

namespace Script

/-- A handler that follows a script and is known by the script's tag. -/
def handler (script : Script) (name : String) : Handler where
  name := name
  tag := some script.tag
  function := none
  behaviour := script.behaviour

/-- A handler that wraps a function which follows a script. -/
def functionHandler (script : Script) (name : String) : Handler where
  name := name
  tag := none
  function := some "scripted"
  behaviour := script.behaviour

/-- The script of the handler that a maker builds when it is asked for the `n`-th time. -/
def numbered (script : Script) (n : Nat) : Script :=
  { script with tag := script.tag ++ "#" ++ toString n }

/-- The maker that builds a new handler with the same script each time. -/
def maker (script : Script) (name : String) : Maker where
  tag := script.tag
  make := fun n => .ok (some ((script.numbered n).handler name))

end Script

namespace Maker

/-- The maker that declines each time. -/
def declining (tag : String) : Maker :=
  ⟨tag, fun _ => .ok none⟩

/-- The maker that fails each time. -/
def failing (tag message : String) : Maker :=
  ⟨tag, fun _ => .error (.ok message)⟩

end Maker

/-- Where the handler of an action comes from. -/
inductive HandlerSource where
  | shared (handler : Handler)
  /-- A maker, with how often it was asked so far. -/
  | made (maker : Maker) (asked : Nat)

/-- What is registered under a name. -/
structure Registration where
  name : String
  source : HandlerSource
  metadata : List (String × Json)

/-- Whether all calls share one handler. -/
def Registration.isSingleton (r : Registration) : Bool :=
  match r.source with
  | .shared _ => true
  | .made _ _ => false

/-- The registrations in the order of their names' first appearance. -/
abbrev Registry := OrderedMap String Registration

/-- Why a registration is refused. -/
inductive RegistryError where
  | missingName
  | missingMaker
  | missingHandler
  deriving DecidableEq, Repr

/-- The message of an error. -/
def RegistryError.message : RegistryError → String
  | missingName => "action name is required"
  | missingMaker => "factory must be callable"
  | missingHandler => "handler is required"

/-- What came of a request for a handler: the handler or why there is none, and the reports. -/
structure Resolution where
  handler : Except Message (Option Handler)
  events : List Event

namespace Registry

/-- Register something under a name that is not blank. -/
def enter (registry : Registry) (name : String) (source : HandlerSource)
    (metadata : List (String × Json)) : Except RegistryError Registry :=
  if Text.blank name then .error .missingName
  else .ok (registry.put name ⟨name, source, metadata⟩)

/-- Register a maker.  The name is checked before the maker. -/
def register (registry : Registry) (name : String) (maker : Option Maker)
    (metadata : List (String × Json)) : Except RegistryError Registry :=
  match maker with
  | some maker => registry.enter name (.made maker 0) metadata
  | none => .error (if Text.blank name then .missingName else .missingMaker)

/-- The name under which a handler is registered: the one asked for, or else its own. -/
def nameFor (handler : Handler) (asName : Option String) : String :=
  match asName with
  | some name => if name = "" then handler.name else name
  | none => handler.name

/-- Register a handler that all calls share. -/
def registerHandler (registry : Registry) (handler : Option Handler) (asName : Option String)
    (metadata : List (String × Json)) : Except RegistryError Registry :=
  match handler with
  | some handler => registry.enter (nameFor handler asName) (.shared handler) metadata
  | none => .error .missingHandler

/-- Remove a name; answers whether it was registered. -/
def unregister (registry : Registry) (name : String) : Bool × Registry :=
  (registry.contains name, registry.erase name)

/-- The registered names in order. -/
def actions (registry : Registry) : List String :=
  registry.keys

/-- The handler for an action, on behalf of a workflow if there is one. -/
def resolve (registry : Registry) (name : String) (workflow : Option String) :
    Resolution × Registry :=
  match registry.get? name with
  | none => (⟨.ok none, []⟩, registry)
  | some registration => match registration.source with
    | .shared handler => (⟨.ok (some handler), []⟩, registry)
    | .made maker asked =>
      (⟨maker.make (asked + 1), [.asked maker.tag (asked + 1) workflow]⟩,
        registry.put name { registration with source := .made maker (asked + 1) })

/-- Whether two requests in a row are answered by the same handler, or both by none. -/
def resolvesToSame (registry : Registry) (name : String) :
    Except Message Bool × List Event × Registry :=
  let (first, registry) := registry.resolve name none
  match first.handler with
  | .error message => (.error message, first.events, registry)
  | .ok one =>
    let (second, registry) := registry.resolve name none
    let shared := (registry.get? name).any (·.isSingleton)
    (second.handler.map fun other => shared || (one.isNone && other.isNone),
      first.events ++ second.events, registry)

/-- Only a registration under a name that is not blank succeeds, and then it is the one found. -/
theorem get?_enter {registry entered : Registry} {name : String} {source : HandlerSource}
    {metadata : List (String × Json)}
    (h : registry.enter name source metadata = .ok entered) :
    Text.blank name = false ∧ entered.get? name = some ⟨name, source, metadata⟩ := by
  unfold enter at h
  split at h
  · exact absurd h (by simp)
  · rename_i hb
    simp only [Except.ok.injEq] at h
    exact ⟨by simpa using hb, by rw [← h, KeyedMap.get?_put_self]⟩

end Registry

/-! ## The default registry -/

/-- Which registry is the default of the process.  Registries are told apart by number. -/
structure DefaultRegistry where
  current : Option Nat
  /-- The number that the next new registry gets. -/
  next : Nat

namespace DefaultRegistry

/-- The default registry; if there is none, a new one becomes it. -/
def get (d : DefaultRegistry) : Nat × DefaultRegistry :=
  match d.current with
  | some number => (number, d)
  | none => (d.next, ⟨some d.next, d.next + 1⟩)

/-- Make a registry the default, or have none. -/
def set (d : DefaultRegistry) (number : Option Nat) : DefaultRegistry :=
  { d with current := number }

end DefaultRegistry

end ActivityFlow
