import ActivityFlow.Proofs.Action.Descriptor
import ActivityFlow.Proofs.Action.Sources
import ActivityFlow.Proofs.History
import ActivityFlow.Proofs.Routine.Interference

/-!
# Which handler an action is dispatched to

A registry is made by calls: makers, handlers and functions are registered, names are removed, and
every action that is executed looks for its handler.  What stands under a name is what the last
registration of the name put there, unless the name was removed since (`Registry.source?_after`).
A request for a handler counts, for a maker, how often it was asked, and nothing else.

**`dispatch_last_registration`** — a node that names a registered action is served by what was
registered last under that name.  The name has to be its own strip: a descriptor takes its action
without the blanks at either end, but a registry takes every name as it is, so what is registered
under a name with such blanks is listed and is never dispatched to
(`dispatch_misses_padded_name`).
-/

namespace ActivityFlow

/-! ## Calls to a registry -/

/-- A call to a registry. -/
inductive RegistryCall where
  | register (name : String) (maker : Option Maker) (metadata : List (String × Json))
  | registerHandler (handler : Option Handler) (asName : Option String)
      (metadata : List (String × Json))
  /-- Register a function, as a handler with the name of its action. -/
  | action (name function : String) (behaviour : Call → Behaviour)
  | unregister (name : String)
  | resolve (name : String) (workflow : Option String)

/-- The handler that a function is registered as. -/
def functionHandler (name function : String) (behaviour : Call → Behaviour) : Handler where
  name := name
  tag := none
  function := some function
  behaviour := behaviour

namespace Registry

/-- The registry behind a call; a call that is refused leaves it as it was. -/
def take (registry : Registry) : RegistryCall → Registry
  | .register name maker metadata =>
    (registry.register name maker metadata).toOption.getD registry
  | .registerHandler handler asName metadata =>
    (registry.registerHandler handler asName metadata).toOption.getD registry
  | .action name function behaviour =>
    (registry.registerHandler (some (functionHandler name function behaviour)) none
      []).toOption.getD registry
  | .unregister name => (registry.unregister name).2
  | .resolve name workflow => (registry.resolve name workflow).2

/-- The registry behind several calls. -/
def after (calls : List RegistryCall) : Registry :=
  calls.foldl take .empty

end Registry

namespace RegistryCall

/-- What is entered under a name; a blank name is refused. -/
def enters? (name : String) (source : HandlerSource) : Option (String × HandlerSource) :=
  if Text.blank name then none else some (name, source)

/-- The name under which a call registers something, and what it registers. -/
def registers? : RegistryCall → Option (String × HandlerSource)
  | register name (some maker) _ => enters? name (.made maker 0)
  | registerHandler (some handler) asName _ =>
    enters? (Registry.nameFor handler asName) (.shared handler)
  | action name function behaviour => enters? name (.shared (functionHandler name function behaviour))
  | _ => none

/-- What a call says of a name, if it says anything: what serves the name from then on, or that
    nothing does. -/
def tells? (name : String) (call : RegistryCall) : Option (Option HandlerSource) :=
  match call with
  | unregister other => if other = name then some none else none
  | call => (call.registers?.filter (·.1 = name)).map fun entry => some entry.2

lemma map_filter_enters? (name other : String) (source : HandlerSource) :
    ((enters? other source).filter (·.1 = name)).map (fun entry => some entry.2) =
      if Text.blank other = false ∧ other = name then some (some source) else none := by
  unfold enters?
  cases Text.blank other <;> by_cases he : other = name <;> simp [he]

end RegistryCall

/-- **What was registered last under a name**, unless the name was removed since. -/
def lastRegistration (name : String) (calls : List RegistryCall) : Option HandlerSource :=
  lastWord (RegistryCall.tells? name) calls

namespace Registry

/-- A call that enters a source, or is refused for its blank name. -/
lemma source?_take_enter {registry : Registry} {call : RegistryCall} {other : String}
    {source : HandlerSource} {metadata : List (String × Json)} (name : String)
    (htake : registry.take call = (registry.enter other source metadata).toOption.getD registry)
    (htells : call.tells? name = if Text.blank other = false ∧ other = name then some (some source)
      else none) :
    ∃ n, (registry.take call).source? name =
      match call.tells? name with
      | some source => source
      | none => (registry.source? name).map (·.asked n) := by
  refine ⟨0, ?_⟩
  rw [htake, htells, source?_enter]
  split
  · rfl
  · simp [HandlerSource.asked_zero]

/-- What a call leaves under a name: what the call says of it, or else what stood there, asked once
    more perhaps. -/
lemma source?_take (registry : Registry) (call : RegistryCall) (name : String) :
    ∃ n, (registry.take call).source? name =
      match call.tells? name with
      | some source => source
      | none => (registry.source? name).map (·.asked n) := by
  cases call with
  | register other maker metadata =>
    cases maker with
    | some maker => exact source?_take_enter name rfl (RegistryCall.map_filter_enters? ..)
    | none => exact ⟨0, by simp [take, register, Except.toOption, RegistryCall.tells?,
        RegistryCall.registers?]⟩
  | registerHandler handler asName metadata =>
    cases handler with
    | some handler => exact source?_take_enter name rfl (RegistryCall.map_filter_enters? ..)
    | none => exact ⟨0, by simp [take, registerHandler, Except.toOption, RegistryCall.tells?,
        RegistryCall.registers?]⟩
  | action other function behaviour =>
    exact source?_take_enter name rfl (RegistryCall.map_filter_enters? ..)
  | unregister other =>
    refine ⟨0, ?_⟩
    by_cases he : name = other
    · simp [take, unregister, source?, KeyedMap.get?_erase, RegistryCall.tells?, he]
    · simp [take, unregister, source?, KeyedMap.get?_erase, RegistryCall.tells?, he, Ne.symm he,
        Function.comp_def]
  | resolve other workflow =>
    have htells : (RegistryCall.resolve other workflow).tells? name = none := rfl
    rw [htells]
    exact registry.source?_resolve other workflow name

/-- **What stands under a name is what was registered last under it**, asked some times since. -/
theorem source?_after (calls : List RegistryCall) (name : String) :
    ∃ n, (after calls).source? name = (lastRegistration name calls).map (·.asked n) := by
  induction calls using List.reverseRecOn with
  | nil => exact ⟨0, rfl⟩
  | append_singleton calls call ih =>
    obtain ⟨m, hm⟩ := ih
    obtain ⟨n, hn⟩ := (after calls).source?_take call name
    rw [lastRegistration, lastWord_concat, ← lastRegistration, after, List.foldl_concat]
    change ∃ n, ((after calls).take call).source? name = _
    rw [hn, hm]
    cases call.tells? name with
    | some source => exact ⟨0, by cases source <;> simp [HandlerSource.asked_zero]⟩
    | none => exact ⟨m + n, by cases lastRegistration name calls <;>
        simp [HandlerSource.asked_asked]⟩

lemma mem_actions_iff {registry : Registry} {name : String} :
    name ∈ registry.actions ↔ (registry.source? name).isSome := by
  rw [source?, Option.isSome_map, KeyedMap.isSome_get?_iff]
  simp [actions]

end Registry

lemma RegistryCall.not_blank_of_tells? {call : RegistryCall} {name : String}
    {source : HandlerSource} (h : call.tells? name = some (some source)) :
    Text.blank name = false := by
  have hentry : ∀ {other : String} {entered : HandlerSource},
      ((enters? other entered).filter (·.1 = name)).map (fun entry => some entry.2)
        = some (some source) → Text.blank name = false := by
    intro other entered hmap
    rw [map_filter_enters?] at hmap
    split at hmap
    · rename_i hother
      exact hother.2 ▸ hother.1
    · exact absurd hmap (by simp)
  cases call with
  | register other maker metadata => cases maker with
    | some maker => exact hentry h
    | none => exact absurd h (by simp [tells?, registers?])
  | registerHandler handler asName metadata => cases handler with
    | some handler => exact hentry h
    | none => exact absurd h (by simp [tells?, registers?])
  | action other function behaviour => exact hentry h
  | unregister other =>
    rw [tells?] at h
    split at h <;> exact absurd h (by simp)
  | resolve other workflow => exact absurd h (by simp [tells?, registers?])

/-- Nothing is ever registered under a blank name. -/
lemma not_blank_of_lastRegistration {name : String} {calls : List RegistryCall}
    {source : HandlerSource} (h : lastRegistration name calls = some source) :
    Text.blank name = false := by
  obtain ⟨call, -, htells⟩ := List.exists_of_findSome?_eq_some (Option.join_eq_some_iff.mp h)
  exact call.not_blank_of_tells? htells

/-! ## Executing a node that names its action -/

namespace ScheduledCall

/-- A call whose handler is found: the handler works, and its ending is concluded. -/
def invoke (c : ScheduledCall) (handler : Handler) (number : Nat) :
    Routine ExecutionState (Except Json.TextError Outcome) := do
  c.conclude (← (handler.behaviour c.call).drive c.call.workflow
    (Watch.start number c.event c.limit))

/-- How the first turn of an execution ends once the handler was asked for: a handler is invoked,
    and without one there is nothing to wait for. -/
def served (c : ScheduledCall) (number : Nat) :
    Except Message (Option Handler) → Routine.TurnEnd ExecutionState (Except ExecutionError Outcome)
  | .ok (some handler) => .pause ((c.invoke handler number).map (Except.mapError .text))
  | .ok none => .done (.ok (c.outcome .skipped))
  | .error message => .done ((c.failed message).mapError .text)

lemma turn_run (c : ScheduledCall) (s : ExecutionState) :
    ((c.run.map (Except.mapError .text)).turn s).1 =
      c.served s.calls (s.resolve c.action c.call.workflow).1 := by
  have hcalls : (s.resolve c.action c.call.workflow).2.calls = s.calls := rfl
  have hresolve : (Routine.update (ExecutionState.resolve c.action c.call.workflow)).turn s =
      (.done (s.resolve c.action c.call.workflow).1, (s.resolve c.action c.call.workflow).2) :=
    Routine.turn_update _ s
  rw [run, Routine.map, Routine.bind_eq, Routine.bind_assoc, ← Routine.bind_eq,
    Routine.turn_bind hresolve, ← hcalls]
  -- the answer decides; what else the request left behind does not matter
  generalize (s.resolve c.action c.call.workflow).2 = s'
  rcases (s.resolve c.action c.call.workflow).1 with message | _ | handler <;> rfl

end ScheduledCall

lemma ofNode?_of_metadata {node : Node} {name : String}
    (h : node.metadata = some (Json.obj [("action", .str name)]).render)
    (hblank : Text.blank name = false) :
    Descriptor.ofNode? node = some ⟨Text.strip name, []⟩ := by
  have htextual : (Json.obj [("action", .str name)]).Textual :=
    .obj (by simp) (by simp [Json.Textual.str])
  rw [Descriptor.ofNode?_of_render htextual h, Descriptor.ofJson?_of_action rfl hblank]
  rfl

variable {options : Options} {q : Request} {node : Node} {name workflow : String}
  {s : ExecutionState}

lemma Request.descriptor?_of_node {d : Descriptor} (hnode : q.node = some node)
    (h : Descriptor.ofNode? node = some d) : q.descriptor? = some (node, d) := by
  simp [Request.descriptor?, hnode, h]

/-- An execution in the foreground is served by what stands under its action. -/
lemma turn_execute (hforeground : options.background = false) (hnode : q.node = some node)
    (haction : Descriptor.ofNode? node = some ⟨name, []⟩) (hworkflow : q.workflow = some workflow)
    (hblank : Text.blank workflow = false) {source : HandlerSource}
    (hsource : s.registry.source? name = some source) :
    ((execute options q).turn s).1 =
      ScheduledCall.served ⟨⟨workflow, node, []⟩, name, q.event, q.limit.getD options.limit⟩ s.calls
        source.yield := by
  have hcontains : s.registry.contains name = true := by
    rw [Registry.contains_eq_isSome_source?, hsource]
    rfl
  have husable : InstanceStates.usableId q.workflow = .ok workflow :=
    InstanceStates.usableId_eq_ok_iff.mpr ⟨hworkflow, hblank⟩
  rw [execute, Request.descriptor?_of_node hnode haction]
  dsimp only
  rw [Routine.turn_bind (Routine.turn_get s), if_pos hcontains, husable]
  dsimp only
  rw [Routine.turn_bind (Routine.turn_update (ExecutionState.bagOf workflow) s), dispatch,
    hforeground]
  -- making the instance leaves the registry alone
  have hbag : (s.bagOf workflow).2.registry.source? name = some source := hsource
  rw [← ExecutionState.resolve_eq hbag workflow]
  exact ScheduledCall.turn_run
    ⟨⟨workflow, node, []⟩, name, q.event, q.limit.getD options.limit⟩ (s.bagOf workflow).2

/-- Nothing stands under the action, so nothing is done. -/
lemma execute_of_unregistered (hnode : q.node = some node)
    (haction : Descriptor.ofNode? node = some ⟨name, []⟩) (hsource : s.registry.source? name = none) :
    (execute options q).turn s = (.done (.ok (q.skipped (some name))), s) := by
  have hcontains : ¬ s.registry.contains name = true := by
    simp [Registry.contains_eq_isSome_source?, hsource]
  rw [execute, Request.descriptor?_of_node hnode haction]
  dsimp only
  rw [Routine.turn_bind (Routine.turn_get s), if_neg hcontains]
  rfl

/-- **A node that names a registered action is served by what was registered last under the name**,
    if the name is its own strip.  That is a handler that was registered, or the handler that a
    maker builds when it is asked once more; it begins to work after the first turn. -/
theorem dispatch_last_registration (calls : List RegistryCall)
    (hlisted : name ∈ (Registry.after calls).actions) (hstrip : Text.strip name = name)
    (hregistry : s.registry = Registry.after calls) (hforeground : options.background = false)
    (hnode : q.node = some node)
    (hmetadata : node.metadata = some (Json.obj [("action", .str name)]).render)
    (hworkflow : q.workflow = some workflow) (hblank : Text.blank workflow = false) :
    ∃ source n, lastRegistration name calls = some source ∧
      ((execute options q).turn s).1 =
        ScheduledCall.served ⟨⟨workflow, node, []⟩, name, q.event, q.limit.getD options.limit⟩
          s.calls (source.asked n).yield := by
  obtain ⟨n, hafter⟩ := Registry.source?_after calls name
  rw [Registry.mem_actions_iff, hafter, Option.isSome_map, Option.isSome_iff_exists] at hlisted
  obtain ⟨source, hlast⟩ := hlisted
  have hsource : s.registry.source? name = some (source.asked n) := by
    rw [hregistry, hafter, hlast]
    rfl
  have haction := ofNode?_of_metadata hmetadata (not_blank_of_lastRegistration hlast)
  rw [hstrip] at haction
  exact ⟨source, n, hlast, turn_execute hforeground hnode haction hworkflow hblank hsource⟩

/-- A function takes the place of a maker, and the node is served by the function. -/
theorem dispatch_last_registration_replaced :
    let calls := [.register "greet" (some (.declining "maker")) [],
      .action "greet" "welcome" fun _ => .finish (.str "hello"), .unregister "part"]
    let node : Node := ⟨"N", some "N", some (Json.obj [("action", .str "greet")]).render, none⟩
    let s : ExecutionState := { ExecutionState.empty with registry := .after calls }
    ∃ source n, lastRegistration "greet" calls = some source ∧
      ((execute ⟨.unlimited, false⟩ ⟨some "w", some node, .absent, none⟩).turn s).1 =
        ScheduledCall.served ⟨⟨"w", node, []⟩, "greet", .absent, .unlimited⟩ 0
          (source.asked n).yield := by
  intro calls node s
  have hregistry : s.registry = .after calls := rfl
  have hmetadata : node.metadata = some (Json.obj [("action", .str "greet")]).render := rfl
  exact dispatch_last_registration calls (by decide) (by decide) hregistry rfl rfl hmetadata rfl
    (by decide)

/-- **A name with a blank at its end is listed and not dispatched to.**  The node names it as it was
    registered, and nothing is done. -/
theorem dispatch_misses_padded_name :
    let handler := functionHandler " greet " "welcome" fun _ => .finish (.str "hello")
    let calls := [RegistryCall.action " greet " "welcome" fun _ => .finish (.str "hello")]
    let node : Node := ⟨"N", some "N", some (Json.obj [("action", .str " greet ")]).render, none⟩
    let q : Request := ⟨some "w", some node, .absent, none⟩
    let s : ExecutionState := { ExecutionState.empty with registry := .after calls }
    " greet " ∈ (Registry.after calls).actions ∧
      lastRegistration " greet " calls = some (.shared handler) ∧
      (execute ⟨.unlimited, false⟩ q).turn s = (.done (.ok (q.skipped (some "greet"))), s) := by
  intro handler calls node q s
  have hmetadata : node.metadata = some (Json.obj [("action", .str " greet ")]).render := rfl
  have haction : Descriptor.ofNode? node = some ⟨"greet", []⟩ := by
    have hstrip : Text.strip " greet " = "greet" := by decide
    rw [ofNode?_of_metadata hmetadata (by decide), hstrip]
  exact ⟨by decide, rfl, execute_of_unregistered rfl haction (by decide)⟩

end ActivityFlow
