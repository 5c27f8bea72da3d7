import ActivityFlow.Proofs.Controller.Holding
import ActivityFlow.Proofs.Controller.Within

/-!
# Workflows are isolated

All workflows of a controller share one store of definitions, one map of instances, one registry and
one persistence.  Still an operation that is about one workflow touches nothing of another, and two
operations that are about two workflows may change places.

In between the registry has counted for makers how often they were asked, the journal has other
reports, and the list of instances another order.  None of this is seen by an operation, and none of
it belongs to a workflow (`Holding`).

* `Controller.Step.untouched` — whoever else is at work, an operation leaves the definition, the node
  and the persisted data of every other workflow alone.
* `Controller.Settled.same_perform` — an operation that nobody comes between, performed in two
  sessions that its workflow cannot tell apart.
* **`Story.workflows_isolated`** — the theorem, after every list of scenes.

Handlers work with the variables of their own instance only, as behaviours have no means for anything
else.  But a handler that was left to the background may write while an operation on another workflow
waits for the persistence (`Story.background_writes_between`).  What is asked besides is that makers
build the same handler every time (`Registry.Steady`), and that the persistence keeps workflows
apart.
-/

namespace ActivityFlow

open Diagram Division

variable {π δ : Type}

/-! ## What is not touched -/

/-- Between two worlds a workflow has the same definition, its instance stands on the same node, and
    the same is kept for it. -/
structure World.Untouched (kept : String → π → δ) (id : String) (w w' : World π) : Prop where
  definition : w'.definitions.get? id = w.definitions.get? id
  node : w'.states.node? (some id) = w.states.node? (some id)
  kept : kept id w'.archive = kept id w.archive

namespace World

variable {kept : String → π → δ} {p : Persistence π} {d : Definition} {id other : String}
  {w w' w'' : World π}

lemma Untouched.trans (h : w.Untouched kept id w') (h' : w'.Untouched kept id w'') :
    w.Untouched kept id w'' :=
  ⟨h'.definition.trans h.definition, h'.node.trans h.node, h'.kept.trans h.kept⟩

lemma Unmoved.untouched (h : w.Unmoved w') (kept : String → π → δ) (id : String) :
    w.Untouched kept id w' :=
  ⟨by rw [h.definitions], h.node _, by rw [h.archive]⟩

lemma untouched_storeDefinition (hother : other ≠ d.id) (w : World π) :
    w.Untouched kept other (w.storeDefinition d) :=
  ⟨by rw [get?_storeDefinition, if_neg hother], rfl, rfl⟩

lemma untouched_place (hother : other ≠ id) (node : Option String) (w : World π) :
    w.Untouched kept other (w.place id node) := by
  refine ⟨rfl, ?_, rfl⟩
  cases hblank : Text.blank other with
  | true => simp [InstanceStates.node?, Text.blank?, hblank]
  | false => rw [node?_place w id other node hblank, if_neg hother]

lemma untouched_forget (hother : other ≠ id) (w : World π) : w.Untouched kept other (w.forget id) :=
  ⟨rfl, w.node?_forget_of_ne hother, rfl⟩

section

variable (hp : p.KeepsApart kept)
include hp

lemma untouched_move (hother : other ≠ id) (node : Option String) (w : World π) :
    w.Untouched kept other (w.move p id node) := by
  have hplaced : w.Untouched kept other (w.place id node) := untouched_place hother node w
  exact ⟨hplaced.definition, hplaced.node, (hp.update id node).others other w.archive hother⟩

lemma untouched_asking (hother : other ≠ id) (w : World π) :
    w.Untouched kept other (w.asking p id) :=
  ⟨rfl, rfl, (hp.load id).others other w.archive hother⟩

lemma Course.untouched (h : Course p d w w') (hother : other ≠ d.id) : w.Untouched kept other w' := by
  refine h.keeps (I := w.Untouched kept other) (fun still h => h.trans (still.untouched kept other))
    (fun _ h => h.trans (untouched_move hp hother _ _)) ⟨rfl, rfl, rfl⟩

lemma Resumed.untouched (h : Resumed p d w w') (hother : other ≠ d.id) : w.Untouched kept other w' := by
  cases h with
  | stayed known still => exact still.untouched kept other
  | recalled unknown known still =>
      exact ((untouched_asking hp hother w).trans (untouched_place hother _ _)).trans
        (still.untouched kept other)
  | begun unknown forgotten moved =>
      exact (untouched_asking hp hother w).trans (moved.course.untouched hp hother)

end

end World

namespace Operation

/-- What an import reads is about the workflow of which the id is given. -/
lemma id_of_read {text : String} {id name : Option String} {usedId : String}
    (hid : nonEmpty? id = some usedId) {supply supply' : IdSupply} {reading : Reading}
    (h : Diagram.read (some text) id name supply = (.ok reading, supply')) :
    reading.definition.id = usedId := by
  rcases read_cases (some text) id name supply with
    ⟨-, hread⟩ | ⟨given, id', supply₁, -, -, hread, ⟨hid', -⟩ | ⟨hnone, -⟩⟩
  · exact absurd (h.symm.trans hread) (by simp)
  · obtain ⟨rfl, -⟩ : reading = _ ∧ _ := by simpa using h.symm.trans hread
    exact Option.some.inj (hid'.symm.trans hid)
  · exact absurd (hid.symm.trans hnone) (by simp)

/-- What an import stores before it is refused is about the same workflow. -/
lemma id_of_stray? {op : Operation} {d : Definition} {id : String} (h : op.stray? = some d)
    (hid : op.subject? = some id) : d.id = id := by
  cases op with
  | importDiagram text given name => cases text with
    | none => exact absurd h (by simp [stray?])
    | some text =>
        rw [stray?] at h
        split at h
        · exact absurd h (by simp)
        · obtain ⟨usedId, husedId, rfl⟩ := Option.map_eq_some_iff.mp h
          exact Option.some.inj ((Option.filter_eq_some_iff.mp husedId).1.symm.trans hid)
  | _ => exact absurd h (by simp [stray?])

end Operation

namespace Controller

variable {c : Controller π} {kept : String → π → δ} {s s' : Session (World π)}

/-- **An operation leaves other workflows alone**, whoever else is at work: their definitions, their
    nodes, and what is kept for them. -/
theorem Step.untouched (hp : c.persistence.KeepsApart kept) {op : Operation}
    {answer : Except ControllerError Answer} (h : Step c s op answer s') {id other : String}
    (hid : op.subject? = some id) (hother : other ≠ id) :
    s.state.Untouched kept other s'.state := by
  cases h with
  | refused hrefusal hstray => exact ⟨rfl, rfl, rfl⟩
  | stray hrefusal hstray =>
      obtain rfl := Operation.id_of_stray? hstray hid
      exact World.untouched_storeDefinition hother _
  | asked accepted hquestion still => exact still.untouched kept other
  | @imported text given name reading supply w w' s' accepted read usable stored resumed still =>
      obtain rfl := Operation.id_of_read hid read
      have htold : w'.Untouched kept other (c.told reading.definition w') :=
        ⟨rfl, rfl, (hp.create _).others other w'.archive hother⟩
      exact ((((World.untouched_storeDefinition hother _).trans (stored.untouched kept other)).trans
        (resumed.untouched hp hother)).trans htold).trans (still.untouched kept other)
  | started stored resumed =>
      obtain rfl := Option.some.inj hid
      exact resumed.untouched hp hother
  | restarted stored moved =>
      obtain rfl := Option.some.inj hid
      exact (World.untouched_forget hother _).trans (moved.course.untouched hp hother)
  | stumbled stored accepted nowhere hplace resumed =>
      obtain rfl := Option.some.inj hid
      exact resumed.untouched hp hother
  | advanced stored accepted resumed course =>
      obtain rfl := Option.some.inj hid
      rcases resumed with rfl | resumed
      · exact course.untouched hp hother
      · exact (resumed.untouched hp hother).trans (course.untouched hp hother)

/-! ## What is seen of the other workflow -/

/-- Between operations everything that belongs to a workflow is sound. -/
lemma Settled.sound (hs : Settled c s) (hregistry : s.state.execution.registry.Steady)
    (kept : String → π → δ) (id : String) : (World.division kept).Sound id s.state :=
  ⟨hs.orderly.keyed id, hregistry⟩

/-- **An operation that nobody comes between is the same for its workflow** in two sessions that the
    workflow cannot tell apart.  It is answered in both, and other workflows have what they had. -/
theorem Settled.same_perform (hp : c.persistence.KeepsApart kept) (hc : c.Uninterrupted)
    (hs : Settled c s) (hs' : Settled c s') (hregistry : s.state.execution.registry.Steady)
    {op : Operation} {id : String} (hop : op.subject? = some id)
    (hagree : (World.division kept).Agree id s.state s'.state) :
    ∃ answer, (s.perform (op.routine c)).1 = some answer ∧
      (World.division kept).Same id Eq s.state s'.state
        ((s.perform (op.routine c)).1, (s.perform (op.routine c)).2.state)
        ((s'.perform (op.routine c)).1, (s'.perform (op.routine c)).2.state) := by
  obtain ⟨company, hperform, -⟩ := hs.perform_eq hc op
  obtain ⟨company', hperform', -⟩ := hs'.perform_eq hc op
  have hrun := serves_routine hp hop s.state s'.state (hs.sound hregistry kept id) hagree
  rw [hperform, hperform']
  -- the calls that are left for the background belong to no workflow
  exact ⟨_, rfl, congrArg some hrun.answer, hrun.share, ⟨hrun.left.share, hrun.left.common⟩,
    ⟨hrun.right.share, hrun.right.common⟩, hrun.sound⟩

end Controller

namespace Story

open Controller

/-- **Workflows are isolated.**  After any operations, let `p` be an operation that is about the
    workflow `a` and `q` one that is about another workflow `b`.  Behind `p` every other workflow
    has the definition, the node and the persisted data that it had.  And as long as nobody comes
    between the steps of an operation, it has the variables that it had, and `p` and `q` may change
    places: each comes to the same answer, and every workflow has the same behind both. -/
theorem workflows_isolated (c : Controller π) {kept : String → π → δ}
    (hp : c.persistence.KeepsApart kept) {registry : Registry} (hregistry : registry.Steady)
    (archive : π) (scenes : List Scene) {p q : Operation} {a b : String}
    (ha : p.subject? = some a) (hb : q.subject? = some b) (hab : a ≠ b) :
    let s := (after c registry archive scenes).session
    let behindP := s.perform (p.routine c)
    let behindQ := s.perform (q.routine c)
    let behindPQ := behindP.2.perform (q.routine c)
    let behindQP := behindQ.2.perform (p.routine c)
    (∀ other, other ≠ a → s.state.Untouched kept other behindP.2.state) ∧
      (c.Uninterrupted →
        (∀ other, other ≠ a →
          behindP.2.state.holding kept other = s.state.holding kept other) ∧
        (∃ answer, behindP.1 = some answer ∧ behindQP.1 = some answer) ∧
        (∃ answer, behindQ.1 = some answer ∧ behindPQ.1 = some answer) ∧
        ∀ id, behindPQ.2.state.holding kept id = behindQP.2.state.holding kept id) := by
  intro s behindP behindQ behindPQ behindQP
  obtain ⟨hs, hsources⟩ := settled_after c registry archive scenes
  have hsteady : s.state.execution.registry.Steady := by
    intro name source hfound
    exact hregistry name source (hsources ▸ hfound)
  refine ⟨fun other hother => ?_, fun hc => ?_⟩
  · obtain ⟨answer, s', hperform, -, step⟩ := perform_step c hs.orderly p
    rw [show behindP.2 = s' from congrArg Prod.snd hperform]
    exact step.untouched hp ha hother
  -- neither operation is seen by the workflow of the other
  · obtain ⟨answer, hanswer, hsameP⟩ := hs.same_perform hp hc hs hsteady ha (.refl _)
    obtain ⟨answer', hanswer', hsameQ⟩ := hs.same_perform hp hc hs hsteady hb (.refl _)
    obtain ⟨-, -, hone⟩ :=
      hs.same_perform hp hc (hs.behind q).1 hsteady ha (hsameQ.left.agree hab)
    obtain ⟨-, -, hother⟩ :=
      hs.same_perform hp hc (hs.behind p).1 hsteady hb (hsameP.left.agree hab.symm)
    obtain ⟨hanswers, hanswers', hshares⟩ := Same.commute hab (x := (behindP.1, behindP.2.state))
      (y := (behindQ.1, behindQ.2.state)) hone hother
    exact ⟨hsameP.left.share, ⟨answer, hanswer, hanswers.symm.trans hanswer⟩,
      ⟨answer', hanswer', hanswers'.symm.trans hanswer'⟩, hshares⟩

/-- Two tours over a server, with ids that look alike.  The handlers of an action are numbered across
    both.  One tour is moved on, and the other is drawn anew. -/
theorem workflows_isolated_tours :
    let k : Keyspace := ⟨"flow", 0, false⟩
    let c : Controller (Link Server) := ⟨.working ⟨.unlimited, false⟩, k.persistence⟩
    let script : Script := ⟨"guide", [.get "seen" (.int 0) "before", .set "seen" (.int 1)]⟩
    let registry : Registry :=
      (KeyedMap.put .empty "greet" ⟨"greet", .made (script.maker "greet") 0, []⟩).put "part"
        ⟨"part", .shared (script.handler "part"), []⟩
    let archive : Link Server := ⟨true, .ofData [] [] []⟩
    let text := "start\n:Museum;\nnote right\n\x7b\"action\": \"greet\"\x7d\nend note\n:Park;"
    let scenes := [.ask (.importDiagram (some text) (some "tour") none),
      .ask (.importDiagram (some text) (some "tour:2") none)]
    let s := (after c registry archive scenes).session
    let behindP := s.perform ((Operation.advance (some "tour") .null).routine c)
    let q : Operation := .importDiagram (some (text ++ "\n:Castle;")) (some "tour:2") none
    let behindQ := s.perform (q.routine c)
    let behindPQ := behindP.2.perform (q.routine c)
    let behindQP := behindQ.2.perform ((Operation.advance (some "tour") .null).routine c)
    registry.Steady ∧ c.Uninterrupted ∧
      (∀ other, other ≠ "tour" → s.state.Untouched k.kept other behindP.2.state) ∧
      (∀ other, other ≠ "tour" →
        behindP.2.state.holding k.kept other = s.state.holding k.kept other) ∧
      (∃ answer, behindP.1 = some answer ∧ behindQP.1 = some answer) ∧
      (∃ answer, behindQ.1 = some answer ∧ behindPQ.1 = some answer) ∧
      ∀ id, behindPQ.2.state.holding k.kept id = behindQP.2.state.holding k.kept id := by
  intro k c script registry archive text scenes s behindP q behindQ behindPQ behindQP
  have hregistry : registry.Steady := by
    refine Registry.Steady.put (Registry.steady_empty.put "greet" _ ?_) "part" _ ?_
    · exact script.steady_maker "greet" 0
    · exact HandlerSource.steady_shared _
  have hc : c.Uninterrupted := .inl (waits_of_engine rfl)
  have hp : (Operation.advance (some "tour") .null).subject? = some "tour" := rfl
  have hq : q.subject? = some "tour:2" := rfl
  obtain ⟨huntouched, hisolated⟩ :=
    workflows_isolated c k.keepsApart hregistry archive scenes hp hq (by decide)
  exact ⟨hregistry, hc, huntouched, hisolated hc⟩

/-- A handler of one workflow was left to the background, and writes while another is imported. -/
theorem background_writes_between :
    let c : Controller ℕ := ⟨.working ⟨.unlimited, true⟩, hesitant⟩
    let p : Operation := .importDiagram (some ":Castle;") (some "a") none
    let s := (after c greeting 0
      [.ask (.importDiagram (some greetingText) (some "b") none)]).session
    let behindP := (s.perform (p.routine c)).2
    c.persistence.KeepsApart (fun _ _ => ()) ∧ greeting.Steady ∧ p.subject? = some "a" ∧
      s.state.hasVariable "b" "x" = false ∧ behindP.state.hasVariable "b" "x" = true ∧
      behindP.state.holding (fun _ _ => ()) "b" ≠ s.state.holding (fun _ _ => ()) "b" := by
  intro c p s behindP
  have hbefore : s.state.hasVariable "b" "x" = false :=
    after_of_within (f := fun story => story.session.state.hasVariable "b" "x") 20
      (by decide +kernel)
  have hbehind : behindP.state.hasVariable "b" "x" = true := by
    rw [show behindP = _ from (session_after_ask c greeting 0 _ p).symm]
    exact after_of_within (f := fun story => story.session.state.hasVariable "b" "x") 20
      (by decide +kernel)
  have hload (id : String) (answers : ℕ) : (hesitant.load id answers).1 = .ok none :=
    congrArg Prod.fst (run_hesitantly none answers)
  refine ⟨⟨fun id _ _ _ => (hload id _).trans (hload id _).symm, ?_, ?_, ?_⟩, ?_, rfl, hbefore,
    hbehind, fun hholding => ?_⟩
  · exact fun _ => ⟨fun _ _ _ => rfl, fun _ _ _ => rfl⟩
  · exact fun _ _ => ⟨fun _ _ _ => rfl, fun _ _ _ => rfl⟩
  · exact fun _ => ⟨fun _ _ _ => rfl, fun _ _ _ => rfl⟩
  · exact Registry.steady_empty.put "greet" _ (HandlerSource.steady_shared _)
  · have hstate : behindP.state.states.get? "b" = s.state.states.get? "b" :=
      congrArg Holding.state hholding
    have hsame : behindP.state.hasVariable "b" "x" = s.state.hasVariable "b" "x" := by
      rw [World.hasVariable, World.hasVariable, InstanceStates.stateOf, hstate]
      rfl
    exact absurd (hbehind.symm.trans (hsame.trans hbefore)) (by simp)

end Story

end ActivityFlow
