import ActivityFlow.Proofs.Controller.Standing

/-!
# What a refused operation leaves behind

An operation is refused because a text is missing or blank, because an id is missing or blank,
because nothing is stored under an id, or because a value chooses nothing and cannot be shown.  Ids
are looked at before anything is done, with one exception: an import stores its definition first,
and leaves it to the start of the instance to look at the id.  So an import under an id of blanks is
refused with its definition in the store (`refused_leaves_session`, `stray_import_is_stored`).  The
definition cannot be asked for, but it is listed.  Every other refusal leaves the whole session as it
was: definitions, instances and their variables, the persistence, the journal of the handlers and
those who are at work.
-/

namespace ActivityFlow.Story

open Controller

variable {π : Type}

/-- In a story no instance has to be started before a value is refused: who stands nowhere has no
    place to be started at. -/
lemma not_hasPlace_after (c : Controller π) (registry : Registry) (archive : π)
    (scenes : List Scene) {d : Definition}
    (stored : (after c registry archive scenes).session.state.Stores d)
    (hnowhere : nonEmpty? ((after c registry archive scenes).session.state.states.node?
      (some d.id)) = none) : ¬ HasPlace d := by
  have hd := (drawn_after c registry archive scenes).wellFormed stored
  have hholds := stands_after c registry archive scenes d stored
  have hknown := d.knownNode_of_holds hd hholds
  rw [knownNode, hnowhere] at hknown
  rw [← hknown] at hholds
  have hnodes : d.nodes = [] := hholds
  rintro (hstart | ⟨node, hnode⟩)
  · exact hstart (by rw [Definition.start?, d.declaredStart?_eq_none hd hnodes]; rfl)
  · rw [Definition.hasNode, Definition.node?, hnodes] at hnode
    exact absurd hnode (by simp)

/-- **An operation is answered with an error exactly if there is a reason to refuse it**, and with
    the error that says so. -/
theorem refused_iff (c : Controller π) (registry : Registry) (archive : π) (scenes : List Scene)
    (op : Operation) (e : ControllerError) :
    let s := (after c registry archive scenes).session
    (s.perform (op.routine c)).1 = some (.error e) ↔ op.refusal? s.state = some e := by
  intro s
  obtain ⟨answer, s', hperform, -, step⟩ :=
    perform_step c (orderly_after c registry archive scenes) op
  rw [hperform]
  cases step with
  | refused hrefusal hstray => simp [s, hrefusal]
  | stray hrefusal hstray => simp [s, hrefusal, eq_comm]
  | asked accepted hquestion still => simp [s, accepted]
  | imported accepted read usable stored resumed still => simp [s, accepted]
  | started stored resumed => simp [s, Operation.refusal?, stored.refusalOf_require]
  | restarted stored moved => simp [s, Operation.refusal?, stored.refusalOf_require]
  | stumbled stored accepted nowhere hplace resumed =>
      exact absurd hplace (not_hasPlace_after c registry archive scenes stored nowhere)
  | advanced stored accepted resumed course =>
      simp [s, Operation.refusal?, World.require_of_stores stored, accepted]

/-- **A refused operation changes nothing, unless it strays**; then exactly its definition is stored
    as well. -/
theorem refused_leaves_session (c : Controller π) (registry : Registry) (archive : π)
    (scenes : List Scene) (op : Operation) :
    let s := (after c registry archive scenes).session
    ∀ e s', s.perform (op.routine c) = (some (.error e), s') →
      (op.stray? = none → s' = s) ∧
        ∀ d, op.stray? = some d → s' = { s with state := s.state.storeDefinition d } := by
  intro s e s' h
  obtain ⟨answer, s₁, hperform, -, step⟩ :=
    perform_step c (orderly_after c registry archive scenes) op
  obtain ⟨rfl, rfl⟩ : answer = .error e ∧ s₁ = s' := by
    simpa using hperform.symm.trans h
  cases step with
  | refused hrefusal hstray =>
      exact ⟨fun _ => rfl, fun d hd => absurd (hstray.symm.trans hd) (by simp)⟩
  | stray hrefusal hstray =>
      refine ⟨fun hnone => absurd (hnone.symm.trans hstray) (by simp), fun d hd => ?_⟩
      obtain rfl := Option.some.inj (hstray.symm.trans hd)
      rfl
  | stumbled stored accepted nowhere hplace resumed =>
      exact absurd hplace (not_hasPlace_after c registry archive scenes stored nowhere)

/-- Nothing is stored under the id, so the session stays as it was. -/
theorem refused_leaves_session_unknown :
    let c : Controller Unit := ⟨.broken, .none⟩
    let op := Operation.start (some "tour")
    let s := (after c .empty () []).session
    ∃ e s', s.perform (op.routine c) = (some (.error e), s') ∧ s' = s := by
  intro c op s
  have hrequire : s.state.require (some "tour") = .error (.store (.unknownId (some "tour"))) := rfl
  have hperform : s.perform (op.routine c) = (some (.error _), s) :=
    perform_at_once (Routine.turn_map (turn_onWorkflow hrequire _) _) rfl
  exact ⟨_, s, hperform, (refused_leaves_session c .empty () [] op _ s hperform).1 rfl⟩

/-- A diagram is refused for its id of blanks, and yet it is listed from then on. -/
theorem stray_import_is_stored :
    let c : Controller Unit := ⟨.broken, .none⟩
    let op := Operation.importDiagram (some "start") (some " ") none
    let s := (after c .empty () []).session
    ∃ s', s.perform (op.routine c) = (some (.error (.state .missingId)), s') ∧
      s.state.definitions.ids = [] ∧ s'.state.definitions.ids = [" "] := by
  intro c op s
  exact ⟨_, perform_at_once (Routine.turn_map (turn_importDiagram_stray c rfl (by decide)) _) rfl,
    rfl, rfl⟩

end ActivityFlow.Story
