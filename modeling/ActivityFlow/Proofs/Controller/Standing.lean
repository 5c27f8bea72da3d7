import ActivityFlow.Persistence.Recorder
import ActivityFlow.Proofs.Controller.Story

/-!
# An instance never leaves its graph

An instance comes to its node in many ways: it is kept where it stood by an import that replaces
its definition, recalled by the persistence, placed on a beginning that may lie behind the declared
one, moved along a chosen transition, or moved on behind an action.  After every operation it
stands on a node of the definition that is stored *then* (`World.Stands`), and it stands nowhere
only if that definition has no nodes.

Within an operation this may fail for the one instance that is worked on (`World.StandsBut`): a
definition is stored before the import looks where the instance stands, and a restart forgets the
instance first.  The first move makes up for it, since definitions are well formed and so a stop is
a node (`holds_of_stop`).

* **`Story.stands_on_node`** — the theorem, for every list of scenes.
-/

namespace ActivityFlow

open Diagram Controller

variable {π : Type}

namespace Definition

/-- A place of an instance: one of the nodes, or nowhere if there are none. -/
def Holds (d : Definition) : Option String → Prop
  | some node => d.hasNode node = true
  | none => d.nodes = []

variable {d : Definition}

lemma eq_none_iff_of_holds {node : Option String} (h : d.Holds node) :
    node = none ↔ d.nodes = [] := by
  cases node with
  | none => exact iff_of_true rfl h
  | some node =>
      refine iff_of_false (by simp) fun hnodes => ?_
      rw [Holds, hasNode, node?, hnodes] at h
      exact absurd h (by simp)

lemma mem_ids_iff {id : String} : id ∈ d.ids ↔ d.hasNode id = true := by
  rw [hasNode_iff, ids, List.mem_map]

lemma declaredStart?_cases (h : d.WellFormed) :
    (d.nodes = [] ∧ d.declaredStart? = none) ∨ ∃ id ∈ d.ids, d.declaredStart? = some id := by
  unfold declaredStart?
  split
  · rename_i point rest hpoints
    exact .inr ⟨point.node, h.starts point (by simp [hpoints]), rfl⟩
  · rename_i node rest hpoints hnodes
    exact .inr ⟨node.id, by simp [ids, hnodes], rfl⟩
  · rename_i hpoints hnodes
    exact .inl ⟨hnodes, rfl⟩

/-- **Wherever an instance may be moved to, its definition holds it.** -/
theorem holds_of_stop (h : d.WellFormed) {node : Option String} (hstop : d.Stop node) :
    d.Holds node := by
  rcases hstop with rfl | ⟨t, ht, rfl⟩
  · rcases declaredStart?_cases h with ⟨hnodes, hnone⟩ | ⟨id, hid, hsome⟩
    · rw [start?, hnone]
      exact hnodes
    · rw [start?, hsome, Option.map_some]
      split
      · rename_i only honly
        have hmem : only ∈ d.outgoing id := by simp [honly]
        exact mem_ids_iff.mp (h.ends only (mem_outgoing.mp hmem).1).2
      · exact mem_ids_iff.mp hid
  · exact mem_ids_iff.mp (h.ends t ht).2

lemma declaredStart?_eq_none (h : d.WellFormed) (hnodes : d.nodes = []) :
    d.declaredStart? = none := by
  rcases declaredStart?_cases h with ⟨-, hnone⟩ | ⟨id, hid, -⟩
  · exact hnone
  · exact absurd hid (by simp [ids, hnodes])

lemma holds_of_knownNode {node : Option String} {known : String}
    (h : knownNode d node = some known) : node = some known ∧ d.Holds (some known) := by
  obtain ⟨hnode, hhas⟩ := Option.filter_eq_some_iff.mp h
  exact ⟨(Option.filter_eq_some_iff.mp hnode).1, hhas⟩

/-- A place of an instance is known to its definition, since no node has an empty name. -/
lemma knownNode_of_holds (h : d.WellFormed) {node : Option String} (hholds : d.Holds node) :
    knownNode d node = node := by
  cases node with
  | none => rfl
  | some node =>
      have hne : node ≠ "" := h.nonempty node (mem_ids_iff.mpr hholds)
      have hnonEmpty : nonEmpty? (some node) = some node :=
        Option.filter_eq_some_iff.mpr ⟨rfl, by simpa using hne⟩
      rw [knownNode, hnonEmpty]
      exact Option.filter_eq_some_iff.mpr ⟨rfl, hholds⟩

end Definition

namespace World

/-- Every instance stands in its definition. -/
def Stands (w : World π) : Prop :=
  ∀ d, w.Stores d → d.Holds (w.states.node? (some d.id))

/-- Every instance but one stands in its definition. -/
def StandsBut (id : String) (w : World π) : Prop :=
  ∀ d, w.Stores d → d.id ≠ id → d.Holds (w.states.node? (some d.id))

variable {p : Persistence π} {d : Definition} {w w' : World π}

lemma Stands.but (h : w.Stands) (id : String) : w.StandsBut id :=
  fun d stores _ => h d stores

lemma StandsBut.congr {id : String} (h : w.StandsBut id) (hdefs : w'.definitions = w.definitions)
    (hnode : ∀ other, other ≠ id → w'.states.node? (some other) = w.states.node? (some other)) :
    w'.StandsBut id := by
  intro d stores hid
  rw [hnode d.id hid]
  exact h d (stores.of_definitions_eq hdefs.symm) hid

lemma Stands.congr (h : w.Stands) (hdefs : w'.definitions = w.definitions)
    (hnode : ∀ id, w'.states.node? id = w.states.node? id) : w'.Stands := by
  intro d stores
  rw [hnode]
  exact h d (stores.of_definitions_eq hdefs.symm)

lemma Stands.of_unmoved (still : w.Unmoved w') (h : w.Stands) : w'.Stands :=
  h.congr still.definitions still.node

lemma StandsBut.of_unmoved {id : String} (still : w.Unmoved w') (h : w.StandsBut id) :
    w'.StandsBut id :=
  h.congr still.definitions fun _ _ => still.node _

lemma Stores.of_unmoved (still : w.Unmoved w') (h : w.Stores d) : w'.Stores d :=
  h.of_definitions_eq still.definitions

/-- Who is placed where its definition holds it stands there. -/
lemma StandsBut.place (h : w.StandsBut d.id) (stores : w.Stores d) {node : Option String}
    (hholds : d.Holds node) : (w.place d.id node).Stands := by
  intro d' stores'
  have hold : w.Stores d' := stores'.of_definitions_eq rfl
  rw [node?_place _ _ _ _ stores'.usable]
  split
  · rename_i hid
    rw [stores.eq_of_id_eq hold hid]
    exact hholds
  · rename_i hid
    exact h d' hold hid

lemma StandsBut.move (h : w.StandsBut d.id) (stores : w.Stores d) {node : Option String}
    (hholds : d.Holds node) : (w.move p d.id node).Stands :=
  (h.place stores hholds).congr rfl fun _ => rfl

lemma Course.stands (course : Course p d w w') (hd : d.WellFormed) (stores : w.Stores d)
    (h : w.Stands) : w'.Stands := by
  refine (course.keeps (I := fun w => w.Stores d ∧ w.Stands) ?_ ?_ ⟨stores, h⟩).2
  · exact fun still hw => ⟨hw.1.of_unmoved still, hw.2.of_unmoved still⟩
  · exact fun stop hw => ⟨hw.1.of_definitions_eq rfl,
      (hw.2.but d.id).move hw.1 (d.holds_of_stop hd stop)⟩

/-- The first move brings an instance into its definition. -/
lemma Moved.stands (moved : Moved p d w w') (hd : d.WellFormed) (stores : w.Stores d)
    (h : w.StandsBut d.id) : w'.Stands := by
  obtain ⟨node, w₁, still, stop, course⟩ := moved
  have stores₁ := stores.of_unmoved still
  exact course.stands hd (stores₁.of_definitions_eq rfl)
    ((h.of_unmoved still).move stores₁ (d.holds_of_stop hd stop))

/-- Wherever an instance stood, it stands in its definition once it was resumed. -/
theorem Resumed.stands (resumed : Resumed p d w w') (hd : d.WellFormed) (stores : w.Stores d)
    (h : w.StandsBut d.id) : w'.Stands := by
  cases resumed with
  | stayed known still =>
      obtain ⟨hnode, hholds⟩ := d.holds_of_knownNode known
      refine Stands.of_unmoved still fun d' stores' => ?_
      by_cases hid : d'.id = d.id
      · rw [stores.eq_of_id_eq stores' hid, hnode]
        exact hholds
      · exact h d' stores' hid
  | recalled unknown known still =>
      have hplaced := h.place stores (d.holds_of_knownNode known).2
      exact hplaced.congr still.definitions still.node
  | begun unknown forgotten moved =>
      exact moved.stands hd (stores.of_definitions_eq rfl) (h.congr rfl fun _ _ => rfl)

end World

namespace Story

open World

/-- **Every step leaves every instance in its definition.** -/
theorem stands_step {c : Controller π} {s s' : Session (World π)} {op : Operation}
    {answer : Except ControllerError Answer} {imported : String → Option String}
    (hdrawn : s.state.Drawn imported) (h : s.state.Stands) (step : Step c s op answer s') :
    s'.state.Stands := by
  have hdrawn' := drawn_step hdrawn step
  cases step with
  | refused hrefusal hstray => exact h
  | stray hrefusal hstray =>
      have hblank := Operation.blank_of_stray? hstray
      exact fun d stores => h d ((stores_storeDefinition_iff_of_blank hblank).mp stores)
  | asked accepted hquestion still => exact h.of_unmoved still
  | @imported text id name reading supply w w' s' accepted read usable stored resumed still =>
      have stores := s.state.stores_storeDefinition_self usable
      -- until it is resumed, the instance may stand outside of what was just stored
      have hbut : (s.state.storeDefinition reading.definition).StandsBut reading.definition.id := by
        intro d stores hid
        rcases stores_storeDefinition_iff.mp stores with ⟨rfl, -⟩ | ⟨-, stores⟩
        · exact absurd rfl hid
        · exact h d stores
      have hd := hdrawn'.wellFormed (stores.of_definitions_eq
        (still.definitions.trans (resumed.definitions.trans stored.definitions)))
      have hresumed := resumed.stands hd (stores.of_unmoved stored) (hbut.of_unmoved stored)
      exact hresumed.congr still.definitions still.node
  | started stored resumed =>
      exact resumed.stands (hdrawn.wellFormed stored) stored (h.but _)
  | @restarted d answer s' stored moved =>
      refine moved.stands (hdrawn.wellFormed stored) (stored.of_definitions_eq rfl)
        ((h.but d.id).congr rfl fun other hother => ?_)
      exact node?_forget_of_ne _ hother
  | stumbled stored accepted nowhere hplace resumed =>
      exact resumed.stands (hdrawn.wellFormed stored) stored (h.but _)
  | advanced stored accepted resumed course =>
      have hd := hdrawn.wellFormed stored
      rcases resumed with rfl | resumed
      · exact course.stands hd stored h
      · exact course.stands hd (stored.of_definitions_eq resumed.definitions)
          (resumed.stands hd stored (h.but _))

lemma stands_after (c : Controller π) (registry : Registry) (archive : π) (scenes : List Scene) :
    (after c registry archive scenes).session.state.Stands := by
  have hopening : (opening registry archive).session.state.Stands := by
    intro d stores
    exact absurd stores.found (by simp [opening, Session.start, World.start, World.withExecution])
  refine (after_keeps (I := fun story => story.session.state.Drawn story.imported ∧
    story.session.state.Stands) ⟨drawn_after c registry archive [], hopening⟩ ?_ ?_ scenes).2.2
  · exact fun _ h step => ⟨drawn_step h.1 step, stands_step h.1 h.2 step⟩
  · exact fun h still => ⟨h.1.of_definitions_eq still.definitions, h.2.of_unmoved still⟩

/-- **An instance never leaves its graph.**  After any operations, whatever handlers do and the
    persistence says, the instance of an id that was imported without an error stands on a node of
    the definition that is stored under the id, or nowhere exactly if that definition has no
    nodes. -/
theorem stands_on_node (c : Controller π) (registry : Registry) (archive : π)
    (scenes : List Scene) (id : String)
    (himported : (after c registry archive scenes).imported id ≠ none) :
    ∃ d node, (after c registry archive scenes).session.state.definitions.find? (some id) = some d ∧
      (after c registry archive scenes).session.state.nodeOf (some id) = .ok node ∧
      (∀ known, node = some known → d.hasNode known = true) ∧ (node = none ↔ d.nodes = []) := by
  obtain ⟨text, htext⟩ := Option.ne_none_iff_exists'.mp himported
  obtain ⟨-, d, rfl, stores⟩ := (drawn_after c registry archive scenes).stored id text htext
  have hholds := stands_after c registry archive scenes d stores
  refine ⟨d, _, ?_, by rw [World.nodeOf, require_of_stores stores]; rfl, ?_, ?_⟩
  · simp [DefinitionStore.find?, stores.usable, stores.found]
  · intro known hknown
    rw [hknown] at hholds
    exact hholds
  · exact d.eq_none_iff_of_holds hholds

/-- The diagram of a tour is replaced by one without the node that the tour stands on, and the
    persistence knows another that never was. -/
theorem stands_on_node_replaced :
    let c : Controller Recorder := ⟨.working ⟨.unlimited, true⟩, Recorder.persistence⟩
    let archive : Recorder := ⟨.ofList [("tour", some "Harbour")], [.update], []⟩
    let scenes := [.ask (.importDiagram (some "start\n:Museum;\n:Park;") (some "tour") none),
      .ask (.advance (some "tour") .null), .wait,
      .ask (.importDiagram (some ":Castle;") (some "tour") none)]
    let story := after c .empty archive scenes
    story.imported "tour" ≠ none ∧ ∃ d node,
      story.session.state.definitions.find? (some "tour") = some d ∧
      story.session.state.nodeOf (some "tour") = .ok node ∧
      (∀ known, node = some known → d.hasNode known = true) ∧ (node = none ↔ d.nodes = []) := by
  intro c archive scenes story
  have hlast : story.imported "tour" = some ":Castle;" :=
    imported_next (orderly_after c .empty archive (scenes.take 3)) (by decide) (by decide) none
  have himported : story.imported "tour" ≠ none := by simp [hlast]
  exact ⟨himported, stands_on_node c .empty archive scenes "tour" himported⟩

end Story

end ActivityFlow
