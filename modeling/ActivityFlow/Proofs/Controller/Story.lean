import ActivityFlow.Proofs.Controller.Steps
import ActivityFlow.Proofs.Diagram.WellFormed
import Mathlib.Data.List.Induction

/-!
# Stories

A story is what comes of a list of scenes, one after the other, from a world in which nothing was
stored.  In a scene an operation is performed, or the background is waited for.  Beside the session
a story remembers which text was imported last under each id, as far as the import was answered
without an error.

* **`Story.after_keeps`** — what holds at the beginning and is kept by every step, and by others who
  move nobody, holds after every list of scenes.
* `Story.drawn_after` — the first such invariant: what is stored under a usable id is what was read
  from the text imported last under it, so it is well formed.
-/

namespace ActivityFlow

open Diagram Controller

variable {π : Type}

/-- What happens in a story. -/
inductive Scene where
  | ask (op : Operation)
  /-- Wait until the calls in the background have ended. -/
  | wait

/-- What came of the scenes so far. -/
structure Story (π : Type) where
  session : Session (World π)
  /-- The text imported last under an id. -/
  imported : String → Option String

namespace Story

/-- The beginning: handlers are registered, and the persistence knows what it knows. -/
def opening (registry : Registry) (archive : π) : Story π where
  session := .start ((World.start archive).withExecution { ExecutionState.empty with registry })
  imported := fun _ => none

/-- The texts imported last, behind an operation with its answer. -/
def noted (imported : String → Option String) :
    Operation → Option (Except ControllerError Answer) → String → Option String
  | .importDiagram text _ _, some (.ok (.definition d)) => Function.update imported d.id text
  | _, _ => imported

/-- The story with one more scene. -/
def next (c : Controller π) (story : Story π) : Scene → Story π
  | .ask op =>
    let (answer, session) := story.session.perform (op.routine c)
    ⟨session, noted story.imported op answer⟩
  | .wait => ⟨c.drain story.session, story.imported⟩

/-- **The story of a list of scenes.** -/
def after (c : Controller π) (registry : Registry) (archive : π) (scenes : List Scene) : Story π :=
  scenes.foldl (next c) (opening registry archive)

lemma next_eq {c : Controller π} {story : Story π} {op : Operation}
    {answer : Except ControllerError Answer} {s' : Session (World π)}
    (h : story.session.perform (op.routine c) = (some answer, s')) :
    story.next c (.ask op) = ⟨s', noted story.imported op (some answer)⟩ := by
  rw [next, h]

@[simp] lemma noted_error (imported : String → Option String) (op : Operation)
    (e : ControllerError) : noted imported op (some (.error e)) = imported := by
  cases op with
  | importDiagram text id name => rfl
  | _ => rfl

lemma noted_of_isQuestion (imported : String → Option String) {op : Operation}
    (h : op.isQuestion = true) (answer : Option (Except ControllerError Answer)) :
    noted imported op answer = imported := by
  cases op with
  | importDiagram text id name => exact absurd h (by simp [Operation.isQuestion])
  | _ => rfl

lemma orderly_opening (registry : Registry) (archive : π) :
    Orderly (opening registry archive).session where
  queue := rfl
  company := by simp [opening, Session.start, Company.empty, Company.members]
  keyed := fun id d h => absurd h (by
    simp [opening, Session.start, World.start, World.withExecution])

/-- **What every step keeps, and others who move nobody, holds after every list of scenes.** -/
theorem after_keeps {c : Controller π} {registry : Registry} {archive : π} {I : Story π → Prop}
    (hopening : I (opening registry archive))
    (hstep : ∀ {story op answer s'}, Orderly story.session → I story →
      Step c story.session op answer s' → I ⟨s', noted story.imported op (some answer)⟩)
    (hstill : ∀ {story s'}, I story → story.session.state.Unmoved s'.state → I ⟨s', story.imported⟩)
    (scenes : List Scene) :
    Orderly (after c registry archive scenes).session ∧ I (after c registry archive scenes) := by
  -- a story grows by its last scene
  induction scenes using List.reverseRecOn with
  | nil => exact ⟨orderly_opening registry archive, hopening⟩
  | append_singleton scenes scene ih =>
      obtain ⟨horderly, hI⟩ := ih
      rw [after, List.foldl_concat, ← after]
      cases scene with
      | ask op =>
          obtain ⟨answer, s', hperform, horderly', step⟩ := perform_step c horderly op
          rw [next_eq hperform]
          exact ⟨horderly', hstep horderly hI step⟩
      | wait =>
          obtain ⟨horderly', still⟩ := drain_quiet c horderly
          exact ⟨horderly', hstill hI still⟩

lemma orderly_after (c : Controller π) (registry : Registry) (archive : π) (scenes : List Scene) :
    Orderly (after c registry archive scenes).session :=
  (after_keeps (I := fun _ => True) trivial (fun _ _ _ => trivial) (fun _ _ => trivial) scenes).1

end Story

/-! ## What is stored -/

namespace World

/-- What is stored under usable ids was read from the texts imported last. -/
structure Drawn (imported : String → Option String) (w : World π) : Prop where
  stored : ∀ id text, imported id = some text →
    Text.blank text = false ∧ ∃ d, d.id = id ∧ w.Stores d
  drawn : ∀ d, w.Stores d → ∃ text name, imported d.id = some text ∧
    d = (readAs text.toList d.id name).definition

lemma Stores.of_definitions_eq {w w' : World π} {d : Definition} (h : w.Stores d)
    (heq : w'.definitions = w.definitions) : w'.Stores d :=
  ⟨h.usable, heq ▸ h.found⟩

lemma Stores.eq_of_id_eq {w : World π} {d d' : Definition} (h : w.Stores d) (h' : w.Stores d')
    (hid : d'.id = d.id) : d' = d :=
  Option.some.inj (h'.found.symm.trans (hid ▸ h.found))

lemma stores_storeDefinition_iff {w : World π} {d d' : Definition} :
    (w.storeDefinition d).Stores d' ↔
      (d' = d ∧ Text.blank d.id = false) ∨ (d'.id ≠ d.id ∧ w.Stores d') := by
  constructor
  · rintro ⟨usable, found⟩
    rw [get?_storeDefinition] at found
    split at found
    · obtain rfl := Option.some.inj found
      exact .inl ⟨rfl, usable⟩
    · rename_i hid
      exact .inr ⟨hid, usable, found⟩
  · rintro (⟨rfl, husable⟩ | ⟨hid, usable, found⟩)
    · exact ⟨husable, by rw [get?_storeDefinition, if_pos rfl]⟩
    · exact ⟨usable, by rw [get?_storeDefinition, if_neg hid, found]⟩

variable {imported : String → Option String} {w w' : World π}

lemma Drawn.of_definitions_eq (h : Drawn imported w) (heq : w'.definitions = w.definitions) :
    Drawn imported w' where
  stored id text himported := by
    obtain ⟨htext, d, hid, stores⟩ := h.stored id text himported
    exact ⟨htext, d, hid, stores.of_definitions_eq heq⟩
  drawn d stores := h.drawn d (stores.of_definitions_eq heq.symm)

/-- Nothing that is stored under an id of blanks can be asked for. -/
lemma stores_storeDefinition_iff_of_blank {d d' : Definition} (hblank : Text.blank d.id = true) :
    (w.storeDefinition d).Stores d' ↔ w.Stores d' := by
  rw [stores_storeDefinition_iff, hblank]
  constructor
  · rintro (⟨_, husable⟩ | ⟨_, stores⟩)
    · exact absurd husable (by simp)
    · exact stores
  · intro stores
    refine .inr ⟨fun hid => ?_, stores⟩
    rw [← hid, stores.usable] at hblank
    exact absurd hblank (by simp)

lemma Drawn.storeDefinition_of_blank (h : Drawn imported w) {d : Definition}
    (hblank : Text.blank d.id = true) : Drawn imported (w.storeDefinition d) where
  stored id text himported := by
    obtain ⟨htext, d', hid, stores⟩ := h.stored id text himported
    exact ⟨htext, d', hid, (stores_storeDefinition_iff_of_blank hblank).mpr stores⟩
  drawn d' stores := h.drawn d' ((stores_storeDefinition_iff_of_blank hblank).mp stores)

lemma Drawn.storeDefinition (h : Drawn imported w) {text id name : String} {d : Definition}
    (htext : Text.blank text = false) (hd : d = (readAs text.toList id name).definition)
    (husable : Text.blank d.id = false) :
    Drawn (Function.update imported d.id (some text)) (w.storeDefinition d) where
  stored id' text' himported := by
    by_cases hid : id' = d.id
    · rw [hid, Function.update_self] at himported
      obtain rfl := Option.some.inj himported
      exact ⟨htext, d, hid.symm, w.stores_storeDefinition_self husable⟩
    · rw [Function.update_of_ne hid] at himported
      obtain ⟨htext', d', rfl, stores⟩ := h.stored id' text' himported
      exact ⟨htext', d', rfl, stores_storeDefinition_iff.mpr (.inr ⟨hid, stores⟩)⟩
  drawn d' stores := by
    rcases stores_storeDefinition_iff.mp stores with ⟨rfl, -⟩ | ⟨hid, stores⟩
    · exact ⟨text, name, Function.update_self .., hd.trans (by rw [hd]; rfl)⟩
    · rw [Function.update_of_ne hid]
      exact h.drawn d' stores

lemma Drawn.wellFormed (h : Drawn imported w) {d : Definition} (stores : w.Stores d) :
    d.WellFormed := by
  obtain ⟨text, name, -, hd⟩ := h.drawn d stores
  rw [hd]
  exact (Draft.sound_ofLines _).wellFormed _ _

end World

namespace Story

/-- A story has what was imported. -/
lemma drawn_step {c : Controller π} {s s' : Session (World π)} {op : Operation}
    {answer : Except ControllerError Answer} {imported : String → Option String}
    (h : s.state.Drawn imported) (step : Step c s op answer s') :
    s'.state.Drawn (noted imported op (some answer)) := by
  cases step with
  | refused hrefusal hstray => rwa [noted_error]
  | stray hrefusal hstray =>
      rw [noted_error]
      exact h.storeDefinition_of_blank (Operation.blank_of_stray? hstray)
  | asked accepted hquestion still =>
      rw [noted_of_isQuestion imported hquestion]
      exact h.of_definitions_eq still.definitions
  | imported accepted read usable stored resumed still =>
      obtain ⟨htext, usedId, name, hreading⟩ := readAs_of_read read
      have hdrawn := h.storeDefinition htext (congrArg Reading.definition hreading) usable
      exact hdrawn.of_definitions_eq
        (still.definitions.trans (resumed.definitions.trans stored.definitions))
  | started stored resumed => exact h.of_definitions_eq resumed.definitions
  | restarted stored moved => exact h.of_definitions_eq moved.definitions
  | stumbled stored accepted nowhere hplace resumed =>
      rw [noted_error]
      exact h.of_definitions_eq resumed.definitions
  | advanced stored accepted resumed course =>
      rcases resumed with rfl | resumed
      · exact h.of_definitions_eq course.definitions
      · exact h.of_definitions_eq (course.definitions.trans resumed.definitions)

theorem drawn_after (c : Controller π) (registry : Registry) (archive : π) (scenes : List Scene) :
    (after c registry archive scenes).session.state.Drawn
      (after c registry archive scenes).imported := by
  refine (after_keeps (I := fun story => story.session.state.Drawn story.imported) ?_
    (fun _ h step => drawn_step h step)
    (fun h still => h.of_definitions_eq still.definitions) scenes).2
  refine ⟨fun _ _ himported => absurd himported (by simp [opening]), fun d stores => ?_⟩
  exact absurd stores.found (by simp [opening, Session.start, World.start, World.withExecution])

/-- **A text that is not blank is read and stored** under every id that is not blank. -/
theorem next_import {c : Controller π} {story : Story π} (horderly : Orderly story.session)
    {text id : String} (htext : Text.blank text = false) (hid : Text.blank id = false)
    (name : Option String) :
    let d := (readAs text.toList id ((nonEmpty? name).getD defaultName)).definition
    let behind := story.next c (.ask (.importDiagram (some text) (some id) name))
    behind.imported = Function.update story.imported id (some text) ∧
      behind.session.state.definitions = story.session.state.definitions.store d := by
  intro d behind
  have hused := nonEmpty?_of_not_blank hid
  have hnone : (Operation.importDiagram (some text) (some id) name).refusal? story.session.state =
      none := by
    simp [Operation.refusal?, Operation.blankId?, Text.blank?, htext, hused, hid, Option.filter]
  obtain ⟨answer, s', hperform, -, step⟩ :=
    perform_step c horderly (.importDiagram (some text) (some id) name)
  have hbehind : behind = _ := next_eq hperform
  rw [hbehind]
  cases step with
  | refused hrefusal hstray => exact absurd (hnone.symm.trans hrefusal) (by simp)
  | stray hrefusal hstray => exact absurd (hnone.symm.trans hrefusal) (by simp)
  | asked accepted hquestion still => exact absurd hquestion (by simp [Operation.isQuestion])
  | imported accepted read usable stored resumed still =>
      rw [read_eq_readAs htext hid, Prod.mk.injEq, Except.ok.injEq] at read
      obtain ⟨rfl, -⟩ := read
      exact ⟨rfl, still.definitions.trans (resumed.definitions.trans stored.definitions)⟩

theorem imported_next {c : Controller π} {story : Story π} (horderly : Orderly story.session)
    {text id : String} (htext : Text.blank text = false) (hid : Text.blank id = false)
    (name : Option String) :
    (story.next c (.ask (.importDiagram (some text) (some id) name))).imported id = some text := by
  rw [(next_import horderly htext hid name).1, Function.update_self]

end Story

end ActivityFlow
