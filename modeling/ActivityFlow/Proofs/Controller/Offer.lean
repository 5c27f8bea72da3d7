import ActivityFlow.Proofs.Controller.Steps
import ActivityFlow.Proofs.Text.Numeral

/-!
# What is offered is what is accepted

What a node shows is put together from the transitions that leave it (`Definition.prompt`), and what
a value chooses is looked for among the same transitions (`Choice.select`), but by rules that are
tried one after the other and may be in each other's way.  This file says how far the two agree.

* `Choice.offered` — at a choice, the places of the offered choices are accepted and no others; the
  decimal text of a place stands for it unless it names a target; the id of a target leads there.
* `Choice.plain` — where no choice is offered, null is accepted if there is a way on at all.
* **`Controller.accepts_offered`** — the same of an instance that stands on a node: it follows what
  its value selects, or stays.  It stays without an answer if the value cannot be shown, as a number
  with too many digits.

An instance whose node has an empty id stands nowhere as far as advancing goes, and is started
again first, so it does not accept what its node offers (`rejects_namelessNode`).
-/

namespace ActivityFlow

open Diagram

/-! ## Choosing -/

namespace Choice

variable {d : Definition} {ways : List Transition}

/-- A text that is the id or the label of a target. -/
def Names (d : Definition) (ways : List Transition) (text : String) : Prop :=
  ∃ t ∈ ways, t.target = text ∨ ∃ n, d.node? t.target = some n ∧ n.label = some text

/-- **The choices among some transitions are what is accepted.** -/
structure Offered (d : Definition) (ways : List Transition) (choices : List Choice) : Prop where
  /-- A whole number is accepted if it is the place of a choice. -/
  place : ∀ i : Int, (select d ways (.int i)).isSome ↔ 0 ≤ i ∧ i < choices.length
  /-- What it selects leads where the choice leads, on the same condition. -/
  same : ∀ (i : Int) (t : Transition), select d ways (.int i) = some t →
    ∃ choice, choices[i.toNat]? = some choice ∧ ways[i.toNat]? = some t ∧
      t.target = choice.target ∧ t.condition = choice.condition
  /-- The decimal text of a number stands for the number, with any blanks around it, unless the text
      names a target.  Numerals have a limit; only in a list that is longer would it be felt. -/
  numeral : ∀ (i : Int) (before after : String), Text.blank before = true →
    Text.blank after = true → ¬ Names d ways (before ++ toString i ++ after) →
    choices.length ≤ 10 ^ Text.maxDigits →
    select d ways (.str (before ++ toString i ++ after)) = select d ways (.int i)
  /-- The id of a target selects a way to it. -/
  target : ∀ choice ∈ choices, ∃ t, select d ways (.str choice.target) = some t ∧
    t.target = choice.target

/-- **Without a choice there is at most one way on**, and null takes it. -/
structure Plain (d : Definition) (ways : List Transition) : Prop where
  null : (select d ways .null).isSome ↔ ways ≠ []
  only : ∀ t, select d ways .null = some t → ways = [t] ∧ Text.blank? t.condition = true

lemma byPlace_eq_some_iff {i : Int} {t : Transition} :
    byPlace ways i = some t ↔ 0 ≤ i ∧ ways[i.toNat]? = some t := by
  simp [byPlace]

lemma isSome_byPlace_iff {i : Int} : (byPlace ways i).isSome ↔ 0 ≤ i ∧ i < ways.length := by
  rw [byPlace]
  split
  · rename_i hi
    have hplace : (i.toNat < ways.length) ↔ (0 ≤ i ∧ i < ways.length) := by omega
    simp [hplace]
  · rename_i hi
    simp [hi]

lemma byPlace_eq_none_of_large {i : Int} (h : ways.length ≤ i.natAbs) : byPlace ways i = none := by
  rw [← Option.not_isSome_iff_eq_none, isSome_byPlace_iff]
  omega

/-- A text that names no target is left to be a number. -/
lemma select_str_of_not_names {text : String} (h : ¬ Names d ways text) :
    select d ways (.str text) = (Text.readInt? text).bind (byPlace ways) := by
  have htarget : byTarget ways text = none := by
    refine List.find?_eq_none.mpr fun t ht heq => h ⟨t, ht, .inl ?_⟩
    simpa using heq
  have hlabel : byLabel d ways text = none := by
    refine List.find?_eq_none.mpr fun t ht hany => h ⟨t, ht, .inr ?_⟩
    simpa [Option.any_eq_true] using hany
  rw [select, htarget, hlabel]
  rfl

lemma select_numeral {i : Int} {before after : String} (hbefore : Text.blank before = true)
    (hafter : Text.blank after = true) (h : ¬ Names d ways (before ++ toString i ++ after))
    (hlength : ways.length ≤ 10 ^ Text.maxDigits) :
    select d ways (.str (before ++ toString i ++ after)) = byPlace ways i := by
  rw [select_str_of_not_names h, Text.readInt?_padded hbefore hafter]
  split
  · rfl
  -- a numeral that is too long to be read is larger than any place
  · rename_i hlarge
    exact (byPlace_eq_none_of_large (Nat.le_trans hlength (Nat.le_of_not_lt hlarge))).symm

lemma exists_select_target {t : Transition} (h : t ∈ ways) :
    ∃ t', select d ways (.str t.target) = some t' ∧ t'.target = t.target := by
  obtain ⟨t', ht'⟩ : ∃ t', byTarget ways t.target = some t' :=
    Option.isSome_iff_exists.mp (List.find?_isSome.mpr ⟨t, h, by simp⟩)
  refine ⟨t', ?_, by simpa using List.find?_some ht'⟩
  rw [select, ht']
  rfl

/-- The choices that a node offers, in order. -/
lemma getElem?_choices (i : ℕ) : (ways.zipIdx.map fun way => d.choiceOf way.2 way.1)[i]?
    = ways[i]?.map (d.choiceOf i) := by
  rw [List.getElem?_map, List.getElem?_zipIdx]
  cases ways[i]? with
  | none => rfl
  | some t => simp

/-- **The choices put together from some transitions are what is accepted among them.** -/
theorem offered (d : Definition) (ways : List Transition) :
    Offered d ways (ways.zipIdx.map fun way => d.choiceOf way.2 way.1) where
  place i := by
    rw [List.length_map, List.length_zipIdx]
    exact isSome_byPlace_iff
  same i t h := by
    obtain ⟨-, hplace⟩ := byPlace_eq_some_iff.mp h
    exact ⟨d.choiceOf i.toNat t, by rw [getElem?_choices, hplace]; rfl, hplace, rfl, rfl⟩
  numeral i before after hbefore hafter hnames hlength := by
    rw [List.length_map, List.length_zipIdx] at hlength
    exact select_numeral hbefore hafter hnames hlength
  target choice hchoice := by
    obtain ⟨way, hway, rfl⟩ := List.mem_map.mp hchoice
    exact exists_select_target (List.fst_mem_of_mem_zipIdx hway)

theorem plain (d : Definition) (h : Definition.asksChoice ways = false) : Plain d ways := by
  rw [Definition.asksChoice, Bool.or_eq_false_iff, decide_eq_false_iff_not] at h
  match ways with
  | [] =>
      exact ⟨by simp [select, Choice.only], fun t ht => absurd ht (by simp [select, Choice.only])⟩
  | [way] =>
      refine ⟨by simp [select, Choice.only], fun t ht => ?_⟩
      obtain rfl : way = t := by simpa [select, Choice.only] using ht
      exact ⟨rfl, by simpa using h.2⟩
  | _ :: _ :: _ => exact absurd h.1 (by simp)

end Choice

/-! ## What a node shows -/

namespace Definition

lemma isChoice_prompt (d : Definition) (node : String) :
    (d.prompt (some node)).isChoice = asksChoice (d.outgoing node) := by
  simp only [prompt]
  split
  · rename_i h
    exact h.symm
  · rename_i h
    exact (Bool.eq_false_iff.mpr h).symm

lemma choices_prompt {d : Definition} {node : String}
    (h : (d.prompt (some node)).isChoice = true) : (d.prompt (some node)).choices =
      (d.outgoing node).zipIdx.map fun way => d.choiceOf way.2 way.1 := by
  rw [isChoice_prompt] at h
  simp [prompt, h]

end Definition

/-! ## Advancing -/

namespace Controller

open World Routine

variable {π : Type} (c : Controller π) {d : Definition} {s : Session (World π)}

/-- What comes of a value, given what it selects: the instance is first of all moved along the
    selected transition, and stays when none is selected.  The answer says which; there is none if
    nothing is selected and the value cannot be shown. -/
def Follows (p : Persistence π) (d : Definition) (value : Json) (s s' : Session (World π)) :
    Option Transition → Except ControllerError Bool → Prop
  | some t, answer => answer = .ok true ∧
      ∃ w, (s.state.move p d.id (some t.target)).Unmoved w ∧ Course p d w s'.state
  | none, answer => match value.checkText with
    | .ok _ => answer = .ok false ∧ s.state.Unmoved s'.state
    | .error cause => answer = .error (.text cause) ∧ s' = s

/-- An instance is moved along the transition that a value selects. -/
lemma ensures_follow_selected (d : Definition) (w : World π) {node : String} {value : Json}
    {t : Transition} (hselect : Choice.select d (d.outgoing node) value = some t) :
    (c.follow d.id d node value).Ensures Unmoved (fun answer w' => answer = .ok true ∧
      ∃ w₁, (w.move c.persistence d.id (some t.target)).Unmoved w₁ ∧
        Course c.persistence d w₁ w') w := by
  rw [follow, hselect]
  dsimp only
  refine (c.ensures_moveTo w d.id t.target).bind fun _ w₁ moved => ?_
  refine Ensures.bind (t := discard (c.enterNode d t.target))
    ((c.ensures_enterNode d w₁ t.target).bind fun _ w' course => ?_) fun _ w' course => course
  exact ⟨rfl, w₁, moved, course⟩

/-- An instance that stands on a node follows what its value selects. -/
lemma perform_advance (hs : Orderly s) (stored : s.state.Stores d) {node : String}
    (rests : nonEmpty? (s.state.states.node? (some d.id)) = some node) (value : Json) :
    ∃ answer s', s.perform ((Operation.advance (some d.id) value).routine c)
        = (some (answer.map .moved), s') ∧
      Follows c.persistence d value s s' (Choice.select d (d.outgoing node) value) answer := by
  have hturn : (c.advance (some d.id) value).turn s.state =
      (c.follow d.id d node value).turn s.state := by
    rw [advance, turn_onWorkflow_of_stores stored, turn_bind (turn_get _), rests]
  cases hselect : Choice.select d (d.outgoing node) value with
  | some t =>
      have hadvance := c.ensures_follow_selected d s.state hselect
      have hop : ((Operation.advance (some d.id) value).routine c).Ensures Unmoved (fun answer w' =>
          answer = .ok (.moved true) ∧ ∃ w₁, (s.state.move c.persistence d.id (some t.target)).Unmoved
            w₁ ∧ Course c.persistence d w₁ w') s.state := by
        rw [Operation.routine, ensures_map]
        refine Ensures.mono ?_ fun answer w' (h : answer = .ok true ∧ _) => ⟨by rw [h.1]; rfl, h.2⟩
        refine (ensures_onWorkflow stored).mpr ?_
        rw [ensures_bind, ensures_get, rests]
        exact hadvance
      obtain ⟨_, s', w, hperform, -, ⟨rfl, w₁, moved, course⟩, still⟩ :=
        perform_ensured hs hop fun answer w' hmoved => by
          obtain ⟨-, w₁, moved, course⟩ := hmoved
          exact hs.keyed.of_definitions_eq (course.definitions.trans moved.definitions)
      exact ⟨.ok true, s', hperform, rfl, w₁, moved, course.still still⟩
  | none =>
      have hfollow : (c.follow d.id d node value).turn s.state =
          (.done ((value.checkText.mapError .text).map fun _ => false), s.state) := by
        rw [follow, hselect]
        rfl
      rw [hfollow] at hturn
      refine ⟨_, s, perform_at_once (turn_map hturn _) hs.queue, ?_⟩
      cases hshown : value.checkText with
      | ok _ =>
          simp only [Follows, hshown]
          exact ⟨rfl, .refl _⟩
      | error cause =>
          simp only [Follows, hshown, and_true]
          rfl

lemma perform_promptOf (hs : Orderly s) (stored : s.state.Stores d) :
    s.perform ((Operation.promptOf (some d.id)).routine c)
      = (some (.ok (.prompt (d.prompt (s.state.states.node? (some d.id))))), s) := by
  have hprompt : s.state.prompt (some d.id)
      = .ok (d.prompt (s.state.states.node? (some d.id))) := by
    rw [World.prompt, require_of_stores stored]
    rfl
  refine perform_at_once (w := s.state) ?_ hs.queue
  rw [Operation.routine, turn_update, hprompt]
  rfl

/-- **What is offered is what is accepted.**  An instance that stands on a node is shown the prompt
    of the node.  Whatever value it is advanced by, it follows what the value selects; and what is
    selected is what the prompt offers.  Only a value that selects nothing may be left without an
    answer. -/
theorem accepts_offered (hs : Orderly s) (stored : s.state.Stores d) {node : String}
    (hnode : node ≠ "") (rests : s.state.states.node? (some d.id) = some node) :
    s.perform ((Operation.promptOf (some d.id)).routine c)
        = (some (.ok (.prompt (d.prompt (some node)))), s) ∧
      (∀ value, ∃ answer s', s.perform ((Operation.advance (some d.id) value).routine c)
          = (some (answer.map .moved), s') ∧
        Follows c.persistence d value s s' (Choice.select d (d.outgoing node) value) answer) ∧
      ((d.prompt (some node)).isChoice = true →
        Choice.Offered d (d.outgoing node) (d.prompt (some node)).choices) ∧
      ((d.prompt (some node)).isChoice = false → Choice.Plain d (d.outgoing node)) := by
  have hrests : nonEmpty? (s.state.states.node? (some d.id)) = some node := by
    rw [rests]
    exact Option.filter_eq_some_iff.mpr ⟨rfl, by simpa using hnode⟩
  refine ⟨?_, fun value => c.perform_advance hs stored hrests value, fun hchoice => ?_,
    fun hchoice => ?_⟩
  · rw [c.perform_promptOf hs stored, rests]
  · rw [Definition.choices_prompt hchoice]
    exact Choice.offered d _
  · rw [Definition.isChoice_prompt] at hchoice
    exact Choice.plain d hchoice

/-! ### An instance on a fork -/

/-- Two ways on from a node. -/
def fork (node : String) : Definition where
  id := "fork"
  name := none
  nodes := [⟨node, none, none, none⟩, ⟨"Left", none, none, none⟩, ⟨"1", none, none, none⟩]
  transitions := [⟨"t_0", node, "Left", none⟩, ⟨"t_1", node, "1", none⟩]
  startPoints := []

/-- A session in which the instance of a definition stands on a node. -/
def standing (d : Definition) (node : String) : Session (World Unit) :=
  ⟨((World.start ()).storeDefinition d).place d.id (some node), .empty⟩

lemma orderly_standing (d : Definition) (node : String) : Orderly (standing d node) where
  queue := rfl
  company := by simp [standing, Company.empty, Company.members]
  keyed := by
    refine (Keyed.storeDefinition ?_ d).of_definitions_eq rfl
    exact fun id d h => absurd h (by simp [World.start])

lemma stores_standing {d : Definition} (h : Text.blank d.id = false) (node : String) :
    (standing d node).state.Stores d :=
  ⟨h, ((World.start ()).stores_storeDefinition_self h).found⟩

lemma node?_standing {d : Definition} (h : Text.blank d.id = false) (node : String) :
    (standing d node).state.states.node? (some d.id) = some node :=
  (World.node?_place _ d.id d.id (some node) h).trans (if_pos rfl)

theorem accepts_offered_fork :
    let s := standing (fork "Start") "Start"
    let c : Controller Unit := ⟨.broken, Persistence.none⟩
    let d := fork "Start"
    s.perform ((Operation.promptOf (some d.id)).routine c)
        = (some (.ok (.prompt (d.prompt (some "Start")))), s) ∧
      (∀ value, ∃ answer s', s.perform ((Operation.advance (some d.id) value).routine c)
          = (some (answer.map .moved), s') ∧
        Follows c.persistence d value s s' (Choice.select d (d.outgoing "Start") value) answer) ∧
      ((d.prompt (some "Start")).isChoice = true →
        Choice.Offered d (d.outgoing "Start") (d.prompt (some "Start")).choices) ∧
      ((d.prompt (some "Start")).isChoice = false → Choice.Plain d (d.outgoing "Start")) :=
  accepts_offered _ (orderly_standing _ _) (stores_standing (by decide) _) (by decide)
    (node?_standing (by decide) _)

/-- An instance on a node with an empty id is offered two choices, and the first place is
    refused. -/
theorem rejects_namelessNode :
    let s := standing (fork "") ""
    let c : Controller Unit := ⟨.broken, Persistence.none⟩
    Orderly s ∧ s.state.Stores (fork "") ∧ s.state.states.node? (some "fork") = some "" ∧
      (∃ s', s.perform ((Operation.promptOf (some "fork")).routine c)
        = (some (.ok (.prompt ((fork "").prompt (some "")))), s')) ∧
      ((fork "").prompt (some "")).isChoice = true ∧
      ((fork "").prompt (some "")).choices.length = 2 ∧
      ∃ s', s.perform ((Operation.advance (some "fork") (.int 0)).routine c)
        = (some (.ok (.moved false)), s') := by
  intro s c
  have stored : s.state.Stores (fork "") := stores_standing (by decide) _
  have rests : s.state.states.node? (some "fork") = some "" := node?_standing (by decide) _
  refine ⟨orderly_standing _ _, stored, rests, ⟨s, ?_⟩, by decide, by decide, ?_⟩
  · exact (c.perform_promptOf (orderly_standing _ _) stored).trans (by rw [← rests]; rfl)
  · exact ⟨_, perform_at_once (w := s.state.place "fork" (some "")) (by rfl) rfl⟩

end Controller

end ActivityFlow
