import ActivityFlow.Proofs.Diagram.Balance
import ActivityFlow.Proofs.Diagram.Reading

/-!
# The branches of a decision

At the end of a diagram no frame is open, so nothing is owed, and the balance of a decision is one
of transitions alone.

* `Draft.staysInBranches` — no line leaves its branch, so none is passed over and nothing strays
  (`leaving_eq_branchesOpened`).
* **`read_balances_branches`** — what leaves a decision and what was passed over is what was opened
  and what strayed.  Exactly the opened branches leave it if no line leaves its branch.
* **`read_loses_arrowInBranch`** — a branch can be lost: its condition leaves the decision nowhere.
-/

namespace ActivityFlow.Diagram

/-! ## Whole diagrams -/

/-- The conditions of the branches that are opened at a decision. -/
def branchesOpened (lines : List (List Char)) (decision : String) : Multiset (Option String) :=
  conditionsAt decision (Draft.exitsOver Draft.opened? {} lines)

/-- The conditions of the branches that are passed over. -/
def branchesPassedOver (lines : List (List Char)) (decision : String) :
    Multiset (Option String) :=
  conditionsAt decision (Draft.exitsOver Draft.passedOver? {} lines)

/-- The conditions of the arrows that stray from a decision. -/
def arrowsStrayed (lines : List (List Char)) (decision : String) : Multiset (Option String) :=
  conditionsAt decision (Draft.exitsOver Draft.stray? {} lines)

/-- With no frame left, nothing is owed, and the balance is one of transitions. -/
lemma Draft.leaving_ofLines {lines : List (List Char)} {decision : String}
    (hlisted : Listed (ofLines lines).entries decision .decision) :
    leaving decision (ofLines lines).transitions + branchesPassedOver lines decision
      = branchesOpened lines decision + arrowsStrayed lines decision := by
  have hdecides : Decides (ofLines lines).entries decision :=
    fun _ hother => hother.origin_unique (sound_ofLines lines).graph.nodup hlisted
  have hrun : Accounts decision {} (ofLines lines) _ _ :=
    (accounts_foldl sound_empty lines).trans_still (accounts_finish (sound_empty.foldl lines))
  have hbalance := hrun.balance hdecides
  have hfinal : standing decision (ofLines lines)
      = leaving decision (ofLines lines).transitions := by
    simp [standing, frames_ofLines]
  have hempty : standing decision {} = 0 := by simp [standing]
  rw [hempty, zero_add] at hbalance
  rw [← hfinal]
  exact hbalance

/-! ## Lines that stay in their branch -/

namespace Draft

variable {d d' : Draft}

lemma unentered?_enterTop : ∀ frames : List Frame, unentered? (enterTop frames) = none
  | [] => rfl
  | .loop _ :: _ => rfl
  | .branches _ _ _ :: _ => rfl

/-- With the innermost branch entered, none is left behind. -/
lemma leftBehind?_of_enterTop (frames : List Frame) (h : d.frames = enterTop frames) :
    d.leftBehind? = none := by
  rw [leftBehind?, h, unentered?_enterTop, Option.filter_none]

lemma leftBehind?_of_eq (hframes : d'.frames = d.frames) (htail : d'.tail = d.tail) :
    d'.leftBehind? = d.leftBehind? := by
  simp only [leftBehind?, hframes, htail]

lemma leftBehind?_supply {origin : Origin} {p : Draft × String} (hs : Supplied d origin p) :
    p.1.leftBehind? = d.leftBehind? := by
  obtain ⟨entries, counter, heq⟩ := hs.exists_eq
  rw [heq]
  exact leftBehind?_of_eq rfl rfl

lemma leftBehind?_annotateTarget (h : Sound d) (target : Option String) (body : String) :
    (d.annotateTarget target body).leftBehind? = d.leftBehind? := by
  cases target with
  | some token =>
      have hsame := leftBehind?_supply (supplied_resolve h.graph.marker token)
      rcases hresolve : d.resolve token with ⟨d', id⟩
      rw [hresolve] at hsame
      simp only [annotateTarget, hresolve, ← hsame]
      exact leftBehind?_of_eq rfl rfl
  | none =>
      simp only [annotateTarget]
      split <;> exact leftBehind?_of_eq rfl rfl

lemma leftBehind?_act (hnone : d.leftBehind? = none) (text : ActionText) :
    (d.act text).leftBehind? = none := by
  cases text with
  | empty written => rw [← hnone]; exact leftBehind?_of_eq rfl rfl
  | labelled label stereotype =>
      rcases hresolve : d.resolve label with ⟨d', id⟩
      have hattached : ((d'.attach id).declare id).leftBehind? = none :=
        leftBehind?_of_enterTop d'.frames (by simp only [declare, attach_eq])
      simp only [act, hresolve]
      cases stereotype with
      | none => exact hattached
      | some name => rw [← hattached]; exact leftBehind?_of_eq rfl rfl

lemma leftBehind?_halt (d : Draft) : d.halt.leftBehind? = none := by
  rcases hresolve : d.resolve "Stop" with ⟨d', id⟩
  simp only [halt, hresolve]
  exact leftBehind?_of_enterTop d'.frames (by simp only [declare, attach_eq])

/-- At its decision, a branch that is not entered is not left behind. -/
lemma leftBehind?_of_branches {decision : String} {ended : List Branch} {current : Branch}
    {rest : List Frame} (hframes : d.frames = .branches decision ended current :: rest)
    (htail : d.tail = some decision) : d.leftBehind? = none := by
  rw [leftBehind?, hframes, unentered?]
  split <;> simp [htail]

lemma leftBehind?_openLoop (d : Draft) (first : Option ActionText) :
    (d.openLoop first).leftBehind? = none := by
  have hopened : (d.openLoop none).leftBehind? = none := by
    simp [leftBehind?, openLoop, unentered?]
  cases first with
  | none => exact hopened
  | some text => exact leftBehind?_act hopened text

lemma leftBehind?_unwind (hnone : d.leftBehind? = none) (kind : Frame → Bool) :
    (d.unwind kind).leftBehind? = none := by
  refine unwind_induction (P := fun d' => d'.leftBehind? = none) (fun d' f rest _ _ _ => ?_) hnone
  exact leftBehind?_of_enterTop rest (frames_closeFrame _ f)

lemma leftBehind?_closeIf (hnone : d.leftBehind? = none) : d.closeIf.leftBehind? = none := by
  simp only [Draft.closeIf]
  split
  · rename_i decision ended current rest hframes
    exact leftBehind?_of_enterTop rest (frames_closeFrame _ (.branches decision ended current))
  · exact leftBehind?_unwind hnone _

lemma leftBehind?_endLoop (hnone : d.leftBehind? = none) (condition : String) :
    (d.endLoop condition).leftBehind? = none := by
  simp only [Draft.endLoop]
  split
  · rw [closeLoop_eq rfl]
    exact leftBehind?_of_enterTop _ rfl
  · exact leftBehind?_unwind hnone _

lemma leftBehind?_nextBranch (hnone : d.leftBehind? = none) (condition : String) :
    (d.nextBranch condition).leftBehind? = none := by
  simp only [Draft.nextBranch]
  split
  · exact leftBehind?_of_branches rfl rfl
  · exact leftBehind?_unwind hnone _

lemma unentered?_of_any_isBranches : ∀ {frames : List Frame}, frames.any isBranches = false →
    unentered? frames = none
  | [], _ => rfl
  | .loop _ :: _, _ => rfl
  | .branches _ _ _ :: _, h => by simp [isBranches] at h

lemma leftBehind?_begin (h : Sound d) (hopen : d.ifOpen = false) :
    d.begin.leftBehind? = none := by
  obtain ⟨entries, counter, heq⟩ := (supplied_resolve h.graph.marker "Start").exists_eq
  have hframes : d.begin.frames = d.frames := by
    rcases hresolve : d.resolve "Start" with ⟨d', id⟩
    rw [hresolve] at heq
    simp only [begin, hresolve, beginAt, heq]
  rw [leftBehind?, hframes, unentered?_of_any_isBranches hopen, Option.filter_none]

end Draft

/-- Whether a line leaves the tail where the open `if`, if there is one, expects it.  An arrow does
    not, and a `start` does not inside an `if`. -/
def Line.staysInBranch (ifOpen : Bool) : Line → Bool
  | .arrow _ _ _ => false
  | .start => !ifOpen
  | _ => true

namespace Draft

lemma leftBehind?_takeLine (h : Sound d) (hnone : d.leftBehind? = none) {raw : List Char}
    (hline : (Line.read d.ifOpen raw).staysInBranch d.ifOpen = true) :
    (d.takeLine raw).leftBehind? = none := by
  simp only [Draft.takeLine]
  cases hread : Line.read d.ifOpen raw with
  | style ends => rw [← hnone]; cases ends <;> exact leftBehind?_of_eq rfl rfl
  | skinparam name value => rw [← hnone]; exact leftBehind?_of_eq rfl rfl
  | pragma name value => rw [← hnone]; exact leftBehind?_of_eq rfl rfl
  | shortNote body => rw [← hnone]; exact leftBehind?_annotateTarget h none body
  | inlineNote target body => rw [← hnone]; exact leftBehind?_annotateTarget h (some target) body
  | blockNote target => rw [← hnone]; exact leftBehind?_of_eq rfl rfl
  | start =>
      rw [hread, Line.staysInBranch, Bool.not_eq_true'] at hline
      exact leftBehind?_begin h hline
  | stop => exact leftBehind?_halt d
  | openIf condition => exact leftBehind?_of_branches rfl rfl
  | nextBranch condition => exact leftBehind?_nextBranch hnone condition
  | closeIf => exact leftBehind?_closeIf hnone
  | closeLoop condition =>
      dsimp only
      split
      · exact leftBehind?_endLoop hnone condition
      · rw [← hnone]; exact leftBehind?_of_eq rfl rfl
  | openLoop first => exact leftBehind?_openLoop d first
  | arrow source target condition => simp [hread, Line.staysInBranch] at hline
  | looseArrow report => rw [← hnone]; exact leftBehind?_of_eq rfl rfl
  | action text => exact leftBehind?_act hnone text
  | unknown => rw [← hnone]; exact leftBehind?_of_eq rfl rfl

lemma leftBehind?_step (h : Sound d) (hnone : d.leftBehind? = none) {raw : List Char}
    (hline : d.block = .none → (Line.read d.ifOpen raw).staysInBranch d.ifOpen = true) :
    (d.step raw).leftBehind? = none := by
  simp only [Draft.step]
  split
  · rename_i hblock
    exact leftBehind?_takeLine h hnone (hline hblock)
  · rw [← hnone]
    split <;> exact leftBehind?_of_eq rfl rfl
  · rw [← hnone]
    split
    · exact leftBehind?_annotateTarget (h.withAside .none d.remarks) _ _
    · exact leftBehind?_of_eq rfl rfl

/-- Whether all lines that are read behind a draft leave the tail in its branch. -/
def staysInBranches : Draft → List (List Char) → Bool
  | _, [] => true
  | d, raw :: rest =>
      (d.block != .none || (Line.read d.ifOpen raw).staysInBranch d.ifOpen) &&
        staysInBranches (d.step raw) rest

/-- Where no line leaves its branch, nothing is passed over and nothing strays. -/
lemma exitsOver_eq_nil (h : Sound d) (hnone : d.leftBehind? = none) {lines : List (List Char)}
    (hlines : staysInBranches d lines = true) :
    exitsOver passedOver? d lines = [] ∧ exitsOver stray? d lines = [] := by
  induction lines generalizing d with
  | nil => exact ⟨rfl, rfl⟩
  | cons raw rest ih =>
      simp only [staysInBranches, Bool.and_eq_true, Bool.or_eq_true, bne_iff_ne] at hlines
      have hline : d.block = .none → (Line.read d.ifOpen raw).staysInBranch d.ifOpen = true :=
        fun hblock => hlines.1.resolve_left fun hne => hne hblock
      obtain ⟨hpassed, hstrayed⟩ := ih (h.step raw) (leftBehind?_step h hnone hline) hlines.2
      have hpass : d.passedOver? (Line.read d.ifOpen raw) = none := by
        rw [passedOver?, hnone, ite_self]
      have hstray : d.block = .none → d.stray? (Line.read d.ifOpen raw) = none := by
        intro hblock
        have hstays := hline hblock
        cases hread : Line.read d.ifOpen raw with
        | arrow source target condition => simp [hread, Line.staysInBranch] at hstays
        | _ => rfl
      constructor
      · rw [exitsOver, hpass, hpassed]
        simp
      · rw [exitsOver, hstrayed, List.append_nil]
        split
        · rename_i hblock
          rw [hstray hblock]
          rfl
        · rfl

end Draft

/-- No branch is lost as long as no line leaves its branch. -/
lemma leaving_eq_branchesOpened {lines : List (List Char)} {decision : String}
    (hlisted : Draft.Listed (Draft.ofLines lines).entries decision .decision)
    (hstays : Draft.staysInBranches {} lines = true) :
    leaving decision (Draft.ofLines lines).transitions = branchesOpened lines decision := by
  obtain ⟨hpassed, hstrayed⟩ := Draft.exitsOver_eq_nil Draft.sound_empty rfl hstays
  have hbalance := Draft.leaving_ofLines hlisted
  rwa [branchesPassedOver, hpassed, arrowsStrayed, hstrayed, conditionsAt_nil, add_zero,
    add_zero] at hbalance

/-! ## Whole texts -/

/-- **The balance of every decision of every text.**  What leaves it, with what was passed over, is
    what was opened, with what strayed.  So exactly the opened branches leave it if and only if as
    much was passed over as strayed, and it is so if no line of the text leaves its branch. -/
theorem read_balances_branches (text : String) (id name : Option String) (supply : IdSupply)
    (h : Text.blank text = false) : ∃ reading supply',
      read (some text) id name supply = (.ok reading, supply') ∧
        ∀ decision, Draft.Listed (Draft.ofLines (prepareLines text.toList)).entries decision
            .decision →
          leaving decision reading.definition.transitions
              + branchesPassedOver (prepareLines text.toList) decision
            = branchesOpened (prepareLines text.toList) decision
              + arrowsStrayed (prepareLines text.toList) decision ∧
          (leaving decision reading.definition.transitions
              = branchesOpened (prepareLines text.toList) decision ↔
            branchesPassedOver (prepareLines text.toList) decision
              = arrowsStrayed (prepareLines text.toList) decision) ∧
          (Draft.staysInBranches {} (prepareLines text.toList) = true →
            leaving decision reading.definition.transitions
              = branchesOpened (prepareLines text.toList) decision) := by
  obtain ⟨usedId, usedName, supply', hread⟩ := read_of_not_blank h id name supply
  refine ⟨_, supply', hread, fun decision hlisted => ?_⟩
  have hbalance := Draft.leaving_ofLines hlisted
  refine ⟨hbalance, ⟨fun hall => ?_, fun hequal => ?_⟩, leaving_eq_branchesOpened hlisted⟩
  · rw [readAs, Draft.toDefinition] at hall
    rw [hall] at hbalance
    exact add_left_cancel hbalance
  · rw [hequal] at hbalance
    exact add_right_cancel hbalance

/-- A branch that ends at a `stop`, and one that nothing is linked into. -/
example : Draft.staysInBranches {}
    (prepareLines "if (a) then\n:B;\nstop\nelse (c)\nendif".toList) = true := by
  decide +kernel

/-- An arrow inside a branch, and an action behind it that is linked from the end of the arrow. -/
def arrowInBranch : String := "if (a) then\nA --> B\n:C;\nendif"

theorem read_balances_branches_arrowInBranch :
    Text.blank arrowInBranch = false ∧ ∃ reading supply',
      read (some arrowInBranch) none none {} = (.ok reading, supply') ∧
        ∀ decision, Draft.Listed (Draft.ofLines (prepareLines arrowInBranch.toList)).entries
            decision .decision →
          leaving decision reading.definition.transitions
              + branchesPassedOver (prepareLines arrowInBranch.toList) decision
            = branchesOpened (prepareLines arrowInBranch.toList) decision
              + arrowsStrayed (prepareLines arrowInBranch.toList) decision ∧
          (leaving decision reading.definition.transitions
              = branchesOpened (prepareLines arrowInBranch.toList) decision ↔
            branchesPassedOver (prepareLines arrowInBranch.toList) decision
              = arrowsStrayed (prepareLines arrowInBranch.toList) decision) ∧
          (Draft.staysInBranches {} (prepareLines arrowInBranch.toList) = true →
            leaving decision reading.definition.transitions
              = branchesOpened (prepareLines arrowInBranch.toList) decision) :=
  ⟨by decide, read_balances_branches arrowInBranch none none {} (by decide)⟩

/-- **A branch can be lost**: its condition leaves the decision nowhere. -/
theorem read_loses_arrowInBranch : ∃ reading supply',
    read (some arrowInBranch) none none {} = (.ok reading, supply') ∧
      ∃ decision, Draft.Listed (Draft.ofLines (prepareLines arrowInBranch.toList)).entries decision
          .decision ∧
        leaving decision reading.definition.transitions
          ≠ branchesOpened (prepareLines arrowInBranch.toList) decision := by
  refine ⟨_, _, rfl, "if__a_0", ?_, ?_⟩
  · unfold Draft.Listed
    decide +kernel
  · decide +kernel

end ActivityFlow.Diagram
