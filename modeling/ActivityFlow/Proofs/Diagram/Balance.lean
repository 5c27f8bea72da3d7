import ActivityFlow.Proofs.Diagram.Bookkeeping
import Mathlib.Algebra.BigOperators.Group.Multiset.Basic
import Mathlib.Tactic.Abel

/-!
# The balance of a decision

Every branch of an `if` is opened under a condition.  The condition is pending while the tail waits
at the decision, and it is written with the first node linked into the branch, or with the join when
no node was.  Until then the frame *owes* it to the decision.

**Passing over.**  An arrow or a further `start` takes the tail away from the decision, and the
condition that was pending with it.  The next node is linked from the new tail, and yet it enters
the branch: its condition is written nowhere.

**Straying.**  An arrow without a source leads on from the tail.  Where the tail waits at a
decision, the condition of the arrow leaves it, though no branch was opened under it.

There is nothing else.  What has left a decision and what is owed to it is its `standing`, and
**`accounts_takeLine`** says for each line how it moves: up by what is opened and what strays, down
by what is passed over.

The books only grow: no line takes a transition back or changes one (`Sound.prefix_finish`).
-/

namespace ActivityFlow.Diagram

/-! ## The exits of a node -/

/-- A way out of a node, under a condition. -/
structure Exit where
  node : String
  condition : Option String
  deriving DecidableEq, Repr

/-- The conditions under which some exits leave a node. -/
def conditionsAt (node : String) (exits : List Exit) : Multiset (Option String) :=
  (exits.filter (·.node = node)).map (·.condition)

/-- The conditions on the transitions that leave a node. -/
def leaving (node : String) (transitions : List Transition) : Multiset (Option String) :=
  (transitions.filter (·.source = node)).map (·.condition)

@[simp] lemma conditionsAt_nil (node : String) : conditionsAt node [] = 0 := rfl

lemma conditionsAt_append (node : String) (exits exits' : List Exit) :
    conditionsAt node (exits ++ exits') = conditionsAt node exits + conditionsAt node exits' := by
  simp [conditionsAt]

lemma conditionsAt_singleton (node : String) (e : Exit) :
    conditionsAt node [e] = if e.node = node then {e.condition} else 0 := by
  by_cases h : e.node = node <;> simp [conditionsAt, h]

@[simp] lemma leaving_nil (node : String) : leaving node [] = 0 := rfl

lemma leaving_append (node : String) (ts ts' : List Transition) :
    leaving node (ts ++ ts') = leaving node ts + leaving node ts' := by
  simp [leaving]

/-- The conditions of the branches that are not entered. -/
def unwritten (branches : List Branch) : Multiset (Option String) :=
  (branches.filter fun b => !b.entered).map fun b => some b.condition

/-- The conditions that an open frame still owes to a node. -/
def Frame.owed (node : String) : Frame → Multiset (Option String)
  | .branches decision ended current =>
      if decision = node then unwritten (ended ++ [current]) else 0
  | .loop _ => 0

lemma unwritten_nil : unwritten [] = 0 := rfl

lemma unwritten_append (branches branches' : List Branch) :
    unwritten (branches ++ branches') = unwritten branches + unwritten branches' := by
  simp [unwritten]

lemma unwritten_cons (b : Branch) (rest : List Branch) :
    unwritten (b :: rest) = (if b.entered then 0 else {some b.condition}) + unwritten rest := by
  cases h : b.entered <;> simp [unwritten, h]

/-! ## What a line does at a decision -/

/-- Whether a line links a node from the tail. -/
def Line.linksNode : Line → Bool
  | .action (.labelled _ _) | .stop | .openIf _ | .openLoop _ => true
  | _ => false

namespace Draft

/-- The decision of the innermost open `if`. -/
def innermostIf? : List Frame → Option String
  | [] => none
  | .branches decision _ _ :: _ => some decision
  | .loop _ :: rest => innermostIf? rest

/-- The exit that the current branch of the innermost frame has to get, if it is not entered. -/
def unentered? : List Frame → Option Exit
  | .branches decision _ current :: _ =>
      if current.entered then none else some ⟨decision, some current.condition⟩
  | _ => none

/-- The branch that a line opens. -/
def opened? (d : Draft) : Line → Option Exit
  | .openIf condition => some ⟨(d.addMade ("if: " ++ condition) .decision).2, some condition⟩
  | .nextBranch condition => (innermostIf? d.frames).map (⟨·, some condition⟩)
  | _ => none

/-- The current branch of the innermost frame, if it is not entered and the tail is elsewhere than
    at its decision. -/
def leftBehind? (d : Draft) : Option Exit :=
  (unentered? d.frames).filter fun e => d.tail ≠ some e.node

/-- The branch that a line enters from elsewhere than its decision. -/
def passedOver? (d : Draft) (line : Line) : Option Exit :=
  if line.linksNode then d.leftBehind? else none

/-- The exit that an arrow without a source makes at the tail. -/
def stray? (d : Draft) : Line → Option Exit
  | .arrow source _ condition =>
      if source.isEmpty then d.tail.map (⟨·, condition⟩) else none
  | _ => none

/-- What lines do one after the other.  Inside a block a line does nothing. -/
def exitsOver (event : Draft → Line → Option Exit) : Draft → List (List Char) → List Exit
  | _, [] => []
  | d, raw :: rest =>
      (if d.block = .none then (event d (Line.read d.ifOpen raw)).toList else []) ++
        exitsOver event (d.step raw) rest

/-! ## The balance of a decision -/

/-- A node that is a decision if it is a node at all. -/
def Decides (entries : List Entry) (node : String) : Prop :=
  ∀ origin, Listed entries node origin → origin = .decision

/-- The conditions that have left a node and those that the open frames owe to it. -/
def standing (node : String) (d : Draft) : Multiset (Option String) :=
  leaving node d.transitions + (d.frames.map (Frame.owed node)).sum

/-- From one draft to a later one, nodes and transitions are only added, and a decision stands at
    what it stood at, and what it gained, less what it lost. -/
structure Accounts (node : String) (d d' : Draft) (gained lost : Multiset (Option String)) :
    Prop where
  grows : Extends d'.entries d.entries
  adds : d.transitions <+: d'.transitions
  balance : Decides d'.entries node → standing node d' + lost = standing node d + gained

lemma Decides.mono {entries entries' : List Entry} {node : String} (h : Decides entries' node)
    (hext : Extends entries' entries) : Decides entries node :=
  fun origin hlisted => h origin (hext _ _ hlisted)

/-- A settled node is no decision. -/
lemma Decides.ne {entries : List Entry} {node id : String} (h : Decides entries node)
    (hid : Settled entries id) : id ≠ node := by
  rintro rfl
  obtain ⟨origin, hne, hlisted⟩ := hid
  exact hne (h origin hlisted)

variable {node : String} {d d' d'' : Draft} {gained gained' lost lost' : Multiset (Option String)}

lemma Accounts.trans (h : Accounts node d d' gained lost)
    (h' : Accounts node d' d'' gained' lost') :
    Accounts node d d'' (gained + gained') (lost + lost') := by
  refine ⟨fun id o hlisted => h'.grows _ _ (h.grows _ _ hlisted), h.adds.trans h'.adds,
    fun hdecides => ?_⟩
  have hfirst := h.balance (hdecides.mono h'.grows)
  calc standing node d'' + (lost + lost')
      = standing node d'' + lost' + lost := by abel
    _ = standing node d' + lost + gained' := by rw [h'.balance hdecides]; abel
    _ = standing node d + (gained + gained') := by rw [hfirst]; abel

lemma Accounts.still_trans (h : Accounts node d d' 0 0) (h' : Accounts node d' d'' gained lost) :
    Accounts node d d'' gained lost := by
  have hboth := h.trans h'
  rwa [zero_add, zero_add] at hboth

lemma Accounts.trans_still (h : Accounts node d d' gained lost) (h' : Accounts node d' d'' 0 0) :
    Accounts node d d'' gained lost := by
  have hboth := h.trans h'
  rwa [add_zero, add_zero] at hboth

/-- Whatever leaves alone the transitions and the frames leaves every decision where it stood. -/
lemma Accounts.of_eq (hext : Extends d'.entries d.entries)
    (htransitions : d'.transitions = d.transitions)
    (hframes : d'.frames = d.frames) : Accounts node d d' 0 0 :=
  ⟨hext, htransitions ▸ List.prefix_rfl, fun _ => by simp [standing, htransitions, hframes]⟩

lemma Accounts.supply {origin : Origin} {p : Draft × String} (hs : Supplied d origin p) :
    Accounts node d p.1 0 0 := by
  refine .of_eq hs.extends ?_ ?_
  · obtain ⟨entries, counter, heq⟩ := hs.exists_eq
    rw [heq]
  · obtain ⟨entries, counter, heq⟩ := hs.exists_eq
    rw [heq]

/-! ## Links -/

/-- A link from elsewhere does not count. -/
lemma leaving_linkOf_of_ne {source : Option String} (hsource : source ≠ some node) (count : ℕ)
    (target : String) (condition : Option String) :
    leaving node (linkOf count source target condition) = 0 := by
  cases source with
  | none => rfl
  | some source =>
      have hne : source ≠ node := fun heq => hsource (congrArg some heq)
      simp only [linkOf]
      split
      · rfl
      · simp [leaving, hne]

/-- A link to another node is never dropped. -/
lemma leaving_linkOf_self {target : String} (htarget : target ≠ node) (count : ℕ)
    (condition : Option String) :
    leaving node (linkOf count (some node) target condition) = {condition} := by
  simp [linkOf, leaving, Ne.symm htarget]

/-- A link to another node counts for the node that it leaves. -/
lemma leaving_linkOf {target : String} (htarget : target ≠ node) (count : ℕ)
    (source condition : Option String) : leaving node (linkOf count source target condition)
      = conditionsAt node (source.map (⟨·, condition⟩)).toList := by
  by_cases hsource : source = some node
  · rw [hsource, leaving_linkOf_self htarget]
    simp [conditionsAt_singleton]
  · rw [leaving_linkOf_of_ne hsource]
    cases source with
    | none => rfl
    | some source =>
        have hne : source ≠ node := fun heq => hsource (congrArg some heq)
        simp [conditionsAt_singleton, hne]

/-- The join of a decision pays what the frame owes: a branch that is entered ends elsewhere. -/
lemma leaving_joinsOf {decision join : String} (hjoin : join ≠ node) (branches : List Branch) :
    ∀ count, (∀ b ∈ branches, b.tail ≠ some node) →
      leaving node (joinsOf decision join count branches)
        = if decision = node then unwritten branches else 0 := by
  induction branches with
  | nil => intro count _; simp [joinsOf, unwritten]
  | cons b rest ih =>
      intro count htails
      rw [joinsOf, leaving_append, ih _ fun b' hb' => htails b' (List.mem_cons_of_mem _ hb')]
      cases hentered : b.entered with
      | true =>
          have helse := leaving_linkOf_of_ne (htails b List.mem_cons_self) count join none
          simp [helse, hentered, unwritten_cons]
      | false =>
          by_cases hdecision : decision = node
          · subst hdecision
            have hlink := leaving_linkOf_self hjoin count (some b.condition)
            simp [hlink, hentered, unwritten_cons]
          · have hne : some decision ≠ some node := fun heq => hdecision (Option.some.inj heq)
            have helse := leaving_linkOf_of_ne hne count join (some b.condition)
            simp [helse, hdecision]

/-! ## Entering a branch -/

/-- Entering the innermost branch clears what the frames owe for it. -/
lemma owed_enterTop (node : String) : ∀ frames : List Frame,
    ((enterTop frames).map (Frame.owed node)).sum + conditionsAt node (unentered? frames).toList
      = (frames.map (Frame.owed node)).sum
  | [] => by simp [unentered?]
  | .loop _ :: _ => by simp [unentered?]
  | .branches decision ended current :: rest => by
      cases hentered : current.entered with
      | true => simp [unentered?, Frame.owed, unwritten_append, unwritten_cons, hentered]
      | false =>
          by_cases hdecision : decision = node
          · simp only [enterTop_branches, List.map_cons, List.sum_cons, Frame.owed, hdecision,
              unwritten_append, unwritten_cons, unentered?, hentered, conditionsAt_singleton,
              Option.toList_some, Bool.false_eq_true, if_true, if_false]
            abel
          · simp [unentered?, Frame.owed, conditionsAt_singleton, hentered, hdecision]

/-- The link from the tail writes the condition of the branch that it enters, unless the branch is
    passed over. -/
lemma leaving_linkOf_tail (h : Sound d) (hdecides : Decides d.entries node) {id : String}
    (hid : d.tail = some node → id ≠ node) (count : ℕ) :
    leaving node (linkOf count d.tail id d.pending)
        + conditionsAt node d.leftBehind?.toList
      = conditionsAt node (unentered? d.frames).toList := by
  rcases h.cursor.position with hwaits | ⟨hpending, hsettled⟩
  · -- the link leaves the decision under what is pending, which is what the branch has to get
    obtain ⟨decision, ended, current, rest, hframes, hentered, htail, hpending⟩ := hwaits
    have hnone : d.leftBehind? = none := by
      simp [leftBehind?, hframes, unentered?, hentered, htail]
    rw [hnone, hframes, htail, hpending]
    by_cases hdecision : decision = node
    · subst hdecision
      simp [leaving_linkOf_self (hid htail), unentered?, hentered, conditionsAt_singleton]
    · have hne : some decision ≠ some node := fun heq => hdecision (Option.some.inj heq)
      simp [leaving_linkOf_of_ne hne, unentered?, hentered, conditionsAt_singleton, hdecision]
  · -- the link leaves another node, so a branch that it enters is left behind
    have htail : d.tail ≠ some node := fun heq => hdecides.ne (hsettled node heq) rfl
    rw [leaving_linkOf_of_ne htail, zero_add, leftBehind?]
    cases unentered? d.frames with
    | none => rfl
    | some e =>
        by_cases he : e.node = node
        · simp [Option.filter, he, htail]
        · simp only [Option.filter]
          split <;> simp [conditionsAt_singleton, he]

lemma accounts_attach (h : Sound d) {id : String}
    (hid : Decides d.entries node → d.tail = some node → id ≠ node) :
    Accounts node d (d.attach id) 0 (conditionsAt node d.leftBehind?.toList) := by
  refine ⟨fun _ _ hlisted => by rwa [entries_attach], ?_, fun hdecides => ?_⟩
  · rw [attach_eq]
    exact List.prefix_append _ _
  rw [entries_attach] at hdecides
  have hlink := leaving_linkOf_tail h hdecides (hid hdecides) d.transitions.length
  have hframes := owed_enterTop node d.frames
  rw [attach_eq]
  simp only [standing, leaving_append]
  rw [← hframes, ← hlink]
  abel

lemma accounts_declare (id : String) : Accounts node d (d.declare id) 0 0 :=
  .of_eq (fun _ _ h => h) rfl rfl

lemma accounts_attachDeclare (h : Sound d) {origin : Origin} {p : Draft × String}
    (hs : Supplied d origin p)
    (hid : Decides p.1.entries node → d.tail = some node → p.2 ≠ node) :
    Accounts node d ((p.1.attach p.2).declare p.2) 0 (conditionsAt node d.leftBehind?.toList) := by
  have hsupply : Accounts node d p.1 0 0 := .supply hs
  have hsound : Sound p.1 := h.supply hs
  obtain ⟨entries, counter, heq⟩ := hs.exists_eq
  rw [heq] at hsupply hsound hid ⊢
  exact hsupply.still_trans ((accounts_attach hsound hid).trans_still (accounts_declare p.2))

lemma accounts_modifyNode (id : String) {change : Node → Node} (hid : ∀ n, (change n).id = n.id) :
    Accounts node d (d.modifyNode id change) 0 0 :=
  .of_eq (fun x o => (listed_modifyNode id hid x o).mpr) rfl rfl

lemma accounts_resolve (h : Sound d) (token : String) : Accounts node d (d.resolve token).1 0 0 :=
  .supply (supplied_resolve h.graph.marker token)

lemma accounts_attachResolved (h : Sound d) (token : String) :
    Accounts node d (((d.resolve token).1.attach (d.resolve token).2).declare (d.resolve token).2)
      0 (conditionsAt node d.leftBehind?.toList) :=
  accounts_attachDeclare h (supplied_resolve h.graph.marker token)
    fun hdecides _ => hdecides.ne (h.resolve token).2

lemma accounts_act (h : Sound d) (text : ActionText) : Accounts node d (d.act text) 0
    (conditionsAt node (d.passedOver? (.action text)).toList) := by
  cases text with
  | empty written => exact .of_eq (fun _ _ h => h) rfl rfl
  | labelled label stereotype =>
      have hdone : Accounts node d _ 0 _ := accounts_attachResolved h label
      rcases hresolve : d.resolve label with ⟨d', id⟩
      rw [hresolve] at hdone
      simp only [act, hresolve]
      cases stereotype with
      | none => exact hdone
      | some name => exact hdone.trans_still (accounts_modifyNode id fun _ => rfl)

lemma accounts_halt (h : Sound d) :
    Accounts node d d.halt 0 (conditionsAt node d.leftBehind?.toList) := by
  have hdone : Accounts node d _ 0 _ := accounts_attachResolved h "Stop"
  rcases hresolve : d.resolve "Stop" with ⟨d', id⟩
  rw [hresolve] at hdone
  simp only [halt, hresolve]
  exact hdone.trans_still (.of_eq (fun _ _ h => h) rfl rfl)

/-! ## Arrows, starts and notes -/

lemma accounts_beginAt (id : String) : Accounts node d (d.beginAt id) 0 0 :=
  .of_eq (fun _ _ h => h) rfl rfl

lemma accounts_begin (h : Sound d) : Accounts node d d.begin 0 0 :=
  (accounts_resolve h "Start").trans_still (accounts_beginAt _)

lemma accounts_annotate (id body : String) : Accounts node d (d.annotate id body) 0 0 := by
  simp only [annotate]
  exact accounts_modifyNode id fun _ => rfl

lemma accounts_annotateTarget (h : Sound d) (target : Option String) (body : String) :
    Accounts node d (d.annotateTarget target body) 0 0 := by
  cases target with
  | some token =>
      have hresolved : Accounts node d _ 0 0 := accounts_resolve h token
      rcases hresolve : d.resolve token with ⟨d', id⟩
      rw [hresolve] at hresolved
      simp only [annotateTarget, hresolve]
      exact hresolved.trans_still (accounts_annotate id body)
  | none =>
      simp only [annotateTarget]
      split
      · exact accounts_annotate _ body
      · exact .of_eq (fun _ _ h => h) rfl rfl

lemma accounts_linkJump {source : Option String} {id : String} {condition : Option String}
    (hlink : Decides d.entries node →
      leaving node (linkOf d.transitions.length source id condition) = gained) :
    Accounts node d ((d.link source id condition).jump id) gained 0 := by
  rw [link_eq]
  refine ⟨fun _ _ h => h, List.prefix_append _ _, fun hdecides => ?_⟩
  simp only [standing, jump, leaving_append, hlink hdecides]
  abel

/-- An arrow from a node of its own leaves no decision; an arrow from the tail strays from the
    decision that the tail waits at. -/
lemma accounts_addArrow (h : Sound d) (source target : String) (condition : Option String) :
    Accounts node d (d.addArrow source target condition)
      (conditionsAt node (d.stray? (.arrow source target condition)).toList) 0 := by
  simp only [Draft.addArrow, stray?]
  split
  · rename_i hmarker
    have hne : source.isEmpty = false := by rw [hmarker]; decide
    simp only [hne, Bool.false_eq_true, if_false]
    exact (accounts_resolve h target).trans_still (accounts_beginAt _)
  · cases hsource : source.isEmpty with
    | true =>
        have hsettled := (h.resolve target).2
        exact (accounts_resolve h target).still_trans
          (accounts_linkJump fun hdecides => leaving_linkOf (hdecides.ne hsettled) _ _ _)
    | false =>
        obtain ⟨hfirst, hfrom⟩ := h.resolve source
        have hstill : Accounts node d _ 0 0 :=
          (accounts_resolve h source).trans_still (accounts_resolve hfirst target)
        refine hstill.still_trans (accounts_linkJump fun hdecides => ?_)
        have hfar := (hdecides.mono (supplied_resolve hfirst.graph.marker target).extends).ne hfrom
        exact leaving_linkOf_of_ne (fun heq => hfar (Option.some.inj heq)) _ _ _

/-! ## Frames -/

/-- With a loop on top, nothing is pending and the tail is no decision. -/
lemma Sound.tail_ne_of_loop (h : Sound d) {entry : String} {rest : List Frame}
    (hframes : d.frames = .loop entry :: rest) (hdecides : Decides d.entries node) :
    d.tail ≠ some node := by
  rcases h.cursor.position with ⟨_, _, _, _, hbranches, _⟩ | ⟨_, hsettled⟩
  · simp [hframes] at hbranches
  · exact fun heq => hdecides.ne (hsettled node heq) rfl

lemma leaving_exitsOf_of_ne {tail : Option String} (htail : tail ≠ some node) (count : ℕ)
    (entry after : String) (condition : Option String) :
    leaving node (exitsOf count tail entry after condition) = 0 := by
  simp only [exitsOf, leaving_append, leaving_linkOf_of_ne htail]
  split
  · rfl
  · cases condition <;> simp [leaving_linkOf_of_ne htail]

lemma accounts_closeLoop (h : Sound d) {entry : String} {rest : List Frame}
    (hframes : d.frames = .loop entry :: rest) (condition : Option String) :
    Accounts node d ({ d with frames := rest }.closeLoop entry condition) 0 0 := by
  have houter := h.cursor.outer
  rw [hframes, List.tail_cons] at houter
  obtain ⟨entries, counter, after, hmade, hs⟩ :=
    exists_addMade { d with frames := rest } "after_loop" .afterLoop
  have hgrows := hs.extends
  rw [closeLoop_eq hmade]
  refine ⟨hgrows, List.prefix_append _ _, fun hdecides => ?_⟩
  have htail := h.tail_ne_of_loop hframes (hdecides.mono hgrows)
  simp [standing, leaving_append, leaving_exitsOf_of_ne htail, enterTop_of_isEntered houter,
    hframes, Frame.owed]

/-- Closing an `if` writes what its frame owes. -/
lemma accounts_closeBranches (h : Sound d) {decision : String} {ended : List Branch}
    {current : Branch} {rest : List Frame}
    (hframes : d.frames = .branches decision ended current :: rest) :
    Accounts node d ({ d with frames := rest }.closeBranches decision ended current) 0 0 := by
  have hcursor := h.cursor
  rw [hframes] at hcursor
  have houter : ∀ f ∈ rest, f.isEntered = true := hcursor.outer
  obtain ⟨entries, counter, join, hmade, hs⟩ :=
    exists_addMade { d with frames := rest } "join" .join
  have hgrows := hs.extends
  have hjoin : Settled entries join := ⟨.join, by decide, hs.listed⟩
  rw [closeBranches_eq hmade]
  refine ⟨hgrows, List.prefix_append _ _, fun hdecides => ?_⟩
  have htails : ∀ b ∈ ended ++ [endBranch current d.tail], b.tail ≠ some node := by
    obtain ⟨-, -, hended⟩ := hcursor.remembered _ List.mem_cons_self
    intro b hb heq
    rcases List.mem_append.mp hb with hb | hb
    · exact (hdecides.mono hgrows).ne (hended b hb node heq) rfl
    · rw [List.mem_singleton.mp hb] at heq
      exact (hdecides.mono hgrows).ne (hcursor.settled_endBranch node heq) rfl
  have hsame : unwritten (ended ++ [endBranch current d.tail])
      = unwritten (ended ++ [current]) := by
    simp [unwritten_append, unwritten_cons, endBranch]
  simp only [standing, leaving_append, leaving_joinsOf (hdecides.ne hjoin) _ _ htails, hsame,
    enterTop_of_isEntered houter, hframes, List.map_cons, List.sum_cons, Frame.owed]
  abel

lemma accounts_closeFrame (h : Sound d) {f : Frame} {rest : List Frame}
    (hframes : d.frames = f :: rest) :
    Accounts node d ({ d with frames := rest }.closeFrame f) 0 0 := by
  cases f with
  | branches decision ended current => exact accounts_closeBranches h hframes
  | loop entry => exact accounts_closeLoop h hframes none

lemma accounts_unwind (h : Sound d) (kind : Frame → Bool) :
    Accounts node d (d.unwind kind) 0 0 := by
  have hboth : Sound (d.unwind kind) ∧ Accounts node d (d.unwind kind) 0 0 := by
    refine unwind_induction (P := fun d' => Sound d' ∧ Accounts node d d' 0 0) ?_
      ⟨h, .of_eq (fun _ _ h => h) rfl rfl⟩
    intro d' f rest hframes _ ⟨hsound, haccounts⟩
    exact ⟨hsound.closeFrame hframes, haccounts.trans_still (accounts_closeFrame hsound hframes)⟩
  exact hboth.2

lemma accounts_closeIf (h : Sound d) : Accounts node d d.closeIf 0 0 := by
  simp only [Draft.closeIf]
  split
  · rename_i hframes
    exact (accounts_unwind h _).trans_still (accounts_closeBranches (h.unwind _) hframes)
  · exact accounts_unwind h _

lemma accounts_endLoop (h : Sound d) (condition : String) :
    Accounts node d (d.endLoop condition) 0 0 := by
  simp only [Draft.endLoop]
  split
  · rename_i hframes
    exact (accounts_unwind h _).trans_still (accounts_closeLoop (h.unwind _) hframes _)
  · exact accounts_unwind h _

/-- A branch that is opened is owed to its decision. -/
lemma accounts_openIf (h : Sound d) (condition : String) :
    Accounts node d (d.openIf condition)
      (conditionsAt node (d.opened? (.openIf condition)).toList)
      (conditionsAt node d.leftBehind?.toList) := by
  have hs := supplied_addMade d ("if: " ++ condition) .decision
  have hfresh : (d.addMade ("if: " ++ condition) .decision).2 ∉ d.ids :=
    makeId_freshIndex_not_mem _ _ _
  -- the new node is a decision itself, but not the one that the tail waits at
  have hattached : Accounts node d _ 0 _ := accounts_attachDeclare h hs fun _ htail heq =>
    hfresh (heq ▸ h.cursor.tail_mem node htail)
  have hopened : Accounts node
      (((d.addMade ("if: " ++ condition) .decision).1.attach
        (d.addMade ("if: " ++ condition) .decision).2).declare
          (d.addMade ("if: " ++ condition) .decision).2) (d.openIf condition)
      (conditionsAt node (d.opened? (.openIf condition)).toList) 0 := by
    refine ⟨fun _ _ h => h, List.prefix_rfl, fun _ => ?_⟩
    simp only [openIf, opened?, standing, List.map_cons, List.sum_cons, Frame.owed, List.nil_append,
      unwritten_cons, Option.toList_some, conditionsAt_singleton]
    split
    · simp only [unwritten_nil, Bool.false_eq_true, if_false]
      abel
    · abel
  simpa using hattached.trans hopened

lemma innermostIf?_dropWhile (frames : List Frame) :
    innermostIf? (frames.dropWhile fun f => !isBranches f) = innermostIf? frames := by
  induction frames with
  | nil => rfl
  | cons f rest ih =>
      cases f with
      | branches decision ended current => rfl
      | loop entry => exact ih

lemma Sound.innermostIf?_unwind (h : Sound d) :
    innermostIf? (d.unwind isBranches).frames = innermostIf? d.frames := by
  rw [frames_unwind_of_isEntered h.cursor.outer, innermostIf?_dropWhile]

lemma accounts_nextBranch (h : Sound d) (condition : String) :
    Accounts node d (d.nextBranch condition)
      (conditionsAt node (d.opened? (.nextBranch condition)).toList) 0 := by
  have hunwound : Accounts node d _ 0 0 := accounts_unwind h isBranches
  simp only [Draft.nextBranch, opened?, ← h.innermostIf?_unwind]
  split
  · rename_i decision ended current rest hframes
    refine hunwound.still_trans ⟨fun _ _ h => h, List.prefix_rfl, fun _ => ?_⟩
    simp only [standing, hframes, List.map_cons, List.sum_cons, Frame.owed, unwritten_append,
      unwritten_cons, innermostIf?, Option.map_some, Option.toList_some, conditionsAt_singleton,
      endBranch]
    split
    · simp only [unwritten_nil, Bool.false_eq_true, if_false]
      abel
    · rfl
  · rename_i hother
    rcases frames_unwind d isBranches with hframes | ⟨f, rest, hframes, hkind⟩
    · simpa [hframes, innermostIf?] using hunwound
    · cases f with
      | branches decision ended current => exact absurd hframes (hother _ _ _ _)
      | loop entry => exact Bool.noConfusion hkind

lemma accounts_openLoop_none (h : Sound d) :
    Accounts node d (d.openLoop none) 0 (conditionsAt node d.leftBehind?.toList) := by
  have hs := supplied_addMade d "loop_entry" .loopEntry
  have hentry : Settled (d.addMade "loop_entry" .loopEntry).1.entries
      (d.addMade "loop_entry" .loopEntry).2 := ⟨.loopEntry, by decide, hs.listed⟩
  have hdone : Accounts node d _ 0 _ :=
    accounts_attachDeclare h hs fun hdecides _ => hdecides.ne hentry
  refine ⟨hdone.grows, hdone.adds, fun hdecides => ?_⟩
  rw [← hdone.balance hdecides]
  simp [openLoop, standing, Frame.owed, declare]

lemma accounts_openLoop (h : Sound d) (first : Option ActionText) :
    Accounts node d (d.openLoop first) 0 (conditionsAt node d.leftBehind?.toList) := by
  cases first with
  | none => exact accounts_openLoop_none h
  | some text =>
      have hnone : (d.openLoop none).passedOver? (.action text) = none := by
        simp [passedOver?, leftBehind?, openLoop, unentered?]
      have hact : Accounts node (d.openLoop none) _ 0 _ := accounts_act (h.openLoop none) text
      rw [hnone] at hact
      exact (accounts_openLoop_none h).trans_still hact

/-! ## Lines -/

/-- **What one line does to the balance of a decision.** -/
theorem accounts_takeLine (h : Sound d) (raw : List Char) :
    Accounts node d (d.takeLine raw)
      (conditionsAt node (d.opened? (Line.read d.ifOpen raw)).toList
        + conditionsAt node (d.stray? (Line.read d.ifOpen raw)).toList)
      (conditionsAt node (d.passedOver? (Line.read d.ifOpen raw)).toList) := by
  simp only [Draft.takeLine]
  cases Line.read d.ifOpen raw with
  | style ends => cases ends <;> exact .of_eq (fun _ _ h => h) rfl rfl
  | skinparam name value => exact .of_eq (fun _ _ h => h) rfl rfl
  | pragma name value => exact .of_eq (fun _ _ h => h) rfl rfl
  | shortNote body => exact accounts_annotateTarget h none body
  | inlineNote target body => exact accounts_annotateTarget h (some target) body
  | blockNote target => exact .of_eq (fun _ _ h => h) rfl rfl
  | start => exact accounts_begin h
  | stop => exact accounts_halt h
  | openIf condition =>
      simpa [stray?, passedOver?, Line.linksNode] using accounts_openIf h condition
  | nextBranch condition =>
      simpa [stray?, passedOver?, Line.linksNode] using accounts_nextBranch h condition
  | closeIf => exact accounts_closeIf h
  | closeLoop condition =>
      dsimp only
      split
      · exact accounts_endLoop h condition
      · exact .of_eq (fun _ _ h => h) rfl rfl
  | openLoop first => exact accounts_openLoop h first
  | arrow source target condition =>
      simpa [opened?, passedOver?, Line.linksNode] using
        accounts_addArrow h source target condition
  | looseArrow report => exact .of_eq (fun _ _ h => h) rfl rfl
  | action text => exact accounts_act h text
  | unknown => exact .of_eq (fun _ _ h => h) rfl rfl

lemma accounts_withAside (block : Block) (remarks : Remarks) :
    Accounts node d { d with block := block, remarks := remarks } 0 0 :=
  .of_eq (fun _ _ h => h) rfl rfl

lemma accounts_step_of_block (h : Sound d) (raw : List Char) (hblock : d.block ≠ .none) :
    Accounts node d (d.step raw) 0 0 := by
  simp only [Draft.step]
  split
  · rename_i hnone
    exact absurd hnone hblock
  · split
    · exact accounts_withAside .none _
    · exact accounts_withAside _ _
  · split
    · exact (accounts_withAside .none d.remarks).trans_still
        (accounts_annotateTarget (h.withAside .none d.remarks) _ _)
    · exact accounts_withAside _ _

/-- What any number of lines does to it. -/
lemma accounts_foldl (h : Sound d) (lines : List (List Char)) :
    Accounts node d (lines.foldl Draft.step d)
      (conditionsAt node (exitsOver opened? d lines) + conditionsAt node (exitsOver stray? d lines))
      (conditionsAt node (exitsOver passedOver? d lines)) := by
  induction lines generalizing d with
  | nil => exact .of_eq (fun _ _ h => h) rfl rfl
  | cons raw rest ih =>
      have hrest := ih (h.step raw)
      by_cases hblock : d.block = .none
      · have hline : Accounts node d _ _ _ := accounts_takeLine h raw
        have hstep : d.step raw = d.takeLine raw := by simp [Draft.step, hblock]
        rw [← hstep] at hline
        simp only [exitsOver, hblock, if_true, conditionsAt_append]
        rw [add_add_add_comm]
        exact hline.trans hrest
      · simp only [exitsOver, hblock, if_false, List.nil_append]
        exact (accounts_step_of_block h raw hblock).still_trans hrest

lemma accounts_finish (h : Sound d) : Accounts node d d.finish 0 0 := by
  have hblock : Accounts node d d.endBlock 0 0 := by
    simp only [Draft.endBlock]
    split
    · exact .of_eq (fun _ _ h => h) rfl rfl
    · exact accounts_withAside .none _
    · exact (accounts_withAside .none d.remarks).trans_still
        (accounts_annotateTarget (h.withAside .none d.remarks) _ _)
  exact hblock.trans_still (accounts_unwind h.endBlock _)

/-- **No transition is ever taken back**, whatever lines follow. -/
theorem Sound.prefix_finish (h : Sound d) (lines : List (List Char)) :
    d.transitions <+: (lines.foldl Draft.step d).finish.transitions := by
  have hrun : Accounts "" d (lines.foldl Draft.step d).finish _ _ :=
    (accounts_foldl h lines).trans_still (accounts_finish (h.foldl lines))
  exact hrun.adds

end Draft

end ActivityFlow.Diagram
