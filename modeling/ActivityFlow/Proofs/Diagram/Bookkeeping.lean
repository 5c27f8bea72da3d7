import ActivityFlow.Proofs.Diagram.Moves
import Mathlib.Data.List.Nodup

/-!
# What a draft remembers

A draft remembers ids over many lines: the tail, the node declared last, the decision or the entry
of each open frame, the nodes in which branches ended.  An id is used much later than it is
written down, so two invariants go together here.

* `GraphSound` — the graph so far is well formed: the ids are distinct, and every transition and
  every start point stays among them.
* `CursorSound` — every id the draft remembers is the id of a node, and **the cursor is in one of
  two positions**: either it waits at the decision of the innermost frame, with the condition of
  the branch just opened pending, or nothing is pending and the tail is no decision.

The second is what makes the first go through: a transition is written from the tail or from a
remembered id, never from anywhere else.  `Sound` is both, and **`sound_ofLines`** says that every
draft of every list of lines has it.
-/

namespace ActivityFlow.Diagram.Draft

/-! ## Nodes that are listed -/

/-- A node that is no decision.  Only such nodes are tails while nothing is pending. -/
def Settled (entries : List Entry) (id : String) : Prop :=
  ∃ origin, origin ≠ .decision ∧ Listed entries id origin

/-- A table that lists what another lists. -/
def Extends (entries' entries : List Entry) : Prop :=
  ∀ id origin, Listed entries id origin → Listed entries' id origin

lemma Listed.mem_ids {entries : List Entry} {id : String} {origin : Origin}
    (h : Listed entries id origin) : id ∈ entries.map (·.node.id) := by
  obtain ⟨e, he, rfl, _⟩ := h
  exact List.mem_map_of_mem he

lemma Settled.mem_ids {entries : List Entry} {id : String} (h : Settled entries id) :
    id ∈ entries.map (·.node.id) := by
  obtain ⟨_, _, hlisted⟩ := h
  exact hlisted.mem_ids

lemma Settled.mono {entries entries' : List Entry} (hext : Extends entries' entries) {id : String}
    (h : Settled entries id) : Settled entries' id := by
  obtain ⟨origin, hne, hlisted⟩ := h
  exact ⟨origin, hne, hext _ _ hlisted⟩

lemma Extends.mem_ids {entries entries' : List Entry} (hext : Extends entries' entries)
    {id : String} (h : id ∈ entries.map (·.node.id)) : id ∈ entries'.map (·.node.id) := by
  obtain ⟨e, he, rfl⟩ := List.mem_map.mp h
  exact (hext _ _ ⟨e, he, rfl, rfl⟩).mem_ids

/-- Distinct ids give each node one origin. -/
lemma Listed.origin_unique {entries : List Entry} (hnodup : (entries.map (·.node.id)).Nodup)
    {id : String} {o₁ o₂ : Origin} (h₁ : Listed entries id o₁) (h₂ : Listed entries id o₂) :
    o₁ = o₂ := by
  obtain ⟨e₁, he₁, hid₁, rfl⟩ := h₁
  obtain ⟨e₂, he₂, hid₂, rfl⟩ := h₂
  rw [List.inj_on_of_nodup_map hnodup he₁ he₂ (hid₁.trans hid₂.symm)]

/-! ## The two invariants -/

/-- Transitions that stay among the ids, are numbered from `count` on, and lead from a node to
    itself only under a condition that says something. -/
structure LinksSound (ids : List String) (count : ℕ) (links : List Transition) : Prop where
  ends : ∀ t ∈ links, t.source ∈ ids ∧ t.target ∈ ids
  numbered : ∀ n t, links[n]? = some t → t.id = "t_" ++ toString (count + n)
  selfLinks : ∀ t ∈ links, t.source = t.target → isBlankCondition t.condition = false

/-- **The graph so far is well formed.** -/
structure GraphSound (entries : List Entry) (transitions : List Transition)
    (startPoints : List StartPoint) : Prop where
  nodup : (entries.map (·.node.id)).Nodup
  nonempty : ∀ id ∈ entries.map (·.node.id), id ≠ ""
  /-- The marker of the beginning is a declared node. -/
  marker : ∀ origin, Listed entries startMarker origin → origin = .declared
  links : LinksSound (entries.map (·.node.id)) 0 transitions
  starts : ∀ p ∈ startPoints, p.node ∈ entries.map (·.node.id)

/-- What a frame remembers. -/
def FrameSound (entries : List Entry) : Frame → Prop
  | .branches decision ended current =>
      Listed entries decision .decision ∧ current.tail = none ∧
        ∀ b ∈ ended, ∀ id ∈ b.tail, Settled entries id
  | .loop entry => Listed entries entry .loopEntry

/-- The cursor waits at the decision of the innermost frame, whose current branch is not entered
    and has its condition pending. -/
def Waits (frames : List Frame) (tail pending : Option String) : Prop :=
  ∃ decision ended current rest, frames = .branches decision ended current :: rest ∧
    current.entered = false ∧ tail = some decision ∧ pending = some current.condition

/-- **The draft remembers nodes of the graph, and a condition is pending only at the decision it
    leads out of.** -/
structure CursorSound (entries : List Entry) (frames : List Frame)
    (tail pending declared : Option String) : Prop where
  lastDeclared : ∀ id ∈ declared, id ∈ entries.map (·.node.id)
  remembered : ∀ f ∈ frames, FrameSound entries f
  /-- Opening a frame enters the branch that it stands in. -/
  outer : ∀ f ∈ frames.tail, f.isEntered = true
  position : Waits frames tail pending ∨ pending = none ∧ ∀ id ∈ tail, Settled entries id

/-- A draft whose graph is well formed and whose memory is of its own nodes. -/
structure Sound (d : Draft) : Prop where
  graph : GraphSound d.entries d.transitions d.startPoints
  cursor : CursorSound d.entries d.frames d.tail d.pending d.declared

/-! ## Sound links -/

lemma LinksSound.append {ids : List String} {count : ℕ} {links links' : List Transition}
    (h : LinksSound ids count links) (h' : LinksSound ids (count + links.length) links') :
    LinksSound ids count (links ++ links') := by
  refine ⟨?_, ?_, ?_⟩
  · intro t ht
    exact (List.mem_append.mp ht).elim (h.ends t) (h'.ends t)
  · intro n t ht
    by_cases hlt : n < links.length
    · rw [List.getElem?_append_left hlt] at ht
      exact h.numbered n t ht
    · rw [List.getElem?_append_right (by omega)] at ht
      have hnum := h'.numbered _ t ht
      rwa [Nat.add_assoc, Nat.add_sub_cancel' (by omega)] at hnum
  · intro t ht
    exact (List.mem_append.mp ht).elim (h.selfLinks t) (h'.selfLinks t)

lemma LinksSound.nil (ids : List String) (count : ℕ) : LinksSound ids count [] :=
  ⟨by simp, by simp, by simp⟩

lemma LinksSound.mono {ids ids' : List String} {count : ℕ} {links : List Transition}
    (h : LinksSound ids count links) (hids : ∀ id ∈ ids, id ∈ ids') :
    LinksSound ids' count links :=
  ⟨fun t ht => ⟨hids _ (h.ends t ht).1, hids _ (h.ends t ht).2⟩, h.numbered, h.selfLinks⟩

lemma linksSound_linkOf {ids : List String} (count : ℕ) {source : Option String} {target : String}
    (condition : Option String) (hsource : ∀ id ∈ source, id ∈ ids) (htarget : target ∈ ids) :
    LinksSound ids count (linkOf count source target condition) := by
  cases source with
  | none => exact .nil ids count
  | some source =>
      simp only [linkOf]
      split
      · exact .nil ids count
      · rename_i hkept
        refine ⟨?_, ?_, ?_⟩
        · simpa using ⟨hsource source rfl, htarget⟩
        · intro n t ht
          cases n with
          | zero =>
              simp only [List.getElem?_cons_zero, Option.some.injEq] at ht
              subst ht
              rfl
          | succ n => simp at ht
        · simpa using hkept

lemma linksSound_joinsOf {ids : List String} {decision join : String} (hdecision : decision ∈ ids)
    (hjoin : join ∈ ids) (branches : List Branch) :
    ∀ count, (∀ b ∈ branches, ∀ id ∈ b.tail, id ∈ ids) →
      LinksSound ids count (joinsOf decision join count branches) := by
  induction branches with
  | nil => exact fun count _ => .nil ids count
  | cons b rest ih =>
      intro count htails
      have hfirst : LinksSound ids count (if b.entered then linkOf count b.tail join none
          else linkOf count (some decision) join (some b.condition)) := by
        split
        · exact linksSound_linkOf count _ (htails b List.mem_cons_self) hjoin
        · exact linksSound_linkOf count _ (by simpa using hdecision) hjoin
      exact hfirst.append (ih _ fun b' hb' => htails b' (List.mem_cons_of_mem _ hb'))

lemma linksSound_exitsOf {ids : List String} (count : ℕ) {tail : Option String}
    {entry after : String} (condition : Option String) (htail : ∀ id ∈ tail, id ∈ ids)
    (hentry : entry ∈ ids) (hafter : after ∈ ids) :
    LinksSound ids count (exitsOf count tail entry after condition) := by
  refine LinksSound.append ?_ (linksSound_linkOf _ _ htail hafter)
  split
  · exact .nil ids count
  · cases condition with
    | none => exact .nil ids count
    | some c => exact linksSound_linkOf count _ htail hentry

/-! ## What a move keeps of the graph -/

variable {d : Draft} {entries : List Entry}

lemma Supplied.extends {origin : Origin} {p : Draft × String} (hs : Supplied d origin p) :
    Extends p.1.entries d.entries := by
  cases hs with
  | found listed => exact fun _ _ h => h
  | made _ fresh nonempty marker =>
      rintro id o ⟨e, he, hid, ho⟩
      exact ⟨e, List.mem_append_left _ he, hid, ho⟩

lemma GraphSound.supply (h : GraphSound d.entries d.transitions d.startPoints) {origin : Origin}
    {p : Draft × String} (hs : Supplied d origin p) :
    GraphSound p.1.entries p.1.transitions p.1.startPoints := by
  cases hs with
  | found listed => exact h
  | @made counter id label fresh nonempty marker =>
      have hids : (addNode { d with counter := counter } id label origin).entries.map (·.node.id)
          = d.ids ++ [id] := by simp [addNode, ids]
      refine ⟨?_, ?_, ?_, ?_, ?_⟩
      · rw [hids]
        exact h.nodup.append (List.nodup_singleton id) (List.disjoint_singleton.mpr fresh)
      · rw [hids]
        intro x hx
        rcases List.mem_append.mp hx with hx | hx
        · exact h.nonempty x hx
        · rwa [List.mem_singleton.mp hx]
      · rintro o ⟨e, he, hid, rfl⟩
        rcases List.mem_append.mp he with he | he
        · exact h.marker _ ⟨e, he, hid, rfl⟩
        · rw [List.mem_singleton.mp he] at hid ⊢
          exact marker hid
      · rw [hids]
        exact h.links.mono fun x hx => List.mem_append_left _ hx
      · rw [hids]
        exact fun p hp => List.mem_append_left _ (h.starts p hp)

lemma GraphSound.addLinks {transitions links : List Transition} {startPoints : List StartPoint}
    (h : GraphSound entries transitions startPoints)
    (hlinks : LinksSound (entries.map (·.node.id)) transitions.length links) :
    GraphSound entries (transitions ++ links) startPoints :=
  ⟨h.nodup, h.nonempty, h.marker, h.links.append (by simpa using hlinks), h.starts⟩

/-- Changing what stands on a node, and not its id, lists the same nodes. -/
lemma listed_modifyNode (id : String) {change : Node → Node} (hid : ∀ n, (change n).id = n.id)
    (x : String) (origin : Origin) :
    Listed (d.modifyNode id change).entries x origin ↔ Listed d.entries x origin := by
  constructor
  · rintro ⟨e', he', hx, ho⟩
    obtain ⟨e, he, rfl⟩ := List.mem_map.mp he'
    refine ⟨e, he, ?_, ?_⟩
    · rw [← hx]; split <;> simp [hid]
    · rw [← ho]; split <;> rfl
  · rintro ⟨e, he, hx, ho⟩
    refine ⟨_, List.mem_map_of_mem he, ?_, ?_⟩
    · rw [← hx]; split <;> simp [hid]
    · rw [← ho]; split <;> rfl

lemma ids_modifyNode (id : String) {change : Node → Node} (hid : ∀ n, (change n).id = n.id) :
    (d.modifyNode id change).entries.map (·.node.id) = d.entries.map (·.node.id) := by
  simp only [modifyNode, List.map_map]
  refine List.map_congr_left fun e _ => ?_
  rw [Function.comp_apply]
  split <;> simp [hid]

/-! ## What a move keeps of the memory -/

lemma FrameSound.mono {entries' : List Entry} (hext : Extends entries' entries) :
    ∀ {f : Frame}, FrameSound entries f → FrameSound entries' f
  | .branches _ _ _, ⟨hdecision, hcurrent, hended⟩ =>
      ⟨hext _ _ hdecision, hcurrent, fun b hb id hid => (hended b hb id hid).mono hext⟩
  | .loop _, h => hext _ _ h

lemma frameSound_of_mem_enterTop : ∀ {frames : List Frame},
    (∀ f ∈ frames, FrameSound entries f) → ∀ f ∈ enterTop frames, FrameSound entries f
  | [], h => h
  | .branches _ _ _ :: _, h => by
      intro f hf
      rcases List.mem_cons.mp hf with rfl | hf
      · obtain ⟨hdecision, hcurrent, hended⟩ := h _ List.mem_cons_self
        exact ⟨hdecision, hcurrent, hended⟩
      · exact h f (List.mem_cons_of_mem _ hf)
  | .loop _ :: _, h => h

variable {frames : List Frame} {tail pending declared : Option String}

lemma CursorSound.mono {entries' : List Entry} (hext : Extends entries' entries)
    (h : CursorSound entries frames tail pending declared) :
    CursorSound entries' frames tail pending declared :=
  ⟨fun id hid => hext.mem_ids (h.lastDeclared id hid), fun f hf => (h.remembered f hf).mono hext,
    h.outer, h.position.imp id fun hp => ⟨hp.1, fun id hid => (hp.2 id hid).mono hext⟩⟩

/-- The tail is a node in either position. -/
lemma CursorSound.tail_mem (h : CursorSound entries frames tail pending declared) :
    ∀ id ∈ tail, id ∈ entries.map (·.node.id) := by
  intro id hid
  rcases h.position with ⟨decision, ended, current, rest, hframes, _, htail, _⟩ | ⟨_, hsettled⟩
  · have hframe := h.remembered _ (hframes ▸ List.mem_cons_self)
    rw [htail, Option.mem_some_iff] at hid
    exact hid ▸ hframe.1.mem_ids
  · exact (hsettled id hid).mem_ids

/-- In an entered branch the tail is no decision. -/
lemma CursorSound.settled_endBranch {decision : String} {ended : List Branch} {current : Branch}
    {rest : List Frame}
    (h : CursorSound entries (.branches decision ended current :: rest) tail pending declared) :
    ∀ id ∈ (endBranch current tail).tail, Settled entries id := by
  intro id hid
  cases hentered : current.entered with
  | false => simp [endBranch, hentered] at hid
  | true =>
      simp only [endBranch, hentered, if_true] at hid
      -- a cursor that waits at the decision would have the branch not entered
      rcases h.position with ⟨_, _, _, _, hframes, hnot, _, _⟩ | ⟨_, hsettled⟩
      · simp only [List.cons.injEq, Frame.branches.injEq] at hframes
        obtain ⟨⟨_, _, rfl⟩, _⟩ := hframes
        rw [hentered] at hnot
        exact Bool.noConfusion hnot
      · exact hsettled id hid

/-- Moving the cursor to a node that is no decision, with the innermost branch entered. -/
lemma CursorSound.enterAt (hdeclared : ∀ id ∈ declared, id ∈ entries.map (·.node.id))
    (hremembered : ∀ f ∈ frames, FrameSound entries f)
    (houter : ∀ f ∈ frames.tail, f.isEntered = true) {id : String} (hid : Settled entries id) :
    CursorSound entries (enterTop frames) (some id) none declared :=
  ⟨hdeclared, frameSound_of_mem_enterTop hremembered,
    fun f hf => isEntered_of_mem_enterTop houter f (List.mem_of_mem_tail hf),
    Or.inr ⟨rfl, by simpa using hid⟩⟩

/-- Moving the cursor without entering anything. -/
lemma CursorSound.jumpTo (h : CursorSound entries frames tail pending declared) {id : String}
    (hid : Settled entries id) : CursorSound entries frames (some id) none (some id) :=
  ⟨by simpa using hid.mem_ids, h.remembered, h.outer, Or.inr ⟨rfl, by simpa using hid⟩⟩

/-! ## What an operation keeps -/

lemma Sound.supply (h : Sound d) {origin : Origin} {p : Draft × String}
    (hs : Supplied d origin p) : Sound p.1 := by
  refine ⟨h.graph.supply hs, ?_⟩
  have hcursor := h.cursor.mono hs.extends
  cases hs with
  | found listed => exact hcursor
  | made _ fresh nonempty marker => exact hcursor

lemma Sound.attach (h : Sound d) {id : String} (hid : Settled d.entries id) :
    Sound (d.attach id) := by
  rw [attach_eq]
  exact ⟨h.graph.addLinks (linksSound_linkOf _ _ h.cursor.tail_mem hid.mem_ids),
    .enterAt h.cursor.lastDeclared h.cursor.remembered h.cursor.outer hid⟩

lemma Sound.attachDeclare (h : Sound d) {id : String} (hid : Settled d.entries id) :
    Sound ((d.attach id).declare id) := by
  obtain ⟨hgraph, hcursor⟩ := h.attach hid
  exact ⟨hgraph, by simpa [Draft.declare] using hid.mem_ids, hcursor.remembered, hcursor.outer,
    hcursor.position⟩

lemma Sound.modifyNode (h : Sound d) (id : String) {change : Node → Node}
    (hid : ∀ n, (change n).id = n.id) : Sound (d.modifyNode id change) := by
  have hids := ids_modifyNode (d := d) id hid
  have hlisted := listed_modifyNode (d := d) id hid
  refine ⟨⟨?_, ?_, ?_, ?_, ?_⟩, h.cursor.mono fun x o hx => (hlisted x o).mpr hx⟩
  · rw [hids]; exact h.graph.nodup
  · rw [hids]; exact h.graph.nonempty
  · exact fun o ho => h.graph.marker o ((hlisted _ o).mp ho)
  · rw [hids]; exact h.graph.links
  · rw [hids]; exact h.graph.starts

lemma Sound.resolve (h : Sound d) (token : String) :
    Sound (d.resolve token).1 ∧ Settled (d.resolve token).1.entries (d.resolve token).2 := by
  have hs := supplied_resolve h.graph.marker token
  exact ⟨h.supply hs, _, by decide, hs.listed⟩

lemma Sound.act (h : Sound d) (text : ActionText) : Sound (d.act text) := by
  cases text with
  | empty written => exact ⟨h.graph, h.cursor⟩
  | labelled label stereotype =>
      have hdone := (h.resolve label).1.attachDeclare (h.resolve label).2
      rcases hresolve : d.resolve label with ⟨d', id⟩
      rw [hresolve] at hdone
      simp only [Draft.act, hresolve]
      cases stereotype with
      | none => exact hdone
      | some name => exact hdone.modifyNode id fun _ => rfl

lemma Sound.annotate (h : Sound d) (id body : String) : Sound (d.annotate id body) := by
  simp only [Draft.annotate]
  exact h.modifyNode id fun _ => rfl

lemma Sound.annotateTarget (h : Sound d) (target : Option String) (body : String) :
    Sound (d.annotateTarget target body) := by
  cases target with
  | some token =>
      have hresolved := (h.resolve token).1
      rcases hresolve : d.resolve token with ⟨d', id⟩
      rw [hresolve] at hresolved
      simp only [Draft.annotateTarget, hresolve]
      exact hresolved.annotate id body
  | none =>
      simp only [Draft.annotateTarget]
      split
      · exact h.annotate _ body
      · exact h

lemma Sound.beginAt (h : Sound d) {id : String} (hid : Settled d.entries id) :
    Sound (d.beginAt id) := by
  refine ⟨⟨h.graph.nodup, h.graph.nonempty, h.graph.marker, h.graph.links, ?_⟩,
    h.cursor.jumpTo hid⟩
  intro p hp
  rcases List.mem_append.mp hp with hp | hp
  · exact h.graph.starts p hp
  · rw [List.mem_singleton.mp hp]
    exact hid.mem_ids

lemma Sound.begin (h : Sound d) : Sound d.begin :=
  (h.resolve "Start").1.beginAt (h.resolve "Start").2

lemma Sound.halt (h : Sound d) : Sound d.halt := by
  have hdone := (h.resolve "Stop").1.attachDeclare (h.resolve "Stop").2
  refine ⟨hdone.graph, hdone.cursor.lastDeclared, hdone.cursor.remembered, hdone.cursor.outer,
    Or.inr ⟨by simp [Draft.halt, Draft.declare, attach_eq], by simp [Draft.halt]⟩⟩

lemma Sound.linkJump (h : Sound d) {source : Option String} {id : String}
    (hsource : ∀ x ∈ source, x ∈ d.ids) (hid : Settled d.entries id) (condition : Option String) :
    Sound ((d.link source id condition).jump id) := by
  rw [link_eq]
  exact ⟨h.graph.addLinks (linksSound_linkOf _ _ hsource hid.mem_ids), h.cursor.jumpTo hid⟩

lemma Sound.addArrow (h : Sound d) (source target : String) (condition : Option String) :
    Sound (d.addArrow source target condition) := by
  simp only [Draft.addArrow]
  split
  · exact (h.resolve target).1.beginAt (h.resolve target).2
  · split
    · obtain ⟨hsound, hsettled⟩ := h.resolve target
      refine hsound.linkJump ?_ hsettled condition
      exact fun x hx => (supplied_resolve h.graph.marker target).extends.mem_ids
        (h.cursor.tail_mem x hx)
    · obtain ⟨hfirst, hfrom⟩ := h.resolve source
      obtain ⟨hsound, hsettled⟩ := hfirst.resolve target
      refine hsound.linkJump ?_ hsettled condition
      intro x hx
      rw [Option.mem_some_iff] at hx
      exact hx ▸ (supplied_resolve hfirst.graph.marker target).extends.mem_ids hfrom.mem_ids

/-! ## Frames -/

/-- Closing a loop whose frame is off the stack, with a way back or without.  The cursor was sound
    with the frame on it. -/
lemma sound_closeLoop (hgraph : GraphSound d.entries d.transitions d.startPoints)
    {entry : String}
    (hcursor : CursorSound d.entries (.loop entry :: d.frames) d.tail d.pending d.declared)
    (condition : Option String) : Sound (d.closeLoop entry condition) := by
  obtain ⟨entries, counter, after, hmade, hs⟩ := exists_addMade d "after_loop" .afterLoop
  have hafter : Settled entries after := ⟨.afterLoop, by decide, hs.listed⟩
  have hmoved := hcursor.mono hs.extends
  have hentry := (hmoved.remembered _ List.mem_cons_self).mem_ids
  rw [closeLoop_eq hmade]
  refine ⟨(hgraph.supply hs).addLinks
    (linksSound_exitsOf _ _ hmoved.tail_mem hentry hafter.mem_ids), ?_⟩
  exact .enterAt hmoved.lastDeclared
    (fun f hf => hmoved.remembered f (List.mem_cons_of_mem _ hf))
    (fun f hf => hmoved.outer f (List.mem_of_mem_tail hf)) hafter

lemma sound_closeBranches (hgraph : GraphSound d.entries d.transitions d.startPoints)
    {decision : String} {ended : List Branch} {current : Branch}
    (hcursor : CursorSound d.entries (.branches decision ended current :: d.frames) d.tail
      d.pending d.declared) : Sound (d.closeBranches decision ended current) := by
  obtain ⟨entries, counter, join, hmade, hs⟩ := exists_addMade d "join" .join
  have hjoin : Settled entries join := ⟨.join, by decide, hs.listed⟩
  have hmoved := hcursor.mono hs.extends
  obtain ⟨hdecision, -, hended⟩ := hmoved.remembered _ List.mem_cons_self
  have htails : ∀ b ∈ ended ++ [endBranch current d.tail], ∀ id ∈ b.tail,
      id ∈ entries.map (·.node.id) := by
    intro b hb id hid
    rcases List.mem_append.mp hb with hb | hb
    · exact (hended b hb id hid).mem_ids
    · rw [List.mem_singleton.mp hb] at hid
      exact (hmoved.settled_endBranch id hid).mem_ids
  rw [closeBranches_eq hmade]
  refine ⟨(hgraph.supply hs).addLinks
    (linksSound_joinsOf hdecision.mem_ids hjoin.mem_ids _ _ htails), ?_⟩
  exact .enterAt hmoved.lastDeclared
    (fun f hf => hmoved.remembered f (List.mem_cons_of_mem _ hf))
    (fun f hf => hmoved.outer f (List.mem_of_mem_tail hf)) hjoin

lemma Sound.closeFrame (h : Sound d) {f : Frame} {rest : List Frame}
    (hframes : d.frames = f :: rest) : Sound ({ d with frames := rest }.closeFrame f) := by
  have hcursor := h.cursor
  rw [hframes] at hcursor
  cases f with
  | branches decision ended current =>
      exact sound_closeBranches (d := { d with frames := rest }) h.graph hcursor
  | loop entry => exact sound_closeLoop (d := { d with frames := rest }) h.graph hcursor none

lemma Sound.unwind (h : Sound d) (kind : Frame → Bool) : Sound (d.unwind kind) :=
  unwind_induction (fun _ _ _ hframes _ h => h.closeFrame hframes) h

lemma Sound.closeIf (h : Sound d) : Sound d.closeIf := by
  simp only [Draft.closeIf]
  split
  · rename_i hframes
    exact (h.unwind _).closeFrame hframes
  · exact h.unwind _

lemma Sound.endLoop (h : Sound d) (condition : String) : Sound (d.endLoop condition) := by
  simp only [Draft.endLoop]
  split
  · rename_i entry rest hframes
    obtain ⟨hgraph, hcursor⟩ := h.unwind fun f => !isBranches f
    rw [hframes] at hcursor
    exact sound_closeLoop (d := { d.unwind _ with frames := rest }) hgraph hcursor _
  · exact h.unwind _

lemma Sound.openIf (h : Sound d) (condition : String) : Sound (d.openIf condition) := by
  obtain ⟨entries, counter, decision, hmade, hs⟩ :=
    exists_addMade d ("if: " ++ condition) .decision
  obtain ⟨hgraph, hcursor⟩ := h.supply hs
  have hmem := hs.listed.mem_ids
  simp only [Draft.openIf, hmade, Draft.declare, attach_eq]
  refine ⟨hgraph.addLinks (linksSound_linkOf _ _ hcursor.tail_mem hmem), by simpa using hmem,
    ?_, isEntered_of_mem_enterTop hcursor.outer, Or.inl ⟨_, _, _, _, rfl, rfl, rfl, rfl⟩⟩
  intro f hf
  rcases List.mem_cons.mp hf with rfl | hf
  · exact ⟨hs.listed, rfl, by simp⟩
  · exact frameSound_of_mem_enterTop hcursor.remembered f hf

lemma Sound.nextBranch (h : Sound d) (condition : String) : Sound (d.nextBranch condition) := by
  simp only [Draft.nextBranch]
  split
  · rename_i decision ended current rest hframes
    obtain ⟨hgraph, hcursor⟩ := h.unwind isBranches
    rw [hframes] at hcursor
    obtain ⟨hdecision, -, hended⟩ := hcursor.remembered _ List.mem_cons_self
    refine ⟨hgraph, hcursor.lastDeclared, ?_, hcursor.outer,
      Or.inl ⟨_, _, _, _, rfl, rfl, rfl, rfl⟩⟩
    intro f hf
    rcases List.mem_cons.mp hf with rfl | hf
    · refine ⟨hdecision, rfl, fun b hb => ?_⟩
      rcases List.mem_append.mp hb with hb | hb
      · exact hended b hb
      · rw [List.mem_singleton.mp hb]
        exact hcursor.settled_endBranch
    · exact hcursor.remembered f (List.mem_cons_of_mem _ hf)
  · exact h.unwind _

lemma Sound.openLoop (h : Sound d) (first : Option ActionText) : Sound (d.openLoop first) := by
  obtain ⟨entries, counter, entry, hmade, hs⟩ := exists_addMade d "loop_entry" .loopEntry
  have hentry : Settled entries entry := ⟨.loopEntry, by decide, hs.listed⟩
  have hopened : Sound (d.openLoop none) := by
    obtain ⟨hgraph, hcursor⟩ := (h.supply hs).attach hentry
    rw [attach_eq] at hgraph hcursor
    simp only [Draft.openLoop, hmade, attach_eq]
    refine ⟨hgraph, hcursor.lastDeclared, ?_,
      isEntered_of_mem_enterTop (h.supply hs).cursor.outer, Or.inr ⟨rfl, by simpa using hentry⟩⟩
    intro f hf
    rcases List.mem_cons.mp hf with rfl | hf
    · exact hs.listed
    · exact hcursor.remembered f hf
  cases first with
  | none => exact hopened
  | some text => exact hopened.act text

/-! ## Lines -/

/-- What a line says beside the graph does not matter to soundness. -/
lemma Sound.withAside (h : Sound d) (block : Block) (remarks : Remarks) :
    Sound { d with block := block, remarks := remarks } :=
  ⟨h.graph, h.cursor⟩

lemma Sound.takeLine (h : Sound d) (raw : List Char) : Sound (d.takeLine raw) := by
  simp only [Draft.takeLine]
  cases Line.read d.ifOpen raw with
  | style ends => cases ends <;> exact h.withAside _ _
  | skinparam name value => exact h.withAside _ _
  | pragma name value => exact h.withAside _ _
  | shortNote body => exact h.annotateTarget none body
  | inlineNote target body => exact h.annotateTarget (some target) body
  | blockNote target => exact h.withAside _ _
  | start => exact h.begin
  | stop => exact h.halt
  | openIf condition => exact h.openIf condition
  | nextBranch condition => exact h.nextBranch condition
  | closeIf => exact h.closeIf
  | closeLoop condition =>
      dsimp only
      split
      · exact h.endLoop condition
      · exact h.withAside _ _
  | openLoop first => exact h.openLoop first
  | arrow source target condition => exact h.addArrow source target condition
  | looseArrow report => exact h.withAside _ _
  | action text => exact h.act text
  | unknown => exact h.withAside _ _

/-- **One line keeps a draft sound**, inside a block or outside. -/
theorem Sound.step (h : Sound d) (raw : List Char) : Sound (d.step raw) := by
  simp only [Draft.step]
  split
  · exact h.takeLine raw
  · split
    · exact h.withAside .none _
    · exact h.withAside _ _
  · split
    · exact (h.withAside .none d.remarks).annotateTarget _ _
    · exact h.withAside _ _

lemma Sound.foldl (h : Sound d) (lines : List (List Char)) :
    Sound (lines.foldl Draft.step d) := by
  induction lines generalizing d with
  | nil => exact h
  | cons raw rest ih => exact ih (h.step raw)

lemma sound_empty : Sound {} :=
  ⟨⟨by simp, by simp, by simp [Listed], .nil _ _, by simp⟩, by simp, by simp, by simp,
    Or.inr ⟨rfl, by simp⟩⟩

lemma Sound.endBlock (h : Sound d) : Sound d.endBlock := by
  simp only [Draft.endBlock]
  split
  · exact h
  · exact h.withAside .none _
  · exact (h.withAside .none d.remarks).annotateTarget _ _

/-- **Every draft of every list of lines is sound.** -/
theorem sound_ofLines (lines : List (List Char)) : Sound (ofLines lines) :=
  ((sound_empty.foldl lines).endBlock).unwind _

end ActivityFlow.Diagram.Draft
