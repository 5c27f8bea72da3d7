import ActivityFlow.Proofs.Diagram.Naming

/-!
# A stop is final

Nothing leads on from a stop, wherever it stands: at the end of a branch, inside a loop, before an
`else`, an `endif` or a `repeat while`, or with further actions behind it.  A transition is written
from three places only, and the node of the stops is in none of them:

* the **tail**, which a stop leaves empty,
* what the **frames** keep, a decision and the nodes in which its branches ended (`Frame.sources`),
* the **source of an arrow**, which is the node that a token names.

So the node of the stops must not come to be the tail by another line, and that is what the
condition on the tokens is for (`Draft.avoids`).  The rest is about names.  Made ids hold an
underscore, so the id `Stop` is the label of its node, and a token with another label never comes to
it (`Legible.resolved_ne`).

* `NeverLeft` — no transition leaves a node, and none is going to.
* `Legible` — an id without an underscore is the label of its node.
* `Final.takeLine` — one line that avoids the label keeps it.
* **`read_stopIsFinal`** — no transition of the definition leaves `Stop`, and every stop is put
  there.
-/

namespace ActivityFlow.Diagram

/-! ## The tokens of a line -/

/-- The tokens that a line leads from or to: the label of its action, or the two ends of its
    arrow. -/
def Line.tokens : Line → List String
  | .action (.labelled token _) => [token]
  | .openLoop (some (.labelled token _)) => [token]
  | .arrow source target _ => [source, target]
  | _ => []

/-- Whether no line that is read behind a draft leads from or to a label.  The lines of a block are
    not read. -/
def Draft.avoids (label : String) : Draft → List (List Char) → Bool
  | _, [] => true
  | d, raw :: rest =>
      (d.block != .none ||
          (Line.read d.ifOpen raw).tokens.all fun token => normalizeLabel token != label) &&
        avoids label (d.step raw) rest

/-! ## The sources of transitions -/

/-- What a frame keeps to link from: a decision, and the nodes in which its branches ended. -/
def Frame.sources : Frame → List String
  | .branches decision ended _ => decision :: ended.filterMap (·.tail)
  | .loop _ => []

namespace Draft

lemma source_of_mem_linkOf {count : ℕ} {source : Option String} {target : String}
    {condition : Option String} {t : Transition} (h : t ∈ linkOf count source target condition) :
    source = some t.source := by
  cases source with
  | none => simp [linkOf] at h
  | some source =>
      simp only [linkOf] at h
      split at h
      · simp at h
      · rw [List.mem_singleton.mp h]

/-- A join is linked from the decision and from the nodes in which branches ended. -/
lemma source_of_mem_joinsOf {decision join : String} {t : Transition} :
    ∀ {branches : List Branch} {count : ℕ}, t ∈ joinsOf decision join count branches →
      t.source = decision ∨ ∃ b ∈ branches, b.tail = some t.source
  | [], _, h => by simp [joinsOf] at h
  | b :: rest, count, h => by
      rw [joinsOf] at h
      rcases List.mem_append.mp h with h | h
      · split at h
        · exact Or.inr ⟨b, List.mem_cons_self, source_of_mem_linkOf h⟩
        · exact Or.inl (Option.some.inj (source_of_mem_linkOf h)).symm
      · refine (source_of_mem_joinsOf h).imp_right ?_
        rintro ⟨b', hb', htail⟩
        exact ⟨b', List.mem_cons_of_mem _ hb', htail⟩

/-- Both ways out of a loop begin at the tail. -/
lemma source_of_mem_exitsOf {count : ℕ} {tail : Option String} {entry after : String}
    {condition : Option String} {t : Transition}
    (h : t ∈ exitsOf count tail entry after condition) : tail = some t.source := by
  rcases List.mem_append.mp h with h | h
  · split at h
    · simp at h
    · cases condition with
      | none => simp at h
      | some c => exact source_of_mem_linkOf h
  · exact source_of_mem_linkOf h

end Draft

lemma sources_of_mem_enterTop : ∀ {frames : List Frame} {f : Frame}, f ∈ enterTop frames →
    ∃ f' ∈ frames, f'.sources = f.sources
  | [], f, h => by simp at h
  | .branches _ _ _ :: rest, f, h => by
      rcases List.mem_cons.mp h with rfl | h
      · exact ⟨_, List.mem_cons_self, rfl⟩
      · exact ⟨f, List.mem_cons_of_mem _ h, rfl⟩
  | .loop _ :: _, f, h => ⟨f, h, rfl⟩

/-! ## A node that nothing leaves -/

/-- **No transition leaves a node, and none is going to**: it is not the tail, and no frame keeps
    it. -/
structure NeverLeft (x : String) (transitions : List Transition) (tail : Option String)
    (frames : List Frame) : Prop where
  links : ∀ t ∈ transitions, t.source ≠ x
  tail : tail ≠ some x
  frames : ∀ f ∈ frames, x ∉ f.sources

section NeverLeft

variable {x : String} {ts links : List Transition} {tail tail' : Option String}
  {frames : List Frame}

/-- Writing transitions and going on from another node. -/
lemma NeverLeft.goOn (h : NeverLeft x ts tail frames) (hlinks : ∀ t ∈ links, t.source ≠ x)
    (htail : tail' ≠ some x) : NeverLeft x (ts ++ links) tail' (enterTop frames) := by
  refine ⟨?_, htail, ?_⟩
  · intro t ht
    exact (List.mem_append.mp ht).elim (h.links t) (hlinks t)
  · intro f hf
    obtain ⟨f', hf', hsources⟩ := sources_of_mem_enterTop hf
    rw [← hsources]
    exact h.frames f' hf'

/-- Taking a frame away. -/
lemma NeverLeft.pop {f : Frame} (h : NeverLeft x ts tail (f :: frames)) :
    NeverLeft x ts tail frames :=
  ⟨h.links, h.tail, fun f' hf' => h.frames f' (List.mem_cons_of_mem _ hf')⟩

/-- Putting a frame on. -/
lemma NeverLeft.push (h : NeverLeft x ts tail frames) {f : Frame} (hf : x ∉ f.sources) :
    NeverLeft x ts tail (f :: frames) := by
  refine ⟨h.links, h.tail, fun f' hf' => ?_⟩
  rcases List.mem_cons.mp hf' with rfl | hf'
  · exact hf
  · exact h.frames f' hf'

/-- Going on from another node without writing anything. -/
lemma NeverLeft.moveTo (h : NeverLeft x ts tail frames) (htail : tail' ≠ some x) :
    NeverLeft x ts tail' frames :=
  ⟨h.links, htail, h.frames⟩

lemma NeverLeft.source_ne (h : NeverLeft x ts tail frames) {t : Transition}
    (ht : tail = some t.source) : t.source ≠ x := by
  intro hx
  exact h.tail (hx ▸ ht)

/-- The branch that ends now ends in the tail, or is kept without a node. -/
lemma NeverLeft.not_mem_ended {decision : String} {ended : List Branch} {current : Branch}
    (h : NeverLeft x ts tail (.branches decision ended current :: frames)) :
    x ∉ decision :: (ended ++ [Draft.endBranch current tail]).filterMap (·.tail) := by
  have hkept := h.frames _ List.mem_cons_self
  simp only [Frame.sources, List.mem_cons, not_or] at hkept
  rw [List.filterMap_append, List.mem_cons, List.mem_append, not_or, not_or]
  refine ⟨hkept.1, hkept.2, ?_⟩
  intro hmem
  obtain ⟨b, hb, htail⟩ := List.mem_filterMap.mp hmem
  rw [List.mem_singleton.mp hb, Draft.endBranch] at htail
  split at htail
  · exact h.tail htail
  · simp at htail

end NeverLeft

/-! ## The operations -/

namespace Draft

variable {d : Draft} {x : String}

/-- **A node of a draft is final.** -/
def Final (x : String) (d : Draft) : Prop :=
  NeverLeft x d.transitions d.tail d.frames

lemma Final.attach (h : Final x d) {id : String} (hid : id ≠ x) : Final x (d.attach id) := by
  rw [attach_eq]
  exact h.goOn (fun _ ht => h.source_ne (source_of_mem_linkOf ht)) (by simpa using hid)

/-- A stop may be put on any node, since it leaves no tail. -/
lemma Final.attachHalt (h : Final x d) (id : String) :
    Final x { (d.attach id).declare id with tail := none } := by
  rw [attach_eq]
  exact h.goOn (fun _ ht => h.source_ne (source_of_mem_linkOf ht)) (by simp)

lemma Final.beginAt (h : Final x d) {id : String} (hid : id ≠ x) : Final x (d.beginAt id) := by
  have htail : some id ≠ some x := by simpa using hid
  exact h.moveTo htail

lemma Final.linkJump (h : Final x d) {source : Option String} (hsource : source ≠ some x)
    {id : String} (hid : id ≠ x) (condition : Option String) :
    Final x ((d.link source id condition).jump id) := by
  have htail : some id ≠ some x := by simpa using hid
  rw [link_eq]
  refine ⟨?_, htail, h.frames⟩
  intro t ht
  rcases List.mem_append.mp ht with ht | ht
  · exact h.links t ht
  · intro hx
    exact hsource (hx ▸ source_of_mem_linkOf ht)

lemma Final.closeBranches {decision : String} {ended : List Branch} {current : Branch}
    (h : NeverLeft x d.transitions d.tail (.branches decision ended current :: d.frames))
    (hx : '_' ∉ x.toList) : Final x (d.closeBranches decision ended current) := by
  have hkept := h.not_mem_ended
  rw [closeBranches_eq rfl]
  refine h.pop.goOn ?_ ?_
  · intro t ht hsource
    rw [List.mem_cons, not_or] at hkept
    rcases source_of_mem_joinsOf ht with hdecision | ⟨b, hb, htail⟩
    · exact hkept.1 (hsource.symm.trans hdecision)
    · exact hkept.2 (List.mem_filterMap.mpr ⟨b, hb, hsource ▸ htail⟩)
  · simpa using makeId_ne hx _ _

lemma Final.closeLoop (h : Final x d) (hx : '_' ∉ x.toList) (entry : String)
    (condition : Option String) : Final x (d.closeLoop entry condition) := by
  rw [closeLoop_eq rfl]
  exact h.goOn (fun _ ht => h.source_ne (source_of_mem_exitsOf ht))
    (by simpa using makeId_ne hx _ _)

section Frames

variable (hx : '_' ∉ x.toList)
include hx

lemma Final.closeFrame {f : Frame} (h : NeverLeft x d.transitions d.tail (f :: d.frames)) :
    Final x (d.closeFrame f) := by
  cases f with
  | branches decision ended current => exact Final.closeBranches h hx
  | loop entry => exact Final.closeLoop h.pop hx entry none

lemma Final.unwind (h : Final x d) (kind : Frame → Bool) : Final x (d.unwind kind) := by
  refine unwind_induction (fun d f rest hframes _ h => ?_) h
  rw [Final, hframes] at h
  exact Final.closeFrame (d := { d with frames := rest }) hx h

lemma Final.closeIf (h : Final x d) : Final x d.closeIf := by
  have hunwound := h.unwind hx isBranches
  simp only [Draft.closeIf]
  split
  · rename_i decision ended current rest hframes
    rw [Final, hframes] at hunwound
    exact Final.closeBranches (d := { d.unwind isBranches with frames := rest }) hunwound hx
  · exact hunwound

lemma Final.endLoop (h : Final x d) (condition : String) : Final x (d.endLoop condition) := by
  have hunwound := h.unwind hx fun f => !isBranches f
  simp only [Draft.endLoop]
  split
  · rename_i entry rest hframes
    rw [Final, hframes] at hunwound
    exact Final.closeLoop (d := { d.unwind _ with frames := rest }) hunwound.pop hx entry _
  · exact hunwound

lemma Final.nextBranch (h : Final x d) (condition : String) :
    Final x (d.nextBranch condition) := by
  have hunwound := h.unwind hx isBranches
  simp only [Draft.nextBranch]
  split
  · rename_i decision ended current rest hframes
    rw [Final, hframes] at hunwound
    have hkept := hunwound.not_mem_ended
    have htail : some decision ≠ some x := by
      simp only [List.mem_cons, not_or] at hkept
      simpa using Ne.symm hkept.1
    exact (hunwound.pop.push (f := .branches decision _ ⟨condition, false, none⟩) hkept).moveTo
      htail
  · exact hunwound

lemma Final.openIf (h : Final x d) (condition : String) : Final x (d.openIf condition) := by
  have hdecision := makeId_ne hx ("if: " ++ condition)
    (freshIndex ("if: " ++ condition) d.ids d.counter)
  have hattached := Final.attach (d := (d.addMade ("if: " ++ condition) .decision).1) h hdecision
  exact hattached.push (by simpa [Frame.sources] using Ne.symm hdecision)

lemma Final.openLoop (h : Final x d) : Final x (d.openLoop none) := by
  have hentry := makeId_ne hx "loop_entry" (freshIndex "loop_entry" d.ids d.counter)
  have hattached := Final.attach (d := (d.addMade "loop_entry" .loopEntry).1) h hentry
  exact hattached.push (by simp [Frame.sources])

end Frames

end Draft

/-! ## Ids that are labels -/

/-- The id of a node is its label, or it was made. -/
def Entry.Spelled (e : Entry) : Prop :=
  (e.origin = .declared ∧ e.node.label = some e.node.id) ∨
    ∃ stem index, e.node.id = makeId stem index

/-- **A table whose ids can be read**: one without an underscore is a label. -/
structure Legible (entries : List Entry) : Prop where
  catalogued : Catalogued entries
  spelled : ∀ e ∈ entries, e.Spelled

namespace Draft

lemma upheld_spelled : Upheld fun entries => ∀ e ∈ entries, e.Spelled := by
  have hmodify : ∀ (d : Draft) (id : String) (change : Node → Node),
      (∀ n, (change n).id = n.id ∧ (change n).label = n.label) → (∀ e ∈ d.entries, e.Spelled) →
        ∀ e ∈ (d.modifyNode id change).entries, e.Spelled := by
    intro d id change hchange h e' he'
    obtain ⟨e, he, rfl⟩ := List.mem_map.mp he'
    have hspelled := h e he
    split
    · simpa only [Entry.Spelled, hchange] using hspelled
    · exact hspelled
  refine ⟨?_, ?_, ?_, ?_⟩
  · intro d token h
    rcases d.resolve_cases token with hfound | ⟨counter, id, label, hmade, hid⟩
    · rwa [hfound]
    · rw [hmade]
      intro e he
      rcases List.mem_append.mp he with he | he
      · exact h e he
      · rw [List.mem_singleton.mp he]
        exact hid.imp_left fun hid => ⟨rfl, congrArg some hid.symm⟩
  · intro d label origin _ h e he
    rcases List.mem_append.mp he with he | he
    · exact h e he
    · rw [List.mem_singleton.mp he]
      exact Or.inr ⟨_, _, rfl⟩
  · exact fun d id body h => hmodify d id _ (fun _ => ⟨rfl, rfl⟩) h
  · exact fun d id name h => hmodify d id _ (fun _ => ⟨rfl, rfl⟩) h

lemma upheld_legible : Upheld Legible where
  resolve := fun d token h =>
    ⟨upheld_catalogued.resolve d token h.catalogued, upheld_spelled.resolve d token h.spelled⟩
  addMade := fun d label origin hmade h =>
    ⟨upheld_catalogued.addMade d label origin hmade h.catalogued,
      upheld_spelled.addMade d label origin hmade h.spelled⟩
  annotate := fun d id body h =>
    ⟨upheld_catalogued.annotate d id body h.catalogued,
      upheld_spelled.annotate d id body h.spelled⟩
  noteStereotype := fun d id name h =>
    ⟨upheld_catalogued.noteStereotype d id name h.catalogued,
      upheld_spelled.noteStereotype d id name h.spelled⟩

end Draft

section Legible

variable {entries : List Entry} {x : String}

/-- A node under an id that was not made has this id for a label. -/
lemma Legible.label_eq (h : Legible entries) {e : Entry} (he : e ∈ entries)
    (hid : '_' ∉ e.node.id.toList) : e.origin = .declared ∧ e.node.label = some e.node.id := by
  refine (h.spelled e he).resolve_right ?_
  rintro ⟨stem, index, hmade⟩
  exact makeId_ne hid stem index hmade.symm

/-- A label that cannot have been made, and is not empty, is the id of its node: whatever has the
    label for an id has it for a label, and that is one node only. -/
lemma Legible.id_eq (h : Legible entries) (hx : '_' ∉ x.toList) (hne : x ≠ "") {id : String}
    (hlabelled : Labelled entries id x) : id = x := by
  obtain ⟨e', he', hid'⟩ := List.mem_map.mp (h.catalogued.mem_ids hlabelled hne)
  obtain ⟨e, he, rfl, horigin, hlabel⟩ := hlabelled
  subst hid'
  obtain ⟨horigin', hlabel'⟩ := h.label_eq he' hx
  have hsame : e = e' := by
    refine List.inj_on_of_nodup_map h.catalogued.labels ?_ ?_ (hlabel.trans hlabel'.symm)
    · simpa using ⟨he, horigin⟩
    · simpa using ⟨he', horigin'⟩
  rw [hsame]

variable {d d' : Draft} {token id : String}

/-- A token with another label does not come to the node. -/
lemma Legible.resolved_ne (h : Legible d.entries) (hresolve : d.resolve token = (d', id))
    (hx : '_' ∉ x.toList) (htoken : normalizeLabel token ≠ x) : id ≠ x := by
  rintro rfl
  obtain ⟨e, he, rfl, -, hlabel⟩ := (h.catalogued.resolved hresolve).2
  obtain ⟨-, hlabel'⟩ := (Draft.upheld_legible.resolved h hresolve).label_eq he hx
  exact htoken (Option.some.inj (hlabel.symm.trans hlabel'))

end Legible

/-! ## Lines -/

namespace Draft

variable {d : Draft}

lemma underscore_not_mem_stop : '_' ∉ "Stop".toList := by
  decide

lemma Final.resolved {d' : Draft} {x token id : String} (h : Final x d)
    (hresolve : d.resolve token = (d', id)) : Final x d' := by
  obtain ⟨new, counter, rfl, -⟩ := declares_resolved hresolve
  exact h

section Lines

variable (h : Final "Stop" d) (hlegible : Legible d.entries)
include h hlegible

lemma Final.act {text : ActionText}
    (htokens : ∀ token ∈ (Line.action text).tokens, normalizeLabel token ≠ "Stop") :
    Final "Stop" (d.act text) := by
  cases text with
  | empty written => exact h
  | labelled token stereotype =>
      rcases hresolve : d.resolve token with ⟨d', id⟩
      have hid := hlegible.resolved_ne hresolve underscore_not_mem_stop
        (htokens token (List.mem_singleton_self token))
      have hattached := (h.resolved hresolve).attach hid
      simp only [Draft.act, hresolve]
      cases stereotype with
      | none => exact hattached
      | some name => exact hattached

lemma Final.addArrow {source target : String} {condition : Option String}
    (htokens : ∀ token ∈ (Line.arrow source target condition).tokens,
      normalizeLabel token ≠ "Stop") : Final "Stop" (d.addArrow source target condition) := by
  have htarget := htokens target (by simp [Line.tokens])
  rcases hone : d.resolve target with ⟨d₁, id⟩
  have hid := hlegible.resolved_ne hone underscore_not_mem_stop htarget
  have hfinal := h.resolved hone
  rcases hsource : d.resolve source with ⟨d₂, from?⟩
  rcases htwo : d₂.resolve target with ⟨d₃, id'⟩
  simp only [Draft.addArrow, hone, hsource]
  split
  · exact hfinal.beginAt hid
  · split
    · simp only [hone]
      exact hfinal.linkJump h.tail hid condition
    · simp only [htwo]
      have hfrom := hlegible.resolved_ne hsource underscore_not_mem_stop
        (htokens source (by simp [Line.tokens]))
      have hid' := (upheld_legible.resolved hlegible hsource).resolved_ne htwo
        underscore_not_mem_stop htarget
      exact ((h.resolved hsource).resolved htwo).linkJump (by simpa using hfrom) hid' condition

lemma Final.begin : Final "Stop" d.begin := by
  rcases hresolve : d.resolve "Start" with ⟨d', id⟩
  have hid := hlegible.resolved_ne hresolve underscore_not_mem_stop (by decide)
  simp only [Draft.begin, hresolve]
  exact (h.resolved hresolve).beginAt hid

omit hlegible in
lemma Final.halt : Final "Stop" d.halt := by
  rcases hresolve : d.resolve "Stop" with ⟨d', id⟩
  simp only [Draft.halt, hresolve]
  exact (h.resolved hresolve).attachHalt id

omit hlegible in
/-- A note may name the node of the stops: it leads nowhere. -/
lemma Final.annotateTarget (target : Option String) (body : String) :
    Final "Stop" (d.annotateTarget target body) := by
  cases target with
  | some token =>
      rcases hresolve : d.resolve token with ⟨d', id⟩
      have hfinal := h.resolved hresolve
      simp only [Draft.annotateTarget, hresolve]
      exact hfinal
  | none =>
      simp only [Draft.annotateTarget]
      split <;> exact h

/-- **One line that avoids the label of the stops keeps them final.** -/
theorem Final.takeLine {raw : List Char}
    (htokens : ∀ token ∈ (Line.read d.ifOpen raw).tokens, normalizeLabel token ≠ "Stop") :
    Final "Stop" (d.takeLine raw) := by
  have hx := underscore_not_mem_stop
  simp only [Draft.takeLine]
  cases hread : Line.read d.ifOpen raw with
  | style ends => cases ends <;> exact h
  | skinparam name value => exact h
  | pragma name value => exact h
  | shortNote body => exact h.annotateTarget none body
  | inlineNote target body => exact h.annotateTarget (some target) body
  | blockNote target => exact h
  | start => exact h.begin hlegible
  | stop => exact h.halt
  | openIf condition => exact h.openIf hx condition
  | nextBranch condition => exact h.nextBranch hx condition
  | closeIf => exact h.closeIf hx
  | closeLoop condition =>
      dsimp only
      split
      · exact h.endLoop hx condition
      · exact h
  | openLoop first =>
      rw [hread] at htokens
      have hopened := h.openLoop hx
      cases first with
      | none => exact hopened
      | some text =>
          refine hopened.act (upheld_legible.openLoop hlegible none) fun token htoken => ?_
          cases text with
          | empty written => simp [Line.tokens] at htoken
          | labelled label stereotype => exact htokens token htoken
  | arrow source target condition =>
      rw [hread] at htokens
      exact h.addArrow hlegible htokens
  | looseArrow report => exact h
  | action text =>
      rw [hread] at htokens
      exact h.act hlegible htokens
  | unknown => exact h

lemma Final.step {raw : List Char} (htokens : d.block = .none →
      ∀ token ∈ (Line.read d.ifOpen raw).tokens, normalizeLabel token ≠ "Stop") :
    Final "Stop" (d.step raw) := by
  simp only [Draft.step]
  split
  · rename_i hblock
    exact h.takeLine hlegible (htokens hblock)
  · split <;> exact h
  · split
    · exact Final.annotateTarget (d := { d with block := .none }) h _ _
    · exact h

/-- Any number of lines that avoid the label keeps the stops final. -/
lemma Final.foldl {lines : List (List Char)} (havoids : d.avoids "Stop" lines = true) :
    Final "Stop" (lines.foldl Draft.step d) := by
  induction lines generalizing d with
  | nil => exact h
  | cons raw rest ih =>
      simp only [avoids, Bool.and_eq_true, Bool.or_eq_true, bne_iff_ne, List.all_eq_true] at havoids
      refine ih (h.step hlegible fun hblock => ?_) (upheld_legible.step hlegible raw) havoids.2
      exact havoids.1.resolve_left fun hne => hne hblock

omit hlegible in
lemma Final.finish : Final "Stop" d.finish := by
  refine Final.unwind underscore_not_mem_stop ?_ _
  simp only [Draft.endBlock]
  split
  · exact h
  · exact h
  · exact Final.annotateTarget (d := { d with block := .none }) h _ _

end Lines

end Draft

/-! ## Whole diagrams -/

lemma legible_foldl (lines : List (List Char)) : Legible (lines.foldl Draft.step {}).entries :=
  Draft.upheld_legible.foldl (d := {}) ⟨catalogued_nil, by simp⟩ lines

/-- A stop that is read behind a draft is put on a node, and leaves no tail. -/
def Draft.HaltsAt (d : Draft) (raw : List Char) (id : String) : Prop :=
  d.block = .none → Line.read d.ifOpen raw = .stop →
    (d.step raw).declared = some id ∧ (d.step raw).tail = none

lemma Draft.haltsAt_stop {d : Draft} (hlegible : Legible d.entries) (raw : List Char) :
    d.HaltsAt raw "Stop" := by
  intro hblock hread
  rcases hresolve : d.resolve "Stop" with ⟨d', id⟩
  have hlabel : normalizeLabel "Stop" = "Stop" := by decide
  have hlabelled := (hlegible.catalogued.resolved hresolve).2
  rw [hlabel] at hlabelled
  have hid := (upheld_legible.resolved hlegible hresolve).id_eq underscore_not_mem_stop
    (by decide) hlabelled
  have hstep : d.step raw = { (d'.attach id).declare id with tail := none } := by
    simp only [step_of_none hblock, takeLine, hread, halt, hresolve]
  rw [hstep, hid]
  exact ⟨rfl, rfl⟩

/-- **A stop is final.**  Where no action, no first action of a loop and no arrow names `Stop`,
    every stop is put on the node `Stop`, wherever it stands, and no transition leaves this node.
    The node has its id for a label, so it is not made for a branch or a loop. -/
theorem read_stopIsFinal (text : String) (id name : Option String) (supply : IdSupply)
    (h : Text.blank text = false)
    (havoids : Draft.avoids "Stop" {} (prepareLines text.toList) = true) :
    ∃ reading supply', read (some text) id name supply = (.ok reading, supply') ∧
      (∀ t ∈ reading.definition.transitions, t.source ≠ "Stop") ∧
      (∀ n ∈ reading.definition.nodes, n.id = "Stop" → n.label = some "Stop") ∧
      ∀ before raw after, prepareLines text.toList = before ++ raw :: after →
        (before.foldl Draft.step {}).HaltsAt raw "Stop" := by
  obtain ⟨usedId, usedName, supply', hread⟩ := read_of_not_blank h id name supply
  have hempty : Draft.Final "Stop" {} := ⟨by simp, by simp, by simp⟩
  refine ⟨_, supply', hread, ?_, ?_, ?_⟩
  · exact ((hempty.foldl ⟨catalogued_nil, by simp⟩ havoids).finish).links
  · intro n hn hid
    have hlegible := Draft.upheld_legible.finish (legible_foldl (prepareLines text.toList))
    obtain ⟨e, he, rfl⟩ := List.mem_map.mp hn
    rw [← hid]
    exact (hlegible.label_eq he (hid ▸ Draft.underscore_not_mem_stop)).2
  · exact fun before raw _ _ => Draft.haltsAt_stop (legible_foldl before) raw

/-- Stops before an action, an `if`, an `else`, an `endif` and the end of a loop. -/
def stopsEverywhere : String :=
  "start\nstop\nif (a) then\nstop\n:B;\nstop\nelse\nrepeat\nend\nrepeat while (b)\nstop\nendif\n:A;"

theorem read_stopIsFinal_stopsEverywhere : Text.blank stopsEverywhere = false ∧
    Draft.avoids "Stop" {} (prepareLines stopsEverywhere.toList) = true ∧
      ∃ reading supply', read (some stopsEverywhere) none none {} = (.ok reading, supply') ∧
        (∀ t ∈ reading.definition.transitions, t.source ≠ "Stop") ∧
        (∀ n ∈ reading.definition.nodes, n.id = "Stop" → n.label = some "Stop") ∧
        ∀ before raw after, prepareLines stopsEverywhere.toList = before ++ raw :: after →
          (before.foldl Draft.step {}).HaltsAt raw "Stop" := by
  have hblank : Text.blank stopsEverywhere = false := by
    decide
  have havoids : Draft.avoids "Stop" {} (prepareLines stopsEverywhere.toList) = true := by
    decide +kernel
  exact ⟨hblank, havoids, read_stopIsFinal stopsEverywhere none none {} hblank havoids⟩

end ActivityFlow.Diagram
