import ActivityFlow.Proofs.Diagram.Bookkeeping
import ActivityFlow.Proofs.Diagram.Reading
import ActivityFlow.Proofs.Diagram.Table

/-!
# What tokens name

A token stands for a label, and the label is looked up among the declared nodes alone.  A diagram
may imitate what is made for it: a label may say `join`, or spell an id that was made, or one that
will be.  The look-up never meets a synthetic node for that, and making an id steps aside when the
label is taken.

* `Catalogued` — the law of the table: declared nodes have distinct labels, and the id of each was
  settled by the nodes before it.
* `Names` — the node that a token names in a finished table.
* **`read_namesNodes`** — wherever a line stands, the tokens of its action, arrow or note act on the
  nodes that they name in the definition.

An arrow from the initial marker has one end only: it begins at its target.
-/

namespace ActivityFlow.Diagram

/-! ## Labels of tokens -/

lemma normalizeLabel_strip (token : String) :
    normalizeLabel (Text.strip token) = normalizeLabel token := by
  rw [normalizeLabel, normalizeLabel, Text.toList_strip, Text.trim_trim]

lemma normalizeLabel_of_startMarker {token : String} (h : Text.strip token = startMarker) :
    normalizeLabel token = startMarker := by
  rw [← normalizeLabel_strip, h]
  decide

/-! ## The law of the table -/

/-- A table has a declared node with an id and a label. -/
def Labelled (entries : List Entry) (id label : String) : Prop :=
  ∃ e ∈ entries, e.node.id = id ∧ e.origin = .declared ∧ e.node.label = some label

/-- The labels of the declared nodes. -/
def declaredLabels (entries : List Entry) : List (Option String) :=
  (entries.filter fun e => e.origin = .declared).map (·.node.label)

/-- The id of a node is its label, unless the label is empty or was in use as an id when the node
    was put behind the others. -/
def Entry.NamedBehind (e : Entry) (before : List Entry) : Prop :=
  ∃ label, e.node.label = some label ∧
    (e.node.id = label ↔ label ≠ "" ∧ label ∉ before.map (·.node.id))

/-- **The law of the table.** -/
structure Catalogued (entries : List Entry) : Prop where
  labels : (declaredLabels entries).Nodup
  ids : ∀ before e after, entries = before ++ e :: after → e.origin = .declared →
    e.NamedBehind before
  /-- The id of the initial marker is left to the marker. -/
  marker : ∀ e ∈ entries, e.node.id = startMarker →
    e.origin = .declared ∧ e.node.label = some startMarker

lemma catalogued_nil : Catalogued [] :=
  ⟨List.nodup_nil, by simp, by simp⟩

lemma mem_declaredLabels {entries : List Entry} {label : String} :
    some label ∈ declaredLabels entries ↔ ∃ id, Labelled entries id label := by
  simp only [declaredLabels, List.mem_map, List.mem_filter, decide_eq_true_eq, Labelled]
  constructor
  · rintro ⟨e, ⟨he, horigin⟩, hlabel⟩
    exact ⟨e.node.id, e, he, rfl, horigin, hlabel⟩
  · rintro ⟨_, e, he, _, horigin, hlabel⟩
    exact ⟨e, ⟨he, horigin⟩, hlabel⟩

lemma Catalogued.append {entries : List Entry} (h : Catalogued entries) {id label : String}
    {origin : Origin}
    (hdeclared : origin = .declared → (∀ x, ¬ Labelled entries x label) ∧
      (id = label ↔ label ≠ "" ∧ label ∉ entries.map (·.node.id)))
    (hmarker : id = startMarker → origin = .declared ∧ label = startMarker) :
    Catalogued (entries ++ [⟨⟨id, some label, none, none⟩, origin⟩]) := by
  refine ⟨?_, ?_, ?_⟩
  · rw [declaredLabels, List.filter_append, List.map_append]
    by_cases horigin : origin = .declared
    · have hnew : some label ∉ declaredLabels entries := by
        rw [mem_declaredLabels]
        rintro ⟨x, hx⟩
        exact (hdeclared horigin).1 x hx
      rw [List.filter_cons_of_pos (by simpa using horigin)]
      exact h.labels.append (List.nodup_singleton _) (by simpa using hnew)
    · rw [List.filter_cons_of_neg (by simpa using horigin), List.filter_nil, List.map_nil,
        List.append_nil]
      exact h.labels
  · intro before e after heq horigin
    rcases List.eq_nil_or_concat after with rfl | ⟨middle, last, rfl⟩
    · obtain ⟨rfl, he⟩ := List.append_inj' heq rfl
      obtain rfl := List.singleton_inj.mp he
      exact ⟨label, rfl, (hdeclared horigin).2⟩
    · rw [List.concat_eq_append, ← List.cons_append, ← List.append_assoc] at heq
      exact h.ids before e middle (List.append_inj' heq rfl).1 horigin
  · intro e he hid
    rcases List.mem_append.mp he with he | he
    · exact h.marker e he hid
    · obtain rfl := List.mem_singleton.mp he
      exact ⟨(hmarker hid).1, congrArg some (hmarker hid).2⟩

/-- A label that is not empty is in use as an id, be it by its own node or by one before it. -/
lemma Catalogued.mem_ids {entries : List Entry} (h : Catalogued entries) {id label : String}
    (hlabelled : Labelled entries id label) (hne : label ≠ "") :
    label ∈ entries.map (·.node.id) := by
  obtain ⟨e, he, -, horigin, hlabel⟩ := hlabelled
  obtain ⟨before, after, rfl⟩ := List.append_of_mem he
  obtain ⟨label', hlabel', hnamed⟩ := h.ids before e after rfl horigin
  obtain rfl : label = label' := Option.some.inj (hlabel.symm.trans hlabel')
  by_cases hid : e.node.id = label
  · exact List.mem_map.mpr ⟨e, he, hid⟩
  · have hbefore : label ∈ before.map (·.node.id) := by
      by_contra hfree
      exact hid (hnamed.mpr ⟨hne, hfree⟩)
    rw [List.map_append]
    exact List.mem_append_left _ hbefore

variable {d d' : Draft}

lemma Catalogued.modifyNode (h : Catalogued d.entries) (id : String) {change : Node → Node}
    (hid : ∀ n, (change n).id = n.id) (hlabel : ∀ n, (change n).label = n.label) :
    Catalogued (d.modifyNode id change).entries := by
  have hsame : ∃ f : Entry → Entry, (d.modifyNode id change).entries = d.entries.map f ∧
      ∀ e, (f e).node.id = e.node.id ∧ (f e).node.label = e.node.label ∧
        (f e).origin = e.origin := by
    refine ⟨_, rfl, fun e => ?_⟩
    split <;> simp [hid, hlabel]
  obtain ⟨f, hentries, hf⟩ := hsame
  rw [hentries]
  refine ⟨?_, ?_, ?_⟩
  · have hlabels : declaredLabels (d.entries.map f) = declaredLabels d.entries := by
      simp [declaredLabels, List.filter_map, Function.comp_def, hf]
    rw [hlabels]
    exact h.labels
  · intro before e after heq horigin
    obtain ⟨front, behind, hsplit, rfl, hbehind⟩ := List.map_eq_append_iff.mp heq
    obtain ⟨e₀, rest, rfl, rfl, rfl⟩ := List.map_eq_cons_iff.mp hbehind
    obtain ⟨label, hlabel, hnamed⟩ := h.ids front e₀ rest hsplit ((hf e₀).2.2.symm.trans horigin)
    refine ⟨label, (hf e₀).2.1.trans hlabel, ?_⟩
    simpa [(hf e₀).1, Function.comp_def, hf] using hnamed
  · intro e he hmarker
    obtain ⟨e₀, he₀, rfl⟩ := List.mem_map.mp he
    obtain ⟨horigin, hlabel⟩ := h.marker e₀ he₀ ((hf e₀).1.symm.trans hmarker)
    exact ⟨(hf e₀).2.2.trans horigin, (hf e₀).2.1.trans hlabel⟩

/-! ## Looking a token up -/

namespace Draft

lemma labelled_of_findDeclared? {label id : String} (h : d.findDeclared? label = some id) :
    Labelled d.entries id label := by
  obtain ⟨e, he, rfl⟩ := Option.map_eq_some_iff.mp h
  have hprop := List.find?_some he
  simp only [Bool.and_eq_true, decide_eq_true_eq] at hprop
  exact ⟨e, List.mem_of_find?_eq_some he, rfl, hprop.2, hprop.1⟩

lemma not_labelled_of_findDeclared? {label : String} (h : d.findDeclared? label = none)
    (id : String) : ¬ Labelled d.entries id label := by
  rintro ⟨e, he, -, horigin, hlabel⟩
  have hnone := List.find?_eq_none.mp (Option.map_eq_none_iff.mp h) e he
  simp [horigin, hlabel] at hnone

end Draft

open Draft in
lemma Catalogued.addMade (h : Catalogued d.entries) (label : String) {origin : Origin}
    (hdeclared : origin = .declared → (∀ x, ¬ Labelled d.entries x label) ∧
      (label = "" ∨ label ∈ d.ids)) : Catalogued (d.addMade label origin).1.entries := by
  have hfresh := makeId_freshIndex_not_mem label d.ids d.counter
  refine h.append (fun horigin => ⟨(hdeclared horigin).1, ?_⟩)
    fun hid => absurd hid (makeId_ne_startMarker _ _)
  refine iff_of_false ?_ ?_
  · intro hid
    rcases (hdeclared horigin).2 with hempty | hmem
    · exact makeId_ne_empty _ _ (hid.trans hempty)
    · rw [hid] at hfresh
      exact hfresh hmem
  · rintro ⟨hne, hfree⟩
    exact (hdeclared horigin).2.elim hne hfree

open Draft in
/-- **Resolving a token** keeps the law of the table and comes to a declared node with the label of
    the token. -/
theorem Catalogued.resolve (h : Catalogued d.entries) (token : String) :
    Catalogued (d.resolve token).1.entries ∧
      Labelled (d.resolve token).1.entries (d.resolve token).2 (normalizeLabel token) := by
  have hlast : ∀ (d : Draft) (id label : String),
      Labelled (d.addNode id label .declared).entries id label :=
    fun d id label => ⟨_, List.mem_append_right _ (List.mem_singleton_self _), rfl, rfl, rfl⟩
  simp only [Draft.resolve]
  split
  · rename_i hmarker
    rw [normalizeLabel_of_startMarker hmarker]
    split
    · rename_i hmem
      obtain ⟨e, he, hid⟩ := List.mem_map.mp hmem
      exact ⟨h, e, he, hid, (h.marker e he hid).1, (h.marker e he hid).2⟩
    · rename_i hfree
      refine ⟨h.append (fun _ => ⟨?_, ?_⟩) fun _ => ⟨rfl, rfl⟩, hlast d _ _⟩
      · intro x hx
        exact hfree (h.mem_ids hx (by decide))
      · exact iff_of_true rfl ⟨by decide, hfree⟩
  · rw [normalizeLabel_strip]
    generalize normalizeLabel token = label
    cases hfind : d.findDeclared? label with
    | some id => exact ⟨h, labelled_of_findDeclared? hfind⟩
    | none =>
        have hnew := not_labelled_of_findDeclared? hfind
        dsimp only
        split
        · rename_i hfree
          simp only [Bool.and_eq_true, Bool.not_eq_true', List.contains_eq_mem,
            decide_eq_false_iff_not, String.isEmpty_eq_false_iff] at hfree
          exact ⟨h.append (fun _ => ⟨hnew, iff_of_true rfl hfree⟩) fun hid => ⟨rfl, hid⟩,
            hlast d label label⟩
        · rename_i htaken
          have hused : label = "" ∨ label ∈ d.ids := by
            by_contra hfree
            rw [not_or] at hfree
            exact htaken (by simpa [String.isEmpty_iff] using hfree)
          exact ⟨h.addMade label fun _ => ⟨hnew, hused⟩, hlast _ _ label⟩

lemma Catalogued.resolved (h : Catalogued d.entries) {token id : String}
    (hresolve : d.resolve token = (d', id)) :
    Catalogued d'.entries ∧ Labelled d'.entries id (normalizeLabel token) := by
  have hresolved := h.resolve token
  rwa [hresolve] at hresolved

/-! ## The law along a diagram -/

namespace Draft

lemma upheld_catalogued : Upheld Catalogued where
  resolve := fun _ token h => (h.resolve token).1
  addMade := fun _ label _ hmade h => h.addMade label fun horigin => absurd horigin hmade
  annotate := fun _ id _ h => h.modifyNode id (fun _ => rfl) fun _ => rfl
  noteStereotype := fun _ id _ h => h.modifyNode id (fun _ => rfl) fun _ => rfl

/-- A node that was declared stays. -/
lemma upheld_labelled (id label : String) : Upheld (Labelled · id label) := by
  have hmodify : ∀ (d : Draft) (id' : String) (change : Node → Node),
      (∀ n, (change n).id = n.id ∧ (change n).label = n.label) → Labelled d.entries id label →
        Labelled (d.modifyNode id' change).entries id label := by
    rintro d id' change hchange ⟨e, he, hid, horigin, hlabel⟩
    refine ⟨_, List.mem_map_of_mem he, ?_⟩
    split <;> simp [hchange, hid, horigin, hlabel]
  refine upheld_of_add ?_ ?_ ?_
  · rintro d id' label' origin ⟨e, he, hrest⟩
    exact ⟨e, List.mem_append_left _ he, hrest⟩
  · exact fun d id' body h => hmodify d id' _ (fun _ => ⟨rfl, rfl⟩) h
  · exact fun d id' name h => hmodify d id' _ (fun _ => ⟨rfl, rfl⟩) h

/-- The table grows at its end only, and ids stay as they are. -/
lemma upheld_ids (ids : List String) : Upheld fun entries => ids <+: entries.map (·.node.id) := by
  have hmodify : ∀ (d : Draft) (id : String) (change : Node → Node),
      (∀ n, (change n).id = n.id) → ids <+: d.ids → ids <+: (d.modifyNode id change).ids := by
    intro d id change hchange h
    have hids : (d.modifyNode id change).ids = d.ids := ids_modifyNode id hchange
    rwa [hids]
  refine upheld_of_add ?_ ?_ ?_
  · intro d id label origin h
    rw [addNode, List.map_append]
    exact h.trans (List.prefix_append _ _)
  · exact fun d id body h => hmodify d id _ (fun _ => rfl) h
  · exact fun d id name h => hmodify d id _ (fun _ => rfl) h

end Draft

/-! ## What a token names -/

/-- **The node that a token names**: the only one with its id, and the only declared one with the
    label that the token stands for. -/
def Names (entries : List Entry) (token id : String) : Prop :=
  ∃ e ∈ entries, e.node.id = id ∧ e.origin = .declared ∧
    e.node.label = some (normalizeLabel token) ∧
    ∀ e' ∈ entries, e'.node.id = id ∨
      e'.origin = .declared ∧ e'.node.label = some (normalizeLabel token) → e' = e

lemma Catalogued.names {entries : List Entry} (h : Catalogued entries)
    (hnodup : (entries.map (·.node.id)).Nodup) {token id : String}
    (hlabelled : Labelled entries id (normalizeLabel token)) : Names entries token id := by
  obtain ⟨e, he, hid, horigin, hlabel⟩ := hlabelled
  refine ⟨e, he, hid, horigin, hlabel, ?_⟩
  rintro e' he' (hid' | ⟨horigin', hlabel'⟩)
  · exact List.inj_on_of_nodup_map hnodup he' he (hid'.trans hid.symm)
  · refine List.inj_on_of_nodup_map h.labels ?_ ?_ (hlabel'.trans hlabel.symm)
    · simpa using ⟨he', horigin'⟩
    · simpa using ⟨he, horigin⟩

/-! ## What lines act on -/

namespace Draft

/-- A draft behind the declaration of nodes: they stand at the end of the table and carry nothing
    yet. -/
def Declares (d d' : Draft) : Prop :=
  ∃ new counter, d' = { d with entries := d.entries ++ new, counter := counter } ∧
    ∀ e ∈ new, e.origin = .declared ∧ e.node.metadata = none ∧ e.node.note = none

/-- An action on a node. -/
def enter (d : Draft) (id : String) (stereotype : Option String) : Draft :=
  let d := (d.attach id).declare id
  match stereotype with
  | some name => d.modifyNode id (noteStereotype · name)
  | none => d

variable (names : String → String → Prop) (d d' : Draft)

/-- An action enters the node that its label names. -/
def ActionActsOn : ActionText → Prop
  | .labelled token stereotype =>
      ∃ declared id, Declares d declared ∧ names token id ∧ d' = declared.enter id stereotype
  | .empty _ => True

/-- A note is put on the node that its target names. -/
def NoteActsOn (token body : String) : Prop :=
  ∃ declared id, Declares d declared ∧ names token id ∧ d' = declared.annotate id body

/-- An arrow leads to the node that its target names.  It comes from the initial marker, from the
    tail, or from the node that its source names. -/
def ArrowActsOn (source target : String) (condition : Option String) : Prop :=
  ∃ declared id, Declares d declared ∧ names target id ∧
    if source = startMarker then d' = declared.beginAt id
    else if source = "" then d' = (declared.link d.tail id condition).jump id
    else ∃ from?, names source from? ∧ d' = (declared.link (some from?) id condition).jump id

/-- What a line outside blocks acts on. -/
def LineActsOn : Line → Prop
  | .action text => ActionActsOn names d d' text
  | .openLoop (some text) => ActionActsOn names (d.openLoop none) d' text
  | .arrow source target condition => ArrowActsOn names d d' source target condition
  | .inlineNote target body => NoteActsOn names d d' target body
  | _ => True

/-- What the end of a block acts on: a note over several lines is put on the node that it names. -/
def BlockActsOn : Block → Prop
  | .note (some target) lines => NoteActsOn names { d with block := .none } d' target
      (String.ofList (['\n'].intercalate lines))
  | _ => True

/-- What a line acts on where it stands. -/
def StepActsOn (raw : List Char) : Prop :=
  match d.block with
  | .none => LineActsOn names d (d.step raw) (Line.read d.ifOpen raw)
  | .style _ => True
  | .note _ _ => isNoteEnd raw = true → BlockActsOn names d (d.step raw) d.block

variable {names : String → String → Prop} {d d' : Draft}

lemma declares_resolved {token id : String} (h : d.resolve token = (d', id)) : Declares d d' := by
  have hd' : d' = (d.resolve token).1 := by
    rw [h]
  rcases d.resolve_cases token with hfound | ⟨counter, made, label, hmade, -⟩
  · exact ⟨[], d.counter, by simp [hd', hfound], by simp⟩
  · exact ⟨_, counter, by rw [hd', hmade]; rfl, by simp⟩

lemma Declares.trans {d'' : Draft} (h : Declares d d') (h' : Declares d' d'') : Declares d d'' := by
  obtain ⟨new, counter, rfl, hnew⟩ := h
  obtain ⟨new', counter', rfl, hnew'⟩ := h'
  refine ⟨new ++ new', counter', by simp, ?_⟩
  intro e he
  exact (List.mem_append.mp he).elim (hnew e) (hnew' e)

/-- A table from which names can be read: what it has declared, it names. -/
def Tells (names : String → String → Prop) (entries : List Entry) : Prop :=
  ∀ token id, Labelled entries id (normalizeLabel token) → names token id

lemma actionActsOn_act (h : Catalogued d.entries) {text : ActionText}
    (htells : Tells names (d.act text).entries) : ActionActsOn names d (d.act text) text := by
  cases text with
  | empty written => trivial
  | labelled token stereotype =>
      rcases hresolve : d.resolve token with ⟨declared, id⟩
      have hlabelled := (h.resolved hresolve).2
      have hact : d.act (.labelled token stereotype) = declared.enter id stereotype := by
        simp only [act, hresolve]
        cases stereotype <;> rfl
      refine ⟨declared, id, declares_resolved hresolve, htells token id ?_, hact⟩
      have hattached : Labelled ((declared.attach id).declare id).entries id
          (normalizeLabel token) := by
        rw [attach_eq]
        exact hlabelled
      rw [hact]
      cases stereotype with
      | none => exact hattached
      | some name => exact (upheld_labelled _ _).noteStereotype _ id name hattached

lemma noteActsOn_annotateTarget (h : Catalogued d.entries) {token body : String}
    (htells : Tells names (d.annotateTarget (some token) body).entries) :
    NoteActsOn names d (d.annotateTarget (some token) body) token body := by
  rcases hresolve : d.resolve token with ⟨declared, id⟩
  have hlabelled := (h.resolved hresolve).2
  have hnote : d.annotateTarget (some token) body = declared.annotate id body := by
    simp only [annotateTarget, hresolve]
  refine ⟨declared, id, declares_resolved hresolve, htells token id ?_, hnote⟩
  rw [hnote]
  exact (upheld_labelled _ _).annotate declared id body hlabelled

lemma arrowActsOn_addArrow (h : Catalogued d.entries) {source target : String}
    {condition : Option String}
    (htells : Tells names (d.addArrow source target condition).entries) :
    ArrowActsOn names d (d.addArrow source target condition) source target condition := by
  rcases htarget : d.resolve target with ⟨d₁, id⟩
  rcases hsource : d.resolve source with ⟨d₂, from?⟩
  rcases hthen : d₂.resolve target with ⟨d₃, id'⟩
  have hto := (h.resolved htarget).2
  obtain ⟨hcatalogued, hfrom⟩ := h.resolved hsource
  have hboth := (hcatalogued.resolved hthen).2
  have hkept := (upheld_labelled _ _).resolved hfrom hthen
  have hdeclares := declares_resolved htarget
  have hdeclaresBoth := (declares_resolved hsource).trans (declares_resolved hthen)
  simp only [addArrow, htarget, hsource] at htells ⊢
  by_cases hmarker : source = startMarker
  · rw [if_pos hmarker] at htells ⊢
    refine ⟨d₁, id, hdeclares, htells target id hto, ?_⟩
    rw [if_pos hmarker]
  · rw [if_neg hmarker] at htells ⊢
    by_cases hempty : source = ""
    · have hnone : source.isEmpty = true := by simpa [String.isEmpty_iff] using hempty
      simp only [hnone, if_true, htarget, link_eq] at htells ⊢
      refine ⟨d₁, id, hdeclares, htells target id hto, ?_⟩
      rw [if_neg hmarker, if_pos hempty, link_eq]
    · have hsome : source.isEmpty = false := by simpa [String.isEmpty_iff] using hempty
      simp only [hsome, Bool.false_eq_true, if_false, hthen, link_eq] at htells ⊢
      refine ⟨d₃, id', hdeclaresBoth, htells target id' hboth, ?_⟩
      rw [if_neg hmarker, if_neg hempty]
      exact ⟨from?, htells source from? hkept, by rw [link_eq]⟩

/-- A line outside blocks acts on the nodes that its tokens name. -/
lemma lineActsOn_takeLine (h : Catalogued d.entries) {raw : List Char}
    (htells : Tells names (d.takeLine raw).entries) :
    LineActsOn names d (d.takeLine raw) (Line.read d.ifOpen raw) := by
  simp only [takeLine] at htells ⊢
  cases hread : Line.read d.ifOpen raw with
  | action text =>
      rw [hread] at htells
      exact actionActsOn_act h htells
  | arrow source target condition =>
      rw [hread] at htells
      exact arrowActsOn_addArrow h htells
  | inlineNote target body =>
      rw [hread] at htells
      exact noteActsOn_annotateTarget h htells
  | openLoop first =>
      cases first with
      | none => trivial
      | some text =>
          rw [hread] at htells
          exact actionActsOn_act (upheld_catalogued.openLoop h none) htells
  | _ => trivial

/-- **A line acts on the nodes that its tokens name**, inside a block or outside. -/
theorem stepActsOn (h : Catalogued d.entries) {raw : List Char}
    (htells : Tells names (d.step raw).entries) : StepActsOn names d raw := by
  cases hblock : d.block with
  | none =>
      have hstep := step_of_none hblock raw
      rw [hstep] at htells
      simp only [StepActsOn, hblock, hstep]
      exact lineActsOn_takeLine h htells
  | style lines => simp only [StepActsOn, hblock]
  | note target lines =>
      simp only [StepActsOn, hblock]
      intro hends
      cases target with
      | none => trivial
      | some token =>
          have hstep : d.step raw = { d with block := .none }.annotateTarget (some token)
              (String.ofList (['\n'].intercalate lines)) := by
            simp only [step, hblock, hends, if_true, endNote]
          rw [hstep] at htells ⊢
          exact noteActsOn_annotateTarget (d := { d with block := .none }) h htells

/-- The end of the diagram acts on the node that an open note names. -/
lemma blockActsOn_endBlock (h : Catalogued d.entries) (htells : Tells names d.endBlock.entries) :
    BlockActsOn names d d.endBlock d.block := by
  cases hblock : d.block with
  | none => trivial
  | style lines => trivial
  | note target lines =>
      cases target with
      | none => trivial
      | some token =>
          have hend : d.endBlock = { d with block := .none }.annotateTarget (some token)
              (String.ofList (['\n'].intercalate lines)) := by
            simp only [endBlock, hblock, endNote]
          rw [hend] at htells ⊢
          exact noteActsOn_annotateTarget (d := { d with block := .none }) h htells

end Draft

/-! ## Whole diagrams -/

/-- **How a diagram names its nodes.**  `entries` is the finished table of the lines. -/
structure Naming (lines : List (List Char)) (entries : List Entry) : Prop where
  /-- Declared nodes have distinct labels. -/
  labels : (declaredLabels entries).Nodup
  /-- The table was put together from its beginning to its end. -/
  grows : ∀ before after, lines = before ++ after →
    (before.foldl Draft.step {}).ids <+: entries.map (·.node.id)
  /-- A declared node has its label as its id, unless the label is empty or was in use. -/
  ids : ∀ before e after, entries = before ++ e :: after → e.origin = .declared →
    e.NamedBehind before
  /-- The lines act on the nodes that their tokens name. -/
  actsOn : ∀ before raw after, lines = before ++ raw :: after →
    Draft.StepActsOn (Names entries) (before.foldl Draft.step {}) raw
  /-- A note that is left open acts on the node that it names. -/
  endsOn : Draft.BlockActsOn (Names entries) (lines.foldl Draft.step {})
    (lines.foldl Draft.step {}).endBlock (lines.foldl Draft.step {}).block

lemma catalogued_foldl (lines : List (List Char)) :
    Catalogued (lines.foldl Draft.step {}).entries :=
  Draft.upheld_catalogued.foldl (d := {}) catalogued_nil lines

lemma naming_ofLines (lines : List (List Char)) :
    Naming lines (Draft.ofLines lines).entries := by
  have hlaw := Draft.upheld_catalogued.ofLines catalogued_nil lines
  have hnames : ∀ token id, Labelled (Draft.ofLines lines).entries id (normalizeLabel token) →
      Names (Draft.ofLines lines).entries token id :=
    fun _ _ hlabelled => hlaw.names (Draft.sound_ofLines lines).graph.nodup hlabelled
  refine ⟨hlaw.labels, ?_, hlaw.ids, ?_, ?_⟩
  · intro before after hlines
    have hgrown := (Draft.upheld_ids _).finish
      ((Draft.upheld_ids _).foldl (List.prefix_refl (before.foldl Draft.step {}).ids) after)
    rwa [← List.foldl_append, ← hlines] at hgrown
  · intro before raw after hlines
    refine Draft.stepActsOn (catalogued_foldl before) fun token id hlabelled => hnames token id ?_
    -- what a line has declared is still there at the end
    have hstays := (Draft.upheld_labelled _ _).finish
      ((Draft.upheld_labelled _ _).foldl hlabelled after)
    rwa [← List.foldl_cons (f := Draft.step), ← List.foldl_append, ← hlines] at hstays
  · exact Draft.blockActsOn_endBlock (catalogued_foldl lines) fun token id hlabelled =>
      hnames token id ((Draft.upheld_labelled _ _).unwind hlabelled _)

/-- **A label names one declared node and never a synthetic one**: in every text that is not blank,
    and wherever a line stands in it, whatever labels and ids the synthetic nodes have. -/
theorem read_namesNodes (text : String) (id name : Option String) (supply : IdSupply)
    (h : Text.blank text = false) : ∃ reading supply',
      read (some text) id name supply = (.ok reading, supply') ∧
        let entries := (Draft.ofLines (prepareLines text.toList)).entries
        reading.definition.nodes = entries.map (·.node) ∧
          Naming (prepareLines text.toList) entries := by
  obtain ⟨usedId, usedName, supply', hread⟩ := read_of_not_blank h id name supply
  exact ⟨_, supply', hread, rfl, naming_ofLines _⟩

/-- Labels that spell a join and its id before it is made, an arrow to the label of a decision, and
    a note that is never ended on a node without a label. -/
def imitations : String :=
  ":join_1;\nif (a) then\n:join;\nendif\njoin --> if: a\n; --> join_2\n:if__a_0;\nnote left of ;\nx"

theorem read_namesNodes_imitations : Text.blank imitations = false ∧
    ∃ reading supply', read (some imitations) (some "w") none {} = (.ok reading, supply') ∧
      let entries := (Draft.ofLines (prepareLines imitations.toList)).entries
      reading.definition.nodes = entries.map (·.node) ∧
        Naming (prepareLines imitations.toList) entries :=
  ⟨by decide, read_namesNodes imitations (some "w") none {} (by decide)⟩

end ActivityFlow.Diagram
