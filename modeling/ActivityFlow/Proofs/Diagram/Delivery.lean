import ActivityFlow.Proofs.Action.Descriptor
import ActivityFlow.Proofs.Diagram.Moves
import ActivityFlow.Proofs.Diagram.NoteBody
import ActivityFlow.Proofs.Diagram.Program

/-!
# Descriptors that a diagram delivers

A note over several lines puts an action on a node: first the descriptor on a line of its own, then
prose.  The lines of the note are collected as they stand, whatever they would mean outside of it,
and joined again for the body.  So the node gets back the descriptor that was written, whatever
characters stand in its action, and in the names and texts of its parameters, and the prose beside
it (`read_delivers`).
-/

namespace ActivityFlow.Diagram

open ActivityFlow.Text

/-! ## The node that is annotated -/

namespace Draft

variable {d : Draft}

/-- The first node with an id. -/
def node? (d : Draft) (id : String) : Option Node :=
  (d.entries.map (·.node)).find? (·.id = id)

lemma node?_readAs (text : List Char) (id name node : String) :
    (readAs text id name).definition.node? node = (ofLines (prepareLines text)).node? node :=
  rfl

/-- Changing a node under its own id changes what is found under the id. -/
lemma node?_modifyNode (id : String) (change : Node → Node) (hchange : ∀ n, (change n).id = n.id) :
    (d.modifyNode id change).node? id = (d.node? id).map change := by
  rw [node?, node?, modifyNode]
  induction d.entries with
  | nil => rfl
  | cons e entries ih =>
      by_cases he : e.node.id = id
      · simp [he, hchange]
      · simpa [he] using ih

/-- A draft whose last declared node is found under its id and carries nothing yet. -/
structure Bare (d : Draft) (id : String) : Prop where
  declared : d.declared = some id
  block : d.block = .none
  frames : d.frames = []
  node : ∃ node, d.node? id = some node ∧ node.metadata = none ∧ node.note = none

lemma bare_act {label : List Char} (h : Wordy label) :
    ((begin {}).act (.labelled (String.ofList label) none)).Bare (String.ofList label) := by
  have hne : String.ofList label ≠ "" := by
    simpa [← String.toList_inj] using h.nonempty
  by_cases hstart : String.ofList label = "Start"
  -- a label that says `Start` names the node that is there already
  · have hact : ((begin {}).act (.labelled "Start" none)).Bare "Start" :=
      ⟨by decide +kernel, by decide +kernel, by decide +kernel,
        ⟨"Start", some "Start", none, none⟩, by decide +kernel, rfl, rfl⟩
    rw [hstart]
    exact hact
  · have hbegin : begin {} = Draft.mk [⟨⟨"Start", some "Start", none, none⟩, .declared⟩] []
        [⟨"Start"⟩] 0 (some "Start") none (some "Start") [] .none {} := by
      decide +kernel
    have hresolve : (begin {}).resolve (String.ofList label)
        = ((begin {}).addNode (String.ofList label) (String.ofList label) .declared,
          String.ofList label) := by
      simp [resolve, h.strip_eq, h.ne_startMarker, h.normalizeLabel_eq, hbegin, findDeclared?,
        Ne.symm hstart, hstart, ids, hne]
    have hact : (begin {}).act (.labelled (String.ofList label) none)
        = (((begin {}).addNode (String.ofList label) (String.ofList label) .declared).attach
          (String.ofList label)).declare (String.ofList label) := by
      rw [act, hresolve]
    rw [hact, hbegin]
    refine ⟨rfl, ?_, ?_, ⟨String.ofList label, some (String.ofList label), none, none⟩, ?_, rfl, rfl⟩
    · simp [declare, attach, link, addNode, markEntered, Ne.symm hstart]
    · simp [declare, attach, link, addNode, markEntered, Ne.symm hstart]
    · simp [declare, attach, link, addNode, markEntered, Ne.symm hstart, node?]

/-- A note on a bare node is all that the node carries. -/
lemma Bare.annotate {id body : String} (h : d.Bare id) {metadata prose : Option String}
    (hbody : splitNote body = (metadata, prose)) :
    ∃ node, (d.annotateTarget none body).finish.node? id = some node ∧
      node.metadata = metadata ∧ node.note = prose := by
  obtain ⟨node, hnode, hmetadata, hnote⟩ := h.node
  have hdraft : d.annotateTarget none body = d.modifyNode id fun n =>
      { n with metadata := metadata <|> n.metadata, note := prose <|> n.note } := by
    simp only [annotateTarget, h.declared, Draft.annotate, hbody]
  have hfinish : (d.annotateTarget none body).finish = d.annotateTarget none body := by
    rw [hdraft, finish, endBlock]
    simp [modifyNode, h.block, unwind, closeUpTo, h.frames]
  rw [hfinish, hdraft, node?_modifyNode _ _ (by intro n; rfl), hnode]
  exact ⟨_, rfl, by simp [hmetadata], by simp [hnote]⟩

end Draft

/-! ## The diagram -/

/-- The object that says which action belongs to a node, with its parameters. -/
def descriptorFields (action : String) (params : List (String × String)) : List (String × Json) :=
  [("action", .str action), ("params", Descriptor.paramsJson params)]

/-- The lines of a diagram of one node with a note. -/
def notedLines (label : List Char) (body : List (List Char)) : List (List Char) :=
  "start".toList :: labelLine label :: "note right".toList :: (body ++ ["end note".toList])

/-- A diagram of one node whose note holds a descriptor and, behind it, lines of prose. -/
def delivery (label : List Char) (action : String) (params : List (String × String))
    (prose : List (List Char)) : String :=
  String.ofList (['\n'].intercalate
    (notedLines label ((Json.obj (descriptorFields action params)).write :: prose)))

variable {action : String} {params : List (String × String)} {label : List Char}
  {prose : List (List Char)}

lemma textual_descriptor (hnames : (params.map Prod.fst).Nodup) :
    (Json.obj (descriptorFields action params)).Textual := by
  have hparams : (Descriptor.paramsJson params).Textual := by
    refine .obj ?_ ?_
    · simpa [Function.comp_def] using hnames
    · rw [List.forall_mem_map]
      exact fun param _ => .str param.2
  refine .obj (by simp [descriptorFields]) ?_
  simp [descriptorFields, Json.Textual.str, hparams]

/-- A written object is a line that stands for itself, and no note ends at it. -/
lemma stands_write {fields : List (String × Json)} (h : (Json.obj fields).Textual) :
    Stands (Json.obj fields).write ∧ isNoteEnd (Json.obj fields).write = false := by
  obtain ⟨inside, hinside, -⟩ := Json.exists_write_obj h
  have hprinted := (Json.balanced_write h).printed
  rw [hinside] at hprinted ⊢
  refine ⟨stands_of_ends ?_ rfl ?_, ?_⟩
  · intro c hc
    have hc := hprinted c hc
    simp only [Json.isPrinted, Bool.and_eq_true, decide_eq_true_eq] at hc
    simp only [isLineBreak, Bool.or_eq_false_iff, Bool.and_eq_false_iff, decide_eq_false_iff_not,
      beq_eq_false_iff_ne]
    omega
  · rw [← List.cons_append, List.getLast?_concat]
    decide
  · simp [isNoteEnd, isEndKeyword, dropKeyword?, sameLetter]

/-- The descriptor of a node whose metadata is a written one. -/
lemma ofNode?_descriptor {node : Node} (hstrip : strip action = action) (hne : action ≠ "")
    (hnames : (params.map Prod.fst).Nodup)
    (hmetadata : node.metadata = some (Json.obj (descriptorFields action params)).render) :
    Descriptor.ofNode? node = some ⟨action, params⟩ := by
  have htextual : (Json.obj (descriptorFields action params)).Textual := textual_descriptor hnames
  rw [Descriptor.ofNode?_of_render htextual hmetadata,
    Descriptor.ofJson?_of_action rfl (blank_of_strip_eq_self hstrip hne), hstrip]
  exact congrArg (fun ps => some (Descriptor.mk action ps)) (Descriptor.paramsOf_paramsJson params)

lemma stands_notedLines (hlabel : Wordy label) {body : List (List Char)}
    (hbody : ∀ l ∈ body, Stands l) : ∀ l ∈ notedLines label body, Stands l := by
  simp only [notedLines, List.forall_mem_cons, List.forall_mem_append, List.mem_singleton,
    forall_eq]
  exact ⟨stands_of_ends (by decide) (by decide) (by decide), hlabel.stands_line,
    stands_of_ends (by decide) (by decide) (by decide), hbody,
    stands_of_ends (by decide) (by decide) (by decide)⟩

/-- The lines come to a draft of the one node with the body of the note put on it. -/
lemma ofLines_notedLines (hlabel : Wordy label) {body : List (List Char)}
    (hbody : ∀ l ∈ body, isNoteEnd l = false) :
    Draft.ofLines (notedLines label body)
      = (((Draft.begin {}).act (.labelled (String.ofList label) none)).annotateTarget none
          (String.ofList (['\n'].intercalate body))).finish := by
  have hstart : Draft.step {} "start".toList = Draft.begin {} := by
    simp only [Draft.step, Draft.takeLine, read_start]
  have hblock : (Draft.begin {}).block = .none := by decide +kernel
  have hact : (Draft.begin {}).step (labelLine label)
      = (Draft.begin {}).act (.labelled (String.ofList label) none) := by
    simp only [Draft.step, hblock, Draft.takeLine, hlabel.read_line]
  have hopen : ∀ ifOpen, Line.read ifOpen "note right".toList = .blockNote none := by
    decide +kernel
  rw [Draft.ofLines, notedLines, List.foldl_cons, hstart, List.foldl_cons, hact,
    Draft.foldl_blockNote (Draft.bare_act hlabel).block (hopen _) hbody (by decide +kernel)]
  rfl

/-- A text that begins with a line `start` is not blank. -/
lemma blank_delivery (label : List Char) (action : String) (params : List (String × String))
    (prose : List (List Char)) : blank (delivery label action params prose) = false := by
  obtain ⟨behind, hbehind⟩ := exists_intercalate_cons ['\n'] "start".toList
    (labelLine label :: "note right".toList ::
      ((Json.obj (descriptorFields action params)).write :: prose ++ ["end note".toList]))
  rw [delivery, notedLines, hbehind, blank, String.toList_ofList, isBlankText, List.all_append]
  rfl

/-- **A diagram delivers descriptors unchanged**, and the prose beside them. -/
theorem read_delivers (hstrip : strip action = action) (hne : action ≠ "")
    (hnames : (params.map Prod.fst).Nodup) (hlabel : Wordy label)
    (hprose : ∀ l ∈ prose, Stands l ∧ isNoteEnd l = false)
    (hfirst : ∀ l ∈ prose.head?, l.head? ≠ some '|') (id name : Option String)
    (supply : IdSupply) :
    ∃ reading supply' node,
      read (some (delivery label action params prose)) id name supply = (.ok reading, supply') ∧
        reading.definition.node? (String.ofList label) = some node ∧
        Descriptor.ofNode? node = some ⟨action, params⟩ ∧ node.note = joinedProse? prose := by
  have htextual : (Json.obj (descriptorFields action params)).Textual := textual_descriptor hnames
  obtain ⟨hwritten, hopen⟩ := stands_write htextual
  have hstands := stands_notedLines hlabel
    (List.forall_mem_cons.mpr ⟨hwritten, fun l hl => (hprose l hl).1⟩)
  have hdraft := ofLines_notedLines hlabel
    (List.forall_mem_cons.mpr ⟨hopen, fun l hl => (hprose l hl).2⟩)
  have hlines : notedLines label ((Json.obj (descriptorFields action params)).write :: prose) ≠ [] :=
    List.cons_ne_nil _ _
  obtain ⟨node, hnode, hmetadata, hnote⟩ := (Draft.bare_act hlabel).annotate
    (splitNote_of_object htextual (fun l hl => (hprose l hl).1.tight) hfirst)
  obtain ⟨usedId, usedName, supply', hread⟩ :=
    read_of_not_blank (blank_delivery label action params prose) id name supply
  refine ⟨_, supply', node, hread, ?_, ofNode?_descriptor hstrip hne hnames hmetadata, hnote⟩
  rw [Draft.node?_readAs, delivery, String.toList_ofList, prepareLines_intercalate hlines hstands,
    hdraft, hnode]

/-- Braces, quotes, a backslash, an arrow and a line break arrive as they were written, beside prose
    that would be an arrow and an action outside of the note. -/
theorem read_delivers_signs :
    ∃ reading supply' node,
      read (some (delivery "Größe".toList "say \x7b\x22it\x22" [("a --> b", "\\\n\x7d"), ("", "")]
          ["A --> B".toList, ":C;".toList])) (some "tour") none {} = (.ok reading, supply') ∧
        reading.definition.node? "Größe" = some node ∧
        Descriptor.ofNode? node
          = some ⟨"say \x7b\x22it\x22", [("a --> b", "\\\n\x7d"), ("", "")]⟩ ∧
        node.note = joinedProse? ["A --> B".toList, ":C;".toList] := by
  have hlabel : Wordy "Größe".toList := ⟨by decide, List.all_eq_true.mp (by decide +kernel)⟩
  have hprose : ∀ l ∈ ["A --> B".toList, ":C;".toList], Stands l ∧ isNoteEnd l = false := by
    rw [List.forall_mem_cons, List.forall_mem_cons]
    exact ⟨⟨stands_of_ends (by decide) (by decide) (by decide), by decide⟩,
      ⟨stands_of_ends (by decide) (by decide) (by decide), by decide⟩, by simp⟩
  exact read_delivers (by decide +kernel) (by decide) (by decide) hlabel hprose (by decide)
    (some "tour") none {}

end ActivityFlow.Diagram
