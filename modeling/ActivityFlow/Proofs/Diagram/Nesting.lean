import ActivityFlow.Proofs.Diagram.Moves
import ActivityFlow.Proofs.Diagram.Reading

/-!
# How branches and loops nest

A construct makes a synthetic node where it opens, and one of another origin where it closes.  Read
in the order in which they are made, the synthetic nodes are a word of brackets of two kinds.

The frames are what makes this word well nested.  A line that closes a construct may find others
still open inside, of either kind; it closes these first, innermost first, and what the text leaves
open is closed at its end.  So at every moment the constructs that the word leaves open are those of
the open frames (`Draft.Nested`), and at the end there are none.

* `WellNested`, `openBehind` — the words by their grammar, and how to check one from left to right.
* **`read_wellNested`** — the synthetic nodes of every text make a well-nested word.
-/

namespace ActivityFlow.Diagram

/-! ## Well-nested words -/

/-- What a diagram opens and closes. -/
inductive Construct where
  | branches
  | loop
  deriving DecidableEq, Repr

inductive Bracket where
  | opening (c : Construct)
  | closing (c : Construct)
  deriving DecidableEq, Repr

/-- **The well-nested words**: the empty word, and a construct around one of them with another
    behind it. -/
inductive WellNested : List Bracket → Prop
  | nil : WellNested []
  | construct {c : Construct} {inner rest : List Bracket} (hinner : WellNested inner)
      (hrest : WellNested rest) : WellNested (.opening c :: (inner ++ .closing c :: rest))

/-- The constructs that are open behind a word, innermost first.  A bracket that does not close the
    innermost one leaves nothing to be said. -/
def openBehind : (stack : List Construct) → List Bracket → Option (List Construct)
  | stack, [] => some stack
  | stack, .opening c :: word => openBehind (c :: stack) word
  | [], .closing _ :: _ => none
  | top :: stack, .closing c :: word => if c = top then openBehind stack word else none

lemma openBehind_append (word word' : List Bracket) : ∀ stack,
    openBehind stack (word ++ word') = (openBehind stack word).bind (openBehind · word') := by
  induction word with
  | nil => exact fun _ => rfl
  | cons b word ih =>
      intro stack
      cases b with
      | opening c => exact ih (c :: stack)
      | closing c => cases stack with
        | nil => rfl
        | cons top stack =>
            simp only [List.cons_append, openBehind]
            split
            · exact ih stack
            · rfl

/-- A well-nested word leaves open what was open before it. -/
lemma WellNested.openBehind_eq {word : List Bracket} (h : WellNested word) :
    ∀ stack, openBehind stack word = some stack := by
  induction h with
  | nil => exact fun _ => rfl
  | construct _ _ ihinner ihrest =>
      intro stack
      simp [openBehind, openBehind_append, ihinner, ihrest]

/-- Whatever is open is closed somewhere, and what stands before that is well nested. -/
lemma exists_closing_of_openBehind {word : List Bracket} : ∀ {top : Construct}
    {stack : List Construct}, openBehind (top :: stack) word = some [] →
      ∃ inner rest, word = inner ++ .closing top :: rest ∧ WellNested inner ∧
        openBehind stack rest = some [] := by
  -- behind an inner construct the search goes on in a word that is shorter, but not by one
  induction hlength : word.length using Nat.strongRecOn generalizing word with
  | _ length ih =>
    intro top stack h
    cases word with
    | nil => exact absurd h (by simp [openBehind])
    | cons b word => cases b with
      | closing c =>
          rw [openBehind] at h
          split at h
          · rename_i heq
            exact ⟨[], word, by rw [heq]; rfl, .nil, h⟩
          · exact absurd h (by simp)
      | opening c =>
          rw [List.length_cons] at hlength
          obtain ⟨inner, rest, rfl, hinner, hrest⟩ := ih word.length (by omega) rfl h
          obtain ⟨inner', rest', rfl, hinner', hrest'⟩ :=
            ih rest.length (by simp at hlength; omega) rfl hrest
          exact ⟨.opening c :: (inner ++ .closing c :: inner'), rest', by simp,
            .construct hinner hinner', hrest'⟩

/-- **A word is well nested exactly if every closing bracket closes the innermost construct that is
    open, and none is left open.** -/
theorem wellNested_iff {word : List Bracket} : WellNested word ↔ openBehind [] word = some [] := by
  refine ⟨fun h => h.openBehind_eq [], fun h => ?_⟩
  induction hlength : word.length using Nat.strongRecOn generalizing word with
  | _ length ih =>
    cases word with
    | nil => exact .nil
    | cons b word => cases b with
      | closing c => exact absurd h (by simp [openBehind])
      | opening c =>
          obtain ⟨inner, rest, rfl, hinner, hrest⟩ := exists_closing_of_openBehind h
          exact .construct hinner (ih rest.length (by simp at hlength; omega) hrest rfl)

/-! ## The word of a draft -/

/-- What a synthetic node opens or closes. -/
def Origin.bracket? : Origin → Option Bracket
  | .declared => none
  | .decision => some (.opening .branches)
  | .join => some (.closing .branches)
  | .loopEntry => some (.opening .loop)
  | .afterLoop => some (.closing .loop)

/-- How a node of an origin is labelled; a declared node may have any label. -/
def Origin.Labels : Origin → Option String → Prop
  | .declared, _ => True
  | .decision, label => ∃ condition, label = some ("if: " ++ condition)
  | .join, label => label = some "join"
  | .loopEntry, label => label = some "loop_entry"
  | .afterLoop, label => label = some "after_loop"

/-- The synthetic nodes of a table as brackets, in the order in which they were made. -/
def brackets (entries : List Entry) : List Bracket :=
  entries.filterMap (·.origin.bracket?)

/-- What a frame will have to close. -/
def Frame.construct : Frame → Construct
  | .branches .. => .branches
  | .loop _ => .loop

@[simp] lemma map_construct_enterTop : ∀ frames : List Frame,
    (enterTop frames).map Frame.construct = frames.map Frame.construct
  | [] => rfl
  | .branches .. :: _ => rfl
  | .loop _ :: _ => rfl

namespace Draft

/-- **The open frames are what the synthetic nodes leave open**, and each of these nodes bears the
    label of its origin. -/
structure Nested (d : Draft) : Prop where
  word : openBehind [] (brackets d.entries) = some (d.frames.map Frame.construct)
  labels : ∀ e ∈ d.entries, e.origin.Labels e.node.label

variable {d d' : Draft}

/-! ### Moves -/

lemma Nested.of_eq (h : Nested d) (hentries : d'.entries = d.entries)
    (hframes : d'.frames.map Frame.construct = d.frames.map Frame.construct) : Nested d' :=
  ⟨by rw [hentries, hframes]; exact h.word, by rw [hentries]; exact h.labels⟩

/-- A node at the end of the table opens or closes what its origin says. -/
lemma Nested.append (h : Nested d) (id label : String) (origin : Origin)
    (hlabel : origin.Labels (some label))
    (hentries : d'.entries = d.entries ++ [⟨⟨id, some label, none, none⟩, origin⟩])
    (hframes : openBehind (d.frames.map Frame.construct) origin.bracket?.toList
      = some (d'.frames.map Frame.construct)) : Nested d' := by
  constructor
  · have hword : brackets d'.entries = brackets d.entries ++ origin.bracket?.toList := by
      rw [hentries, brackets, List.filterMap_append]
      cases origin <;> rfl
    rw [hword, openBehind_append, h.word]
    exact hframes
  · rw [hentries]
    intro e he
    rcases List.mem_append.mp he with he | he
    · exact h.labels e he
    · rw [List.mem_singleton.mp he]
      exact hlabel

lemma Nested.made (h : Nested d) {label : String} {origin : Origin}
    (hlabel : origin.Labels (some label))
    (hentries : d'.entries = (d.addMade label origin).1.entries)
    (hframes : openBehind (d.frames.map Frame.construct) origin.bracket?.toList
      = some (d'.frames.map Frame.construct)) : Nested d' :=
  h.append _ label origin hlabel hentries hframes

lemma Nested.resolve (h : Nested d) (token : String) : Nested (d.resolve token).1 := by
  simp only [Draft.resolve]
  split
  · split
    · exact h
    · exact h.append _ _ .declared trivial rfl rfl
  · split
    · exact h
    · split
      · exact h.append _ _ .declared trivial rfl rfl
      · exact h.append _ _ .declared trivial rfl rfl

lemma Nested.attach (h : Nested d) (id : String) : Nested (d.attach id) := by
  rw [attach_eq]
  exact h.of_eq rfl (by simp)

lemma Nested.modifyNode (h : Nested d) (id : String) (change : Node → Node)
    (hlabel : ∀ n, (change n).label = n.label) : Nested (d.modifyNode id change) := by
  have hentry : ∀ e : Entry, (if e.node.id = id then { e with node := change e.node } else e).origin
      = e.origin := fun e => by split <;> rfl
  constructor
  · have hword : brackets (d.modifyNode id change).entries = brackets d.entries := by
      simp only [brackets, Draft.modifyNode, List.filterMap_map, Function.comp_def, hentry]
    rw [hword]
    exact h.word
  · intro e' he'
    obtain ⟨e, he, rfl⟩ := List.mem_map.mp he'
    split
    · exact (hlabel e.node).symm ▸ h.labels e he
    · exact h.labels e he

/-! ### Lines that open and close nothing -/

lemma Nested.attachDeclare (h : Nested d) (id : String) : Nested ((d.attach id).declare id) :=
  (h.attach id).of_eq rfl rfl

lemma Nested.act (h : Nested d) (text : ActionText) : Nested (d.act text) := by
  cases text with
  | empty written => exact h.of_eq rfl rfl
  | labelled label stereotype =>
      have hdone := (h.resolve label).attachDeclare (d.resolve label).2
      rcases hresolve : d.resolve label with ⟨d', id⟩
      rw [hresolve] at hdone
      simp only [Draft.act, hresolve]
      cases stereotype with
      | none => exact hdone
      | some name => exact hdone.modifyNode id (noteStereotype · name) fun _ => rfl

lemma Nested.annotate (h : Nested d) (id body : String) : Nested (d.annotate id body) :=
  h.modifyNode id (fun n => { n with
    metadata := (splitNote body).1 <|> n.metadata, note := (splitNote body).2 <|> n.note })
    fun _ => rfl

lemma Nested.annotateTarget (h : Nested d) (target : Option String) (body : String) :
    Nested (d.annotateTarget target body) := by
  cases target with
  | some token =>
      have hresolved := h.resolve token
      rcases hresolve : d.resolve token with ⟨d', id⟩
      rw [hresolve] at hresolved
      simp only [Draft.annotateTarget, hresolve]
      exact hresolved.annotate id body
  | none =>
      simp only [Draft.annotateTarget]
      split
      · exact h.annotate _ body
      · exact h

lemma Nested.linkJump (h : Nested d) (source : Option String) (id : String)
    (condition : Option String) : Nested ((d.link source id condition).jump id) := by
  rw [link_eq]
  exact h.of_eq rfl rfl

lemma Nested.beginAt (h : Nested d) (id : String) : Nested (d.beginAt id) :=
  h.of_eq rfl rfl

lemma Nested.addArrow (h : Nested d) (source target : String) (condition : Option String) :
    Nested (d.addArrow source target condition) := by
  simp only [Draft.addArrow]
  split
  · exact (h.resolve target).beginAt _
  · split
    · exact (h.resolve target).linkJump _ _ condition
    · exact ((h.resolve source).resolve target).linkJump _ _ condition

lemma Nested.halt (h : Nested d) : Nested d.halt :=
  ((h.resolve "Stop").attach _).of_eq rfl rfl

/-! ### Lines that open -/

lemma Nested.openIf (h : Nested d) (condition : String) : Nested (d.openIf condition) := by
  have hlabel : Origin.decision.Labels (some ("if: " ++ condition)) := ⟨condition, rfl⟩
  refine h.made hlabel ?_ ?_
  · simp only [Draft.openIf, Draft.declare, attach_eq]
  · simp only [Draft.openIf, Draft.declare, attach_eq, List.map_cons, map_construct_enterTop]
    rfl

lemma Nested.openLoop (h : Nested d) (first : Option ActionText) : Nested (d.openLoop first) := by
  have hopened : Nested (d.openLoop none) := by
    have hlabel : Origin.loopEntry.Labels (some "loop_entry") := rfl
    refine h.made hlabel ?_ ?_
    · simp only [Draft.openLoop, attach_eq]
    · simp only [Draft.openLoop, attach_eq, List.map_cons, map_construct_enterTop]
      rfl
  cases first with
  | none => exact hopened
  | some text => exact hopened.act text

/-! ### Lines that close -/

/-- Closing the innermost loop, with a way back or without. -/
lemma Nested.closeLoop (h : Nested d) {entry : String} {rest : List Frame}
    (hframes : d.frames = .loop entry :: rest) (condition : Option String) :
    Nested ({ d with frames := rest }.closeLoop entry condition) := by
  have hlabel : Origin.afterLoop.Labels (some "after_loop") := rfl
  refine h.made hlabel ?_ ?_
  · rw [closeLoop_eq rfl]
    rfl
  · rw [closeLoop_eq rfl, hframes]
    simp [Origin.bracket?, openBehind, Frame.construct]

lemma Nested.closeBranches (h : Nested d) {decision : String} {ended : List Branch}
    {current : Branch} {rest : List Frame}
    (hframes : d.frames = .branches decision ended current :: rest) :
    Nested ({ d with frames := rest }.closeBranches decision ended current) := by
  have hlabel : Origin.join.Labels (some "join") := rfl
  refine h.made hlabel ?_ ?_
  · rw [closeBranches_eq rfl]
    rfl
  · rw [closeBranches_eq rfl, hframes]
    simp [Origin.bracket?, openBehind, Frame.construct]

lemma Nested.closeFrame (h : Nested d) {f : Frame} {rest : List Frame}
    (hframes : d.frames = f :: rest) : Nested ({ d with frames := rest }.closeFrame f) := by
  cases f with
  | branches decision ended current => exact h.closeBranches hframes
  | loop entry => exact h.closeLoop hframes none

/-- Whatever is still open inside is closed from the inside. -/
lemma Nested.unwind (h : Nested d) (kind : Frame → Bool) : Nested (d.unwind kind) :=
  unwind_induction (fun _ _ _ hframes _ h => h.closeFrame hframes) h

lemma Nested.closeIf (h : Nested d) : Nested d.closeIf := by
  simp only [Draft.closeIf]
  split
  · rename_i hframes
    exact (h.unwind _).closeBranches hframes
  · exact h.unwind _

lemma Nested.endLoop (h : Nested d) (condition : String) : Nested (d.endLoop condition) := by
  simp only [Draft.endLoop]
  split
  · rename_i hframes
    exact (h.unwind _).closeLoop hframes _
  · exact h.unwind _

/-- A further branch closes the loops inside the last one, and opens nothing. -/
lemma Nested.nextBranch (h : Nested d) (condition : String) : Nested (d.nextBranch condition) := by
  simp only [Draft.nextBranch]
  split
  · rename_i hframes
    refine (h.unwind isBranches).of_eq rfl ?_
    rw [hframes]
    rfl
  · exact h.unwind _

/-! ### All lines -/

lemma Nested.takeLine (h : Nested d) (raw : List Char) : Nested (d.takeLine raw) := by
  simp only [Draft.takeLine]
  cases Line.read d.ifOpen raw with
  | style ends => cases ends <;> exact h.of_eq rfl rfl
  | skinparam name value => exact h.of_eq rfl rfl
  | pragma name value => exact h.of_eq rfl rfl
  | shortNote body => exact h.annotateTarget none body
  | inlineNote target body => exact h.annotateTarget (some target) body
  | blockNote target => exact h.of_eq rfl rfl
  | start => exact (h.resolve "Start").beginAt _
  | stop => exact h.halt
  | openIf condition => exact h.openIf condition
  | nextBranch condition => exact h.nextBranch condition
  | closeIf => exact h.closeIf
  | closeLoop condition =>
      dsimp only
      split
      · exact h.endLoop condition
      · exact h.of_eq rfl rfl
  | openLoop first => exact h.openLoop first
  | arrow source target condition => exact h.addArrow source target condition
  | looseArrow report => exact h.of_eq rfl rfl
  | action text => exact h.act text
  | unknown => exact h.of_eq rfl rfl

/-- **One line keeps the frames and the synthetic nodes in step.** -/
theorem Nested.step (h : Nested d) (raw : List Char) : Nested (d.step raw) := by
  simp only [Draft.step]
  split
  · exact h.takeLine raw
  · split
    · exact h.of_eq rfl rfl
    · exact h.of_eq rfl rfl
  · split
    · exact (h.of_eq rfl rfl : Nested { d with block := .none }).annotateTarget _ _
    · exact h.of_eq rfl rfl

lemma Nested.foldl (h : Nested d) (lines : List (List Char)) :
    Nested (lines.foldl Draft.step d) := by
  induction lines generalizing d with
  | nil => exact h
  | cons raw rest ih => exact ih (h.step raw)

lemma nested_empty : Nested {} :=
  ⟨rfl, by simp⟩

lemma Nested.endBlock (h : Nested d) : Nested d.endBlock := by
  simp only [Draft.endBlock]
  split
  · exact h
  · exact h.of_eq rfl rfl
  · exact (h.of_eq rfl rfl : Nested { d with block := .none }).annotateTarget _ _

theorem nested_ofLines (lines : List (List Char)) : Nested (ofLines lines) :=
  (nested_empty.foldl lines).endBlock.unwind _

/-- At the end no frame is open, and so the word is well nested. -/
lemma wellNested_ofLines (lines : List (List Char)) :
    WellNested (brackets (ofLines lines).entries) := by
  have hword := (nested_ofLines lines).word
  rw [frames_ofLines] at hword
  exact wellNested_iff.mpr hword

end Draft

/-- **Every construct that a text opens is closed exactly once, and they nest**: the decisions,
    joins, loop entries and nodes behind loops of the definition, in the order in which they were
    made, are a well-nested word of brackets. -/
theorem read_wellNested (text : String) (id name : Option String) (supply : IdSupply)
    (h : Text.blank text = false) : ∃ reading supply',
      read (some text) id name supply = (.ok reading, supply') ∧
        let entries := (Draft.ofLines (prepareLines text.toList)).entries
        reading.definition.nodes = entries.map (·.node) ∧
          (∀ e ∈ entries, e.origin.Labels e.node.label) ∧ WellNested (brackets entries) := by
  obtain ⟨usedId, usedName, supply', hread⟩ := read_of_not_blank h id name supply
  exact ⟨_, supply', hread, rfl, (Draft.nested_ofLines _).labels, Draft.wellNested_ofLines _⟩

/-- Loops that an `else` and an `endif` find open, an `if` that a loop end finds open, and a loop
    that is never closed. -/
def crossedConstructs : String :=
  "if (a) then\nrepeat\nelse\nrepeat\nif (b) then\nrepeat while (c)\nrepeat\nendif\nrepeat\n:A;"

theorem read_wellNested_crossedConstructs : Text.blank crossedConstructs = false ∧
    ∃ reading supply', read (some crossedConstructs) none none {} = (.ok reading, supply') ∧
      let entries := (Draft.ofLines (prepareLines crossedConstructs.toList)).entries
      reading.definition.nodes = entries.map (·.node) ∧
        (∀ e ∈ entries, e.origin.Labels e.node.label) ∧ WellNested (brackets entries) :=
  ⟨by decide, read_wellNested crossedConstructs none none {} (by decide)⟩

end ActivityFlow.Diagram
