import ActivityFlow.Diagram.Label
import ActivityFlow.Diagram.Line
import ActivityFlow.Diagram.Note
import ActivityFlow.Graph.Definition

/-!
# The graph under construction

Reading a diagram builds a graph from the top down.  `Draft` is the graph built so far, together
with what the next line needs to know:

* the **tail**, the node that the next one is linked from, and the condition **pending** on that
  link,
* the node **declared** last, on which a note without a name is put,
* the **frames** of the branches and loops that are still open, innermost first,
* the **block** that swallows the following lines, if a style block or a long note is open.

**Nodes.**  A node is *declared* when the diagram names it, and *synthetic* when a branch or a loop
needs it: a decision, a join, the entry of a loop, and the node behind a loop.  A declared node is
found again by its label; a synthetic node is never found by a name.

**Branches.**  A branch that was entered ends in the node that was the tail when it ended, and the
join is linked from there.  A branch that was not entered is kept as a transition from the decision
to the join, under its condition.  A branch that ended in a stop has no tail and no link.
-/

namespace ActivityFlow.Diagram

/-! ## The parts of a draft -/

/-- Where a node comes from. -/
inductive Origin where
  /-- The diagram names the node. -/
  | declared
  | decision
  | join
  | loopEntry
  | afterLoop
  deriving DecidableEq, Repr

/-- A node with its origin. -/
structure Entry where
  node : Node
  origin : Origin
  deriving DecidableEq, Repr

/-- A branch of an open `if`. -/
structure Branch where
  condition : String
  /-- Whether a node was linked inside the branch. -/
  entered : Bool
  /-- The node in which the branch ended. -/
  tail : Option String
  deriving DecidableEq, Repr

/-- An open branch or loop. -/
inductive Frame where
  /-- An `if`: its decision node, the branches already ended in order, and the current one. -/
  | branches (decision : String) (ended : List Branch) (current : Branch)
  | loop (entry : String)
  deriving DecidableEq, Repr

/-- What swallows the following lines. -/
inductive Block where
  | none
  /-- A style block with its lines so far. -/
  | style (lines : List (List Char))
  /-- A note over several lines, with the name of its node and its lines so far. -/
  | note (target : Option String) (lines : List (List Char))
  deriving DecidableEq, Repr

/-- What a diagram says beside the graph. -/
structure Remarks where
  /-- Display settings in the order in which they were first set. -/
  skinparams : List (String × String) := []
  pragmas : List (String × Option String) := []
  styleBlocks : List String := []
  /-- Lines that mean nothing. -/
  skipped : List String := []
  deriving DecidableEq, Repr, Inhabited

/-- The graph under construction. -/
structure Draft where
  entries : List Entry := []
  transitions : List Transition := []
  startPoints : List StartPoint := []
  /-- The number the next made id tries first. -/
  counter : Nat := 0
  tail : Option String := Option.none
  pending : Option String := Option.none
  declared : Option String := Option.none
  frames : List Frame := []
  block : Block := .none
  remarks : Remarks := {}
  deriving DecidableEq, Repr, Inhabited

namespace Draft

/-! ## Nodes -/

/-- The ids in use. -/
def ids (d : Draft) : List String :=
  d.entries.map (·.node.id)

/-- A node added at the end. -/
def addNode (d : Draft) (id label : String) (origin : Origin) : Draft :=
  { d with entries := d.entries ++ [⟨⟨id, some label, none, none⟩, origin⟩] }

/-- A node under a made id. -/
def addMade (d : Draft) (label : String) (origin : Origin) : Draft × String :=
  let index := freshIndex label d.ids d.counter
  let id := makeId label index
  ({ d with counter := index + 1 }.addNode id label origin, id)

/-- The declared node with a label. -/
def findDeclared? (d : Draft) (label : String) : Option String :=
  (d.entries.find? fun e => e.node.label = some label && e.origin = .declared).map (·.node.id)

/-- The node that a token names, declared now if it was not before.  The initial marker names a node
of its own. -/
def resolve (d : Draft) (token : String) : Draft × String :=
  let token := Text.strip token
  if token = startMarker then
    (if startMarker ∈ d.ids then d else d.addNode startMarker startMarker .declared, startMarker)
  else
    let label := normalizeLabel token
    match d.findDeclared? label with
    | some id => (d, id)
    | none =>
      if !label.isEmpty && !(d.ids.contains label) then (d.addNode label label .declared, label)
      else d.addMade label .declared

/-- Change the node with an id. -/
def modifyNode (d : Draft) (id : String) (change : Node → Node) : Draft :=
  { d with entries := d.entries.map fun e =>
      if e.node.id = id then { e with node := change e.node } else e }

/-! ## Transitions -/

/-- Whether a condition says nothing. -/
def isBlankCondition (condition : Option String) : Bool :=
  Text.blank? condition

/-- A transition added at the end.  Without a source there is none, and a node is linked with itself
only under a condition that is not blank. -/
def link (d : Draft) (source : Option String) (target : String) (condition : Option String) :
    Draft :=
  match source with
  | none => d
  | some source =>
    if source = target && isBlankCondition condition then d
    else { d with transitions := d.transitions ++
      [⟨"t_" ++ toString d.transitions.length, source, target, condition⟩] }

/-- The current branch of the innermost frame is entered. -/
def markEntered (d : Draft) : Draft :=
  match d.frames with
  | .branches decision ended current :: rest =>
    { d with frames := .branches decision ended { current with entered := true } :: rest }
  | _ => d

/-- Link a node from the tail and make it the new tail. -/
def attach (d : Draft) (id : String) : Draft :=
  let d := (d.link d.tail id d.pending).markEntered
  { d with tail := some id, pending := none }

/-- Go on from a node without linking it. -/
def jump (d : Draft) (id : String) : Draft :=
  { d with tail := some id, pending := none, declared := some id }

/-- Begin at a node: it is a start point, and the graph goes on from it. -/
def beginAt (d : Draft) (id : String) : Draft :=
  { d with startPoints := d.startPoints ++ [⟨id⟩], tail := some id, pending := none,
           declared := some id }

/-- A node was declared last. -/
def declare (d : Draft) (id : String) : Draft :=
  { d with declared := some id }

/-! ## Remarks -/

/-- A line that means nothing. -/
def skip (d : Draft) (text : String) : Draft :=
  { d with remarks := { d.remarks with skipped := d.remarks.skipped ++ [text] } }

/-- A style block that is complete. -/
def addStyleBlock (d : Draft) (lines : List (List Char)) : Draft :=
  let text := String.ofList (['\n'].intercalate lines)
  { d with remarks := { d.remarks with styleBlocks := d.remarks.styleBlocks ++ [text] } }

/-- Write a setting: in place when it was set before, at the end otherwise. -/
def setParam (name value : String) : List (String × String) → List (String × String)
  | [] => [(name, value)]
  | p :: rest => if p.1 = name then (p.1, value) :: rest else p :: setParam name value rest

/-! ## Notes -/

/-- Put a note on a node.  A note leaves alone what it does not say. -/
def annotate (d : Draft) (id body : String) : Draft :=
  let (metadata, prose) := splitNote body
  d.modifyNode id fun n =>
    { n with metadata := metadata <|> n.metadata, note := prose <|> n.note }

/-- Put a note on the node of a name, or on the node declared last. -/
def annotateTarget (d : Draft) (target : Option String) (body : String) : Draft :=
  match target with
  | some token =>
    let (d, id) := d.resolve token
    d.annotate id body
  | none => match d.declared with
    | some id => d.annotate id body
    | none => d

/-- The end of a note over several lines. -/
def endNote (d : Draft) (target : Option String) (lines : List (List Char)) : Draft :=
  d.annotateTarget target (String.ofList (['\n'].intercalate lines))

/-! ## Actions and arrows -/

/-- Note a stereotype on a node, behind what is noted already. -/
def noteStereotype (n : Node) (name : String) : Node :=
  let marker := "<<" ++ name ++ ">>"
  { n with note := some (match n.note with
      | some note => if note.isEmpty then marker else note ++ "\n" ++ marker
      | none => marker) }

/-- An action: its node is linked from the tail. -/
def act (d : Draft) : ActionText → Draft
  | .empty written => d.skip written
  | .labelled label stereotype =>
    let (d, id) := d.resolve label
    let d := (d.attach id).declare id
    match stereotype with
    | some name => d.modifyNode id (noteStereotype · name)
    | none => d

/-- An arrow.  From the initial marker it declares a start point; without a source it leads on from
the tail. -/
def addArrow (d : Draft) (source target : String) (condition : Option String) : Draft :=
  if source = startMarker then
    let (d, id) := d.resolve target
    d.beginAt id
  else
    let (d, from?) := if source.isEmpty then (d, d.tail) else
      let (d, id) := d.resolve source
      (d, some id)
    let (d, id) := d.resolve target
    (d.link from? id condition).jump id

/-- The initial node. -/
def begin (d : Draft) : Draft :=
  let (d, id) := d.resolve "Start"
  d.beginAt id

/-- The final node.  Nothing leads on from it. -/
def halt (d : Draft) : Draft :=
  let (d, id) := d.resolve "Stop"
  { (d.attach id).declare id with tail := none }

/-! ## Branches and loops -/

/-- Whether a frame belongs to an `if`. -/
def isBranches : Frame → Bool
  | .branches .. => true
  | .loop _ => false

/-- Whether an `if` is open. -/
def ifOpen (d : Draft) : Bool :=
  d.frames.any isBranches

/-- Whether a loop is open. -/
def loopOpen (d : Draft) : Bool :=
  d.frames.any fun f => !isBranches f

/-- The branch with the node it ends in. -/
def endBranch (b : Branch) (tail : Option String) : Branch :=
  { b with tail := if b.entered then tail else none }

/-- Link a join from the end of a branch. -/
def joinBranch (decision join : String) (d : Draft) (b : Branch) : Draft :=
  if b.entered then d.link b.tail join none else d.link (some decision) join (some b.condition)

/-- Go on from a synthetic node behind a branch or a loop. -/
def continueFrom (d : Draft) (id : String) : Draft :=
  { d with tail := some id, pending := none }.markEntered

/-- Close an `if` whose frame is already off the stack. -/
def closeBranches (d : Draft) (decision : String) (ended : List Branch) (current : Branch) :
    Draft :=
  let branches := ended ++ [endBranch current d.tail]
  let (d, join) := d.addMade "join" .join
  (branches.foldl (joinBranch decision join) d).continueFrom join

/-- Close a loop whose frame is already off the stack.  Without a condition there is no way back. -/
def closeLoop (d : Draft) (entry : String) (condition : Option String) : Draft :=
  let tail := d.tail
  let (d, after) := d.addMade "after_loop" .afterLoop
  let d :=
    if tail = some entry then d.link tail after none
    else match tail, condition with
      | some _, some condition => (d.link tail entry (some condition)).link tail after none
      | some _, none => d.link tail after none
      | none, _ => d
  d.continueFrom after

/-- Close a frame that is already off the stack. -/
def closeFrame (d : Draft) : Frame → Draft
  | .branches decision ended current => d.closeBranches decision ended current
  | .loop entry => d.closeLoop entry none

/-- Close frames from the innermost outward, at most `count` of them, and stop at the first of a
kind.  Closing a frame opens none, so the number of frames is count enough. -/
def closeUpTo (kind : Frame → Bool) : (count : Nat) → Draft → Draft
  | 0, d => d
  | count + 1, d => match d.frames with
    | [] => d
    | f :: rest =>
      if kind f then d else closeUpTo kind count ({ d with frames := rest }.closeFrame f)

/-- Close the frames inside the innermost one of a kind. -/
def unwind (d : Draft) (kind : Frame → Bool) : Draft :=
  closeUpTo kind d.frames.length d

/-- Open an `if`. -/
def openIf (d : Draft) (condition : String) : Draft :=
  let (d, decision) := d.addMade ("if: " ++ condition) .decision
  let d := (d.attach decision).declare decision
  { d with frames := .branches decision [] ⟨condition, false, none⟩ :: d.frames,
           pending := some condition }

/-- Begin the next branch of the innermost `if`. -/
def nextBranch (d : Draft) (condition : String) : Draft :=
  let d := d.unwind isBranches
  match d.frames with
  | .branches decision ended current :: rest =>
    let ended := ended ++ [endBranch current d.tail]
    { d with frames := .branches decision ended ⟨condition, false, none⟩ :: rest,
             tail := some decision, pending := some condition }
  | _ => d

/-- Close the innermost `if`. -/
def closeIf (d : Draft) : Draft :=
  let d := d.unwind isBranches
  match d.frames with
  | .branches decision ended current :: rest =>
    { d with frames := rest }.closeBranches decision ended current
  | _ => d

/-- Open a loop. -/
def openLoop (d : Draft) (first : Option ActionText) : Draft :=
  let (d, entry) := d.addMade "loop_entry" .loopEntry
  let d := d.attach entry
  let d := { d with frames := .loop entry :: d.frames }
  match first with
  | some text => d.act text
  | none => d

/-- Close the innermost loop with the condition for another round. -/
def endLoop (d : Draft) (condition : String) : Draft :=
  let d := d.unwind fun f => !isBranches f
  match d.frames with
  | .loop entry :: rest => { d with frames := rest }.closeLoop entry (some condition)
  | _ => d

/-! ## Lines -/

/-- The effect of a line outside blocks. -/
def takeLine (d : Draft) (raw : List Char) : Draft :=
  match Line.read d.ifOpen raw with
  | .style ends => if ends then d.addStyleBlock [raw] else { d with block := .style [raw] }
  | .skinparam name value =>
    { d with remarks := { d.remarks with skinparams := setParam name value d.remarks.skinparams } }
  | .pragma name value =>
    { d with remarks := { d.remarks with pragmas := d.remarks.pragmas ++ [(name, value)] } }
  | .shortNote body => d.annotateTarget none body
  | .inlineNote target body => d.annotateTarget (some target) body
  | .blockNote target => { d with block := .note target [] }
  | .start => d.begin
  | .stop => d.halt
  | .openIf condition => d.openIf condition
  | .nextBranch condition => d.nextBranch condition
  | .closeIf => d.closeIf
  | .closeLoop condition =>
    if d.loopOpen then d.endLoop condition else d.skip (String.ofList raw)
  | .openLoop first => d.openLoop first
  | .arrow source target condition => d.addArrow source target condition
  | .looseArrow report => d.skip report
  | .action text => d.act text
  | .unknown => d.skip (String.ofList raw)

/-- **The effect of a line.** -/
def step (d : Draft) (raw : List Char) : Draft :=
  match d.block with
  | .none => d.takeLine raw
  | .style lines =>
    if isStyleEnd raw then { d with block := .none }.addStyleBlock (lines ++ [raw])
    else { d with block := .style (lines ++ [raw]) }
  | .note target lines =>
    if isNoteEnd raw then { d with block := .none }.endNote target lines
    else { d with block := .note target (lines ++ [raw]) }

/-- End a block that the diagram left open. -/
def endBlock (d : Draft) : Draft :=
  match d.block with
  | .none => d
  | .style lines => { d with block := .none }.addStyleBlock lines
  | .note target lines => { d with block := .none }.endNote target lines

/-- Close what the diagram left open: the block, then the frames, innermost first. -/
def finish (d : Draft) : Draft :=
  d.endBlock.unwind fun _ => false

/-- **The draft of a list of lines.** -/
def ofLines (lines : List (List Char)) : Draft :=
  (lines.foldl step {}).finish

end Draft

end ActivityFlow.Diagram
