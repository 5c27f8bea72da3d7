import ActivityFlow.Text.Keyword
import ActivityFlow.Text.Lines
import ActivityFlow.Text.Scan
import ActivityFlow.Text.Word

/-!
# The lines of a diagram

A diagram is read line by line, and each line has one of a few forms.  This file says which form a
line has and what it carries; what the line does to the graph is said elsewhere.

**Order decides.**  The forms overlap, so they are tried in a fixed order and the first that fits
wins: style blocks, display settings, notes, then the words of the control flow, then arrows, and
actions last.  A line that fits none is `unknown`.

**Context decides once.**  `else` and `endif` are words of the language only while an `if` is open;
otherwise such a line is read like any other.

**Texts are shortest.**  Where a label or a condition is followed by something else, it ends at the
first place from which the rest of the line makes sense (`Text.shortest`).

* `Line` — the forms.
* `Line.read` — the form of a trimmed line.
* `prepareLines` — the lines of a text that are read at all.
-/

namespace ActivityFlow.Diagram

open ActivityFlow.Text

/-! ## Forms -/

/-- What an action asks for. -/
inductive ActionText where
  /-- A label, with the name of the first stereotype if there is one. -/
  | labelled (label : String) (stereotype : Option String)
  /-- Nothing is left of the label; the written text is kept for the report. -/
  | empty (written : String)
  deriving DecidableEq, Repr

/-- The form of a line, with what it carries. -/
inductive Line where
  /-- A style block begins; it may end on the same line. -/
  | style (ends : Bool)
  | skinparam (name value : String)
  | pragma (name : String) (value : Option String)
  /-- A note on the node declared last. -/
  | shortNote (body : String)
  | inlineNote (target body : String)
  /-- A note whose body stands on the following lines. -/
  | blockNote (target : Option String)
  | start
  | stop
  | openIf (condition : String)
  | nextBranch (condition : String)
  | closeIf
  | closeLoop (condition : String)
  | openLoop (first : Option ActionText)
  | arrow (source target : String) (condition : Option String)
  /-- An arrow that leads nowhere, with the text that is reported for it. -/
  | looseArrow (report : String)
  | action (text : ActionText)
  | unknown
  deriving DecidableEq, Repr

/-- The condition of a branch that has none of its own. -/
def elseCondition : String := "else"

/-- The token of the initial marker. -/
def startMarker : String := "[*]"

/-! ## Ends of lines -/

/-- Whether a text is empty but for one optional `;`. -/
def endsHere (cs : List Char) : Bool :=
  cs == [] || cs == [';']

/-- The text without one optional `;` at its end. -/
def dropLastSemicolon (cs : List Char) : List Char :=
  if cs.getLast? = some ';' then cs.dropLast else cs

/-- Whether a line is a keyword and nothing else, but for an optional `;`. -/
def isWholeKeyword (keyword : String) (line : List Char) : Bool :=
  (dropKeyword? keyword.toList line).any endsHere

/-- Whether a line is `end`, at most one blank, and a keyword, but for an optional `;`. -/
def isEndKeyword (keyword : String) (line : List Char) : Bool :=
  match dropKeyword? ['e', 'n', 'd'] line with
  | none => false
  | some rest =>
    (match rest with
      | c :: cs => isBlank c && isWholeKeyword keyword cs
      | [] => false) || isWholeKeyword keyword rest

/-! ## Style blocks and display settings -/

/-- Whether a line begins a style block. -/
def isStyleOpen (line : List Char) : Bool :=
  (dropKeyword? "<style".toList line).any fun rest => !startsWord rest

/-- Whether a line holds the end of a style block. -/
def isStyleEnd (line : List Char) : Bool :=
  hasKeyword "</style>".toList line

/-- The first word of a text and what follows it. -/
def splitWord (cs : List Char) : List Char × List Char :=
  (cs.takeWhile fun c => !isBlank c, cs.dropWhile fun c => !isBlank c)

/-- A display setting: a name and a value. -/
def readSkinparam? (line : List Char) : Option Line := do
  let rest ← dropKeyword? "skinparam".toList line
  let rest ← skipBlanks1? rest
  let (name, rest) := splitWord rest
  let value ← skipBlanks1? rest
  return .skinparam (String.ofList name) (String.ofList (trim (dropLastSemicolon value)))

/-- A pragma: a name and an optional value. -/
def readPragma? (line : List Char) : Option Line := do
  let rest ← dropKeyword? ['!'] line
  let rest ← dropKeyword? "pragma".toList (skipBlank rest)
  let rest ← skipBlanks1? rest
  let (name, rest) := splitWord rest
  let value := trim rest
  return .pragma (String.ofList name) (if value.isEmpty then none else some (String.ofList value))

/-! ## Notes -/

/-- The sides a note can stand on. -/
def sides : List (List Char) :=
  ["left".toList, "right".toList, "top".toList, "bottom".toList]

/-- The text behind an optional side, when what follows it is accepted. -/
def afterSide (accept : List Char → Option Line) (cs : List Char) : Option Line :=
  ((skipBlanks1? cs).bind (dropOneOf? sides) |>.bind accept) <|> accept cs

/-- The text behind a colon, blanks on both sides of it dropped. -/
def afterColon? (cs : List Char) : Option (List Char) :=
  match skipBlank cs with
  | ':' :: rest => some (skipBlank rest)
  | _ => none

/-- A note on the node declared last: a colon and a body. -/
def readShortNote? (rest : List Char) : Option Line :=
  afterSide (fun cs => (afterColon? cs).map fun body => .shortNote (String.ofList body)) rest

/-- The name of a node, at least one character, and the body behind the colon after it. -/
def readTarget? : List Char → Option Line
  | [] => none
  | c :: cs => (shortest afterColon? cs).map fun found =>
    .inlineNote (String.ofList (c :: found.1)) (String.ofList found.2)

/-- The text behind `of` and the blanks after it, tried with all of the blanks and then with all
but the last, which then belongs to what follows. -/
def afterOf (accept : List Char → Option Line) (cs : List Char) : Option Line := do
  let rest ← skipBlanks1? cs
  let rest ← dropKeyword? ['o', 'f'] rest
  let named ← skipBlanks1? rest
  let blanks := rest.takeWhile isBlank
  accept named <|> (if 2 ≤ blanks.length then accept (blanks.drop (blanks.length - 1) ++ named)
    else none)

/-- A note on a named node, on one line. -/
def readInlineNote? (rest : List Char) : Option Line :=
  afterSide (afterOf readTarget?) rest

/-- A name up to the end of the line, blanks and one optional `;` at the end dropped. -/
def nameToEnd? : List Char → Option (List Char)
  | [] => none
  | c :: cs => (shortest (fun r => if endsHere (skipBlank r) then some () else none) cs).map
    fun found => c :: found.1

/-- The opening line of a note over several lines. -/
def readBlockNote? (rest : List Char) : Option Line :=
  afterSide (fun cs =>
    afterOf (fun named => (nameToEnd? named).map fun name => .blockNote (String.ofList name)) cs <|>
      if endsHere (skipBlank cs) then some (.blockNote none) else none) rest

/-- Any note; a line that begins like one and is none is unknown. -/
def readNote? (line : List Char) : Option Line := do
  let rest ← dropKeyword? "note".toList line
  if startsWord rest then none
  else (readShortNote? rest <|> readInlineNote? rest <|> readBlockNote? rest).or (some .unknown)

/-- Whether a line ends a note over several lines. -/
def isNoteEnd (line : List Char) : Bool :=
  isEndKeyword "note" line

/-! ## Branches and loops -/

/-- The text inside parentheses and what the rest behind them is accepted as.  The text ends at the
first closing parenthesis behind which the rest is accepted. -/
def inParens {α : Type} (accept : List Char → Option α) (cs : List Char) :
    Option (List Char × α) :=
  match skipBlank cs with
  | '(' :: rest => shortest (fun r => match r with
    | ')' :: behind => accept behind
    | _ => none) rest
  | _ => none

/-- Accepts the end of a line. -/
def accept? (ends : Bool) : Option Unit :=
  if ends then some () else none

/-- `then`, an optional text in parentheses, and the end of the line. -/
def thenPart? (cs : List Char) : Option Unit := do
  let rest ← dropKeyword? "then".toList (skipBlank cs)
  ((inParens (fun r => accept? (endsHere r)) rest).map fun _ => ()) <|> accept? (endsHere rest)

/-- What follows the condition of a branch: an optional comparison, and the `then` part. -/
def branchTail? (cs : List Char) : Option Unit :=
  ((dropOneOf? ["is".toList, "equals".toList] (skipBlank cs)).bind fun rest =>
    (inParens thenPart? rest).map fun _ => ()) <|> thenPart? cs

/-- The condition that follows `if`. -/
def ifCondition? (cs : List Char) : Option (List Char) :=
  (inParens branchTail? cs).map (·.1)

/-- An opening `if`. -/
def readIf? (line : List Char) : Option Line := do
  let rest ← dropKeyword? ['i', 'f'] line
  let condition ← ifCondition? rest
  return .openIf (String.ofList (trim condition))

/-- A further branch.  A branch without a condition, or with a blank one, is the `else` branch. -/
def readElse? (line : List Char) : Option Line := do
  let rest ← dropKeyword? "else".toList line
  match (dropKeyword? ['i', 'f'] (skipBlank rest)).bind ifCondition? with
  | some condition =>
    let condition := trim condition
    return .nextBranch (if condition.isEmpty then elseCondition else String.ofList condition)
  | none =>
    let plain := endsHere (skipBlank rest) || (inParens (fun r => accept? (endsHere r)) rest).isSome
    if plain then return .nextBranch elseCondition else none

/-- The end of an `if`. -/
def isIfEnd (line : List Char) : Bool :=
  isEndKeyword "if" line

/-- The end of a loop; what follows the condition is not looked at. -/
def readLoopEnd? (line : List Char) : Option Line := do
  let rest ← dropKeyword? "repeat".toList line
  let rest ← dropKeyword? "while".toList (← skipBlanks1? rest)
  let (condition, _) ← inParens some rest
  return .closeLoop (String.ofList (trim condition))

/-! ## Actions -/

/-- The name in a stereotype at the front of a text, and what follows the stereotype. -/
def stereotype? : List Char → Option (List Char × List Char)
  | '<' :: '<' :: cs =>
    let inner := skipBlank cs
    let name := inner.takeWhile isWordChar
    match name.isEmpty, skipBlank (inner.dropWhile isWordChar) with
    | false, '>' :: '>' :: rest => some (name, rest)
    | _, _ => none
  | _ => none

/-- What the text of an action asks for: the label without its stereotypes. -/
def readActionText (text : List Char) : ActionText :=
  let name := (shortest stereotype? text).map fun found => String.ofList found.2.1
  let without := replaceMatches (fun cs => (stereotype? cs).map fun found => ([], found.2)) 0 text
  let label := trim without
  if label.isEmpty then .empty (String.ofList text) else .labelled (String.ofList label) name

/-- The text behind the colon that begins an action, an optional color in front of it. -/
def actionStart? : List Char → Option (List Char)
  | ':' :: cs => some cs
  | '#' :: cs =>
    let isColor := fun c => !isBlank c && c != ':'
    match (cs.takeWhile isColor).isEmpty, skipBlank (cs.dropWhile isColor) with
    | false, ':' :: rest => some rest
    | _, _ => none
  | _ => none

/-- The characters that may end an action. -/
def isActionEnd (c : Char) : Bool :=
  c == ';' || c == '|' || c == '<' || c == '>' || c == '/' || c == ']' || c == '\x7d'

/-- The text without one character at its end that may end an action. -/
def dropActionEnd (cs : List Char) : List Char :=
  if cs.getLast?.any isActionEnd then cs.dropLast else cs

/-- An action. -/
def readAction? (line : List Char) : Option Line :=
  (actionStart? line).map fun text => .action (readActionText (dropActionEnd text))

/-- The beginning of a loop, with an optional first action between `:` and `;`. -/
def readLoopStart? (line : List Char) : Option Line := do
  let rest ← dropKeyword? "repeat".toList line
  match skipBlank rest with
  | [] => if rest.isEmpty then return .openLoop none else none
  | ':' :: label =>
    if label.getLast? = some ';' then
      let text := label.dropLast
      return .openLoop (if isBlankText text then none else some (readActionText text))
    else none
  | _ => none

/-! ## Arrows -/

/-- The sign of an arrow. -/
inductive ArrowSign where
  | right
  | longRight
  | left
  | longLeft
  deriving DecidableEq, Repr

/-- How a sign is written. -/
def ArrowSign.text : ArrowSign → String
  | right => "->"
  | longRight => "-->"
  | left => "<-"
  | longLeft => "<--"

/-- Whether the arrow is written from its target to its source. -/
def ArrowSign.reversed : ArrowSign → Bool
  | right | longRight => false
  | left | longLeft => true

/-- The sign at the front of a text, as long as possible, and what follows it. -/
def arrowSign? : List Char → Option (ArrowSign × List Char)
  | '-' :: '-' :: '>' :: cs => some (.longRight, cs)
  | '-' :: '>' :: cs => some (.right, cs)
  | '<' :: '-' :: '-' :: cs => some (.longLeft, cs)
  | '<' :: '-' :: cs => some (.left, cs)
  | _ => none

/-- A quoted piece at the front of a text is dropped; what follows it is left. -/
def quotedPiece? : List Char → Option (List Char × List Char)
  | '\x22' :: cs => match cs.dropWhile (· != '\x22') with
    | _ :: rest => some ([], rest)
    | [] => none
  | _ => none

/-- The name of one end of an arrow: quoted pieces do not belong to it. -/
def arrowEnd (cs : List Char) : List Char :=
  trim (replaceMatches quotedPiece? 0 cs)

/-- The label behind a colon; it has at least one character. -/
def arrowLabel? (cs : List Char) : Option (List Char) :=
  match skipBlank cs with
  | ':' :: rest => if rest.isEmpty then none else some (trim rest)
  | _ => none

/-- The end of an arrow split into a name and a label.  The name does not begin with a colon. -/
def splitLabel (cs : List Char) : List Char × Option String :=
  match cs with
  | [] => ([], none)
  | c :: rest =>
    if c == ':' then (cs, none)
    else match shortest arrowLabel? rest with
      | some (name, label) => (c :: name, some (String.ofList label))
      | none => (cs, none)

/-- An arrow between the texts on its two sides. -/
def readArrow (before : List Char) (sign : ArrowSign) (behind : List Char) : Line :=
  let source := arrowEnd (if sign.reversed then behind else before)
  let target := arrowEnd (if sign.reversed then before else behind)
  let (name, condition) := splitLabel target
  if name.isEmpty then .looseArrow (String.ofList source ++ " " ++ sign.text)
  else .arrow (String.ofList source) (String.ofList name) condition

/-- An arrow line.  It has a text on at least one side, and when the line begins like an action the
text behind the sign has to begin with a colon too. -/
def readArrow? (line : List Char) : Option Line := do
  let (before, sign, rest) ← shortest (fun cs => arrowSign? (skipBlank cs)) line
  let behind := skipBlank rest
  let someText := !isBlankText before || !isBlankText behind
  let actionLike := (actionStart? line).isSome && behind.head? != some ':'
  if someText && !actionLike then return readArrow before sign behind else none

/-! ## Reading a line -/

/-- A form without content, if the line has it. -/
def plain? (fits : Bool) (form : Line) : Option Line :=
  if fits then some form else none

/-- **The form of a trimmed line.**  `ifOpen` says whether an `if` is open. -/
def Line.read (ifOpen : Bool) (line : List Char) : Line :=
  (plain? (isStyleOpen line) (.style (isStyleEnd line)) <|>
    readSkinparam? line <|>
    readPragma? line <|>
    readNote? line <|>
    plain? (isWholeKeyword "start" line) .start <|>
    plain? (isWholeKeyword "stop" line || isWholeKeyword "end" line) .stop <|>
    readIf? line <|>
    (if ifOpen then readElse? line else none) <|>
    plain? (ifOpen && isIfEnd line) .closeIf <|>
    readLoopEnd? line <|>
    readLoopStart? line <|>
    readArrow? line <|>
    readAction? line).getD .unknown

/-! ## Lines that are read -/

/-- Whether a text starts with a lower-case ASCII word, whatever the case of its ASCII letters. -/
def startsWithWord (word : String) (line : List Char) : Bool :=
  word.toList.isPrefixOf (line.map Char.toLower)

/-- Whether a trimmed line is read: it is not empty, marks neither the beginning nor the end of the
diagram, and is no comment. -/
def isRead (line : List Char) : Bool :=
  !line.isEmpty && !startsWithWord "@startuml" line && !startsWithWord "@enduml" line &&
    !(['\x27'].isPrefixOf line || ['/', '/'].isPrefixOf line)

/-- The lines of a text that are read, trimmed. -/
def prepareLines (text : List Char) : List (List Char) :=
  ((splitLines text).map trim).filter isRead

end ActivityFlow.Diagram
