import ActivityFlow.Proofs.Diagram.WordLabel

/-!
# Structured programs

A diagram that is built from actions, stops, branches and loops alone, properly nested, is a
*structured program*.  This file says what such a program is and how it is written, one line per
token, and reads the lines back:

* `Word` — what stands for a label or a condition: letters, digits and underscores.
* `Statement`, `Program`, `Others` — the syntax, each with its `lines`.
* `Program.text` — the whole text, behind a `start`.
* `read_actionLine`, `read_ifLine`, … — the form of each line.  None of them depends on what is
  open, except that `else` and `endif` need an open `if`.
-/

namespace ActivityFlow.Diagram

open ActivityFlow.Text

/-! ## Words -/

/-- A word: one or more letters, digits and underscores. -/
structure Word where
  chars : List Char
  nonempty : chars ≠ []
  plain : chars.all isIdChar = true

/-- The word as a text. -/
def Word.text (w : Word) : String :=
  String.ofList w.chars

lemma Word.wordy (w : Word) : Wordy w.chars where
  nonempty := w.nonempty
  word := fun c hc => isWordChar_of_isIdChar (List.all_eq_true.mp w.plain c hc)

@[simp] lemma Word.toList_text (w : Word) : w.text.toList = w.chars := by
  rw [text, String.toList_ofList]

lemma Word.text_ne_empty (w : Word) : w.text ≠ "" := by
  intro h
  have hlist := congrArg String.toList h
  exact w.nonempty (by simpa using hlist)

lemma Word.text_ne_startMarker (w : Word) : w.text ≠ startMarker :=
  w.wordy.ne_startMarker

lemma Word.strip_text (w : Word) : strip w.text = w.text :=
  w.wordy.strip_eq

lemma Word.blank_text (w : Word) : blank w.text = false := by
  obtain ⟨c, cs, hchars⟩ := List.exists_cons_of_ne_nil w.nonempty
  have hc := isBlank_of_isWordChar (w.wordy.word c (hchars ▸ List.mem_cons_self))
  simp [blank, isBlankText, hchars, hc]

/-- A word is its own label. -/
lemma Word.normalizeLabel_text (w : Word) : normalizeLabel w.text = w.text :=
  w.wordy.normalizeLabel_eq

/-! ## Syntax -/

mutual

/-- A statement of a structured program. -/
inductive Statement where
  | action (label : Word)
  | stop
  /-- An `if` with its first branch and what follows it. -/
  | choice (condition : Word) (body : Program) (others : Others)
  /-- A loop whose body is repeated under a condition. -/
  | loop (body : Program) (condition : Word)

/-- Statements one after the other. -/
inductive Program where
  | done
  | next (first : Statement) (rest : Program)

/-- What follows a branch of an `if`. -/
inductive Others where
  | endif
  | otherwise (body : Program)
  | elseIf (condition : Word) (body : Program) (others : Others)

end

/-! ## Lines -/

/-- The line of an action. -/
def actionLine (label : Word) : List Char :=
  (":" ++ label.text ++ ";").toList

/-- The line that opens an `if`. -/
def ifLine (condition : Word) : List Char :=
  ("if (" ++ condition.text ++ ") then").toList

/-- The line of a further branch with a condition. -/
def elseIfLine (condition : Word) : List Char :=
  ("else if (" ++ condition.text ++ ") then").toList

/-- The line that closes a loop. -/
def whileLine (condition : Word) : List Char :=
  ("repeat while (" ++ condition.text ++ ")").toList

mutual

def Statement.lines : Statement → List (List Char)
  | .action label => [actionLine label]
  | .stop => ["stop".toList]
  | .choice condition body others => ifLine condition :: (body.lines ++ others.lines)
  | .loop body condition => "repeat".toList :: (body.lines ++ [whileLine condition])

def Program.lines : Program → List (List Char)
  | .done => []
  | .next first rest => first.lines ++ rest.lines

def Others.lines : Others → List (List Char)
  | .endif => ["endif".toList]
  | .otherwise body => "else".toList :: (body.lines ++ ["endif".toList])
  | .elseIf condition body others => elseIfLine condition :: (body.lines ++ others.lines)

end

/-- **The text of a program**: a line `start`, and the lines of the program. -/
def Program.text (p : Program) : String :=
  String.ofList (['\n'].intercalate ("start".toList :: p.lines))

/-! ## The lines stand for themselves -/

/-- A word between two fixed texts is a line. -/
lemma Word.stands_between (w : Word) {before behind : String}
    (hfree : BreakFree before.toList ∧ BreakFree behind.toList)
    (hfirst : before.toList.head?.any opensLine = true)
    (hlast : behind.toList.getLast?.any (fun c => !isBlank c) = true) :
    Stands (before ++ w.text ++ behind).toList := by
  have hends : before.toList ≠ [] ∧ behind.toList ≠ [] :=
    ⟨fun h => by simp [h] at hfirst, fun h => by simp [h] at hlast⟩
  rw [String.toList_append, String.toList_append, w.toList_text]
  refine stands_of_ends ?_ ?_ ?_
  · intro c hc
    rcases List.mem_append.mp hc with hc | hc
    · exact (List.mem_append.mp hc).elim (hfree.1 c) (w.wordy.breakFree c)
    · exact hfree.2 c hc
  · rwa [List.append_assoc, List.head?_append_of_ne_nil _ hends.1]
  · rwa [List.getLast?_append_of_ne_nil _ hends.2]

mutual

lemma Statement.stands : ∀ s : Statement, ∀ l ∈ s.lines, Stands l
  | .action label => by
      simp only [Statement.lines, List.mem_singleton, forall_eq]
      exact label.stands_between (by decide) (by decide) (by decide)
  | .stop => by
      simp only [Statement.lines, List.mem_singleton, forall_eq]
      exact stands_of_ends (by decide) (by decide) (by decide)
  | .choice condition body others => by
      simp only [Statement.lines, List.forall_mem_cons, List.forall_mem_append]
      exact ⟨condition.stands_between (by decide) (by decide) (by decide), body.stands,
        others.stands⟩
  | .loop body condition => by
      simp only [Statement.lines, List.forall_mem_cons, List.forall_mem_append, List.mem_singleton,
        forall_eq]
      exact ⟨stands_of_ends (by decide) (by decide) (by decide), body.stands,
        condition.stands_between (by decide) (by decide) (by decide)⟩

/-- Every line of a program stands for itself. -/
lemma Program.stands : ∀ p : Program, ∀ l ∈ p.lines, Stands l
  | .done => by simp [Program.lines]
  | .next first rest => by
      simp only [Program.lines, List.forall_mem_append]
      exact ⟨first.stands, rest.stands⟩

lemma Others.stands : ∀ o : Others, ∀ l ∈ o.lines, Stands l
  | .endif => by
      simp only [Others.lines, List.mem_singleton, forall_eq]
      exact stands_of_ends (by decide) (by decide) (by decide)
  | .otherwise body => by
      simp only [Others.lines, List.forall_mem_cons, List.forall_mem_append, List.mem_singleton,
        forall_eq]
      exact ⟨stands_of_ends (by decide) (by decide) (by decide), body.stands,
        stands_of_ends (by decide) (by decide) (by decide)⟩
  | .elseIf condition body others => by
      simp only [Others.lines, List.forall_mem_cons, List.forall_mem_append]
      exact ⟨condition.stands_between (by decide) (by decide) (by decide), body.stands,
        others.stands⟩

end

/-! ## The forms of the lines -/

/-- The line of an action asks for its label. -/
theorem read_actionLine (ifOpen : Bool) (label : Word) :
    Line.read ifOpen (actionLine label) = .action (.labelled label.text none) := by
  have hline : actionLine label = labelLine label.chars := by simp [actionLine, labelLine]
  rw [hline]
  exact label.wordy.read_line ifOpen

/-- Behind a blank and a parenthesis, a condition is a word up to the closing parenthesis. -/
lemma Word.inParens_chars {α : Type} (condition : Word) {accept : List Char → Option α}
    {behind : List Char} {a : α} (h : accept behind = some a) :
    inParens accept (" (".toList ++ condition.chars ++ ')' :: behind)
      = some (condition.chars, a) := by
  have hskip : skipBlank (" (".toList ++ condition.chars ++ ')' :: behind)
      = '(' :: (condition.chars ++ ')' :: behind) := by
    simp [skipBlank, isBlank]
  simp only [inParens, hskip]
  rw [shortest_append]
  · simp [shortest, h]
  · intro c tail hsuffix
    have hc : c ≠ ')' := condition.wordy.ne_of_mem (hsuffix.subset List.mem_cons_self) (by decide)
    simp [hc]

/-- Between the parentheses of an `if` stands its condition. -/
lemma Word.ifCondition?_chars (condition : Word) :
    ifCondition? (" (".toList ++ condition.chars ++ ") then".toList) = some condition.chars := by
  have hsplit : ") then".toList = ')' :: " then".toList := by decide
  have htail : branchTail? " then".toList = some () := by decide
  rw [ifCondition?, hsplit, condition.inParens_chars htail]
  rfl

lemma read_of_if (ifOpen : Bool) {cs condition : List Char} (h : ifCondition? cs = some condition) :
    Line.read ifOpen ('i' :: 'f' :: cs) = .openIf (String.ofList (trim condition)) := by
  simp [Line.read, plain?, isStyleOpen, readSkinparam?, readPragma?, readNote?, isWholeKeyword,
    readIf?, dropKeyword?, sameLetter, h]

lemma read_of_elseIf {cs condition : List Char} (h : ifCondition? cs = some condition)
    (hne : trim condition ≠ []) :
    Line.read true ("else if".toList ++ cs) = .nextBranch (String.ofList (trim condition)) := by
  simp [Line.read, plain?, isStyleOpen, readSkinparam?, readPragma?, readNote?, isWholeKeyword,
    readIf?, readElse?, dropKeyword?, sameLetter, skipBlank, isBlank, h, hne]

lemma read_of_repeatWhile (ifOpen : Bool) {cs condition rest : List Char}
    (h : inParens some cs = some (condition, rest)) :
    Line.read ifOpen ("repeat while".toList ++ cs)
      = .closeLoop (String.ofList (trim condition)) := by
  cases ifOpen <;>
    simp [Line.read, plain?, isStyleOpen, readSkinparam?, readPragma?, readNote?, isWholeKeyword,
      isEndKeyword, isIfEnd, readIf?, readElse?, readLoopEnd?, dropKeyword?, sameLetter,
      skipBlanks1?, skipBlank, isBlank, h]

/-- The line of an `if` opens a branch under its condition. -/
theorem read_ifLine (ifOpen : Bool) (condition : Word) :
    Line.read ifOpen (ifLine condition) = .openIf condition.text := by
  have hline : ifLine condition
      = 'i' :: 'f' :: (" (".toList ++ condition.chars ++ ") then".toList) := by simp [ifLine]
  have hread := read_of_if ifOpen condition.ifCondition?_chars
  rw [condition.wordy.tight.trim_eq, ← hline] at hread
  exact hread

/-- The line of a further branch, inside an `if`, opens it under its condition. -/
theorem read_elseIfLine (condition : Word) :
    Line.read true (elseIfLine condition) = .nextBranch condition.text := by
  have hline : elseIfLine condition
      = "else if".toList ++ (" (".toList ++ condition.chars ++ ") then".toList) := by
    simp [elseIfLine]
  have hne : trim condition.chars ≠ [] := by rw [condition.wordy.tight.trim_eq]; exact condition.nonempty
  have hread := read_of_elseIf condition.ifCondition?_chars hne
  rw [condition.wordy.tight.trim_eq, ← hline] at hread
  exact hread

/-- The line of a loop condition closes a loop. -/
theorem read_whileLine (ifOpen : Bool) (condition : Word) :
    Line.read ifOpen (whileLine condition) = .closeLoop condition.text := by
  have hline : whileLine condition
      = "repeat while".toList ++ (" (".toList ++ condition.chars ++ [')']) := by simp [whileLine]
  have hcondition : inParens some (" (".toList ++ condition.chars ++ [')'])
      = some (condition.chars, []) := condition.inParens_chars rfl
  have hread := read_of_repeatWhile ifOpen hcondition
  rw [condition.wordy.tight.trim_eq, ← hline] at hread
  exact hread

lemma read_start (ifOpen : Bool) : Line.read ifOpen "start".toList = .start := by
  cases ifOpen <;> decide +kernel

lemma read_stop (ifOpen : Bool) : Line.read ifOpen "stop".toList = .stop := by
  cases ifOpen <;> decide +kernel

lemma read_repeat (ifOpen : Bool) : Line.read ifOpen "repeat".toList = .openLoop none := by
  cases ifOpen <;> decide +kernel

lemma read_else : Line.read true "else".toList = .nextBranch elseCondition := by
  decide +kernel

lemma read_endif : Line.read true "endif".toList = .closeIf := by
  decide +kernel

end ActivityFlow.Diagram
