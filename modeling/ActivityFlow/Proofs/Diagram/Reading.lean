import ActivityFlow.Diagram.Reading
import ActivityFlow.Proofs.Text.Pieces
import Mathlib.Tactic.Common

/-!
# From the text to its lines

A text that is not blank is always read, whatever it says, and the definition is the draft of its
prepared lines (`read_of_not_blank`).  Preparing drops and trims lines, but a text put together from
lines that *stand* for themselves has exactly these lines (`prepareLines_intercalate`).
-/

namespace ActivityFlow.Diagram

open ActivityFlow.Text

lemma nonEmpty?_of_not_blank {id : String} (h : blank id = false) :
    nonEmpty? (some id) = some id := by
  refine Option.filter_eq_some_iff.mpr ⟨rfl, ?_⟩
  cases hempty : id.isEmpty with
  | false => rfl
  | true =>
      rw [String.isEmpty_iff] at hempty
      rw [hempty] at h
      exact absurd h (by decide)

/-- A missing or blank text is refused.  Another is read under the id that was given, or under a
    made one, which is not blank. -/
lemma read_cases (text id name : Option String) (supply : IdSupply) :
    (blank? text = true ∧ read text id name supply = (.error .emptyText, supply)) ∨
      ∃ given usedId supply', text = some given ∧ blank given = false ∧
        read text id name supply =
          (.ok (readAs given.toList usedId ((nonEmpty? name).getD defaultName)), supply') ∧
        ((nonEmpty? id = some usedId ∧ supply' = supply) ∨
          nonEmpty? id = none ∧ blank usedId = false) := by
  cases text with
  | none => exact .inl ⟨rfl, rfl⟩
  | some text =>
      by_cases hblank : blank text = true
      · exact .inl ⟨hblank, by simp [read, hblank]⟩
      · rw [Bool.not_eq_true] at hblank
        refine .inr ?_
        cases hid : nonEmpty? id with
        | some usedId =>
            exact ⟨text, usedId, supply, rfl, hblank, by simp [read, hblank, hid], .inl ⟨rfl, rfl⟩⟩
        | none =>
            refine ⟨text, supply.next.1, supply.next.2, rfl, hblank, by simp [read, hblank, hid],
              .inr ⟨rfl, ?_⟩⟩
            simp [IdSupply.next, blank, isBlankText, isBlank]

/-- What a text is read under does not depend on the text, as long as it is not blank. -/
lemma exists_read_eq (id name : Option String) (supply : IdSupply) :
    ∃ usedId usedName supply', ∀ text, blank text = false →
      read (some text) id name supply = (.ok (readAs text.toList usedId usedName), supply') := by
  cases hid : nonEmpty? id with
  | some usedId =>
      exact ⟨usedId, _, supply, fun text h => by simp only [read, h, hid]; rfl⟩
  | none =>
      exact ⟨supply.next.1, _, supply.next.2, fun text h => by simp only [read, h, hid]; rfl⟩

/-- **A text that is not blank is read**, under some id and with some supply left. -/
theorem read_of_not_blank {text : String} (h : blank text = false) (id name : Option String)
    (supply : IdSupply) : ∃ usedId usedName supply',
      read (some text) id name supply = (.ok (readAs text.toList usedId usedName), supply') := by
  obtain ⟨usedId, usedName, supply', hread⟩ := exists_read_eq id name supply
  exact ⟨usedId, usedName, supply', hread text h⟩

/-- A text is read under the id that it is given. -/
lemma read_eq_readAs {text id : String} (htext : blank text = false) (hid : blank id = false)
    (name : Option String) (supply : IdSupply) : read (some text) (some id) name supply =
      (.ok (readAs text.toList id ((nonEmpty? name).getD defaultName)), supply) := by
  simp [read, htext, nonEmpty?_of_not_blank hid]

/-- What is read was read from a text that is not blank. -/
lemma readAs_of_read {text : String} {id name : Option String} {supply supply' : IdSupply}
    {reading : Reading} (h : read (some text) id name supply = (.ok reading, supply')) :
    blank text = false ∧ ∃ usedId usedName, reading = readAs text.toList usedId usedName := by
  rcases read_cases (some text) id name supply with
    ⟨-, hread⟩ | ⟨given, usedId, supply₁, hgiven, htext, hread, -⟩
  · exact absurd (h.symm.trans hread) (by simp)
  · obtain rfl := Option.some.inj hgiven
    obtain ⟨rfl, rfl⟩ : _ = reading ∧ _ = supply' := by simpa using hread.symm.trans h
    exact ⟨htext, usedId, _, rfl⟩

/-! ## Texts of lines -/

/-- The text of lines. -/
def textOf (lines : List (List Char)) : String :=
  String.ofList (['\n'].intercalate lines)

lemma toList_textOf_cons_cons (l l' : List Char) (rest : List (List Char)) :
    (textOf (l :: l' :: rest)).toList = l ++ '\n' :: (textOf (l' :: rest)).toList := by
  simp [textOf, List.intercalate, List.intersperse]

/-- What stands before a line break and behind it is prepared apart. -/
lemma prepareLines_append_break {c : Char} (hbreak : isLineBreak c = true) (cs rest : List Char) :
    prepareLines (cs ++ c :: rest) = prepareLines cs ++ prepareLines rest := by
  simp [prepareLines, splitLines_append_break hbreak]

/-- The lines of a text are prepared one by one. -/
theorem prepareLines_textOf : ∀ lines : List (List Char),
    prepareLines (textOf lines).toList = lines.flatMap prepareLines
  | [] => by decide +kernel
  | [l] => by simp [textOf, List.intercalate]
  | l :: l' :: rest => by
      rw [toList_textOf_cons_cons, prepareLines_append_break (by decide),
        prepareLines_textOf (l' :: rest)]
      exact List.flatMap_cons.symm

/-- A text of lines is blank if all of them are. -/
lemma isBlankText_textOf : ∀ lines : List (List Char),
    isBlankText (textOf lines).toList = lines.all isBlankText
  | [] => by decide +kernel
  | [l] => by simp [textOf, List.intercalate]
  | l :: l' :: rest => by
      have hbreak : isBlank '\n' = true := by decide
      rw [toList_textOf_cons_cons, List.all_cons, ← isBlankText_textOf (l' :: rest), isBlankText,
        List.all_append, List.all_cons, hbreak, Bool.true_and]
      rfl

/-- One line that is not blank is enough. -/
lemma blank_textOf {lines : List (List Char)} (h : ∃ l ∈ lines, isBlankText l = false) :
    blank (textOf lines) = false := by
  obtain ⟨l, hl, hblank⟩ := h
  rw [blank, isBlankText_textOf]
  exact List.all_eq_false.mpr ⟨l, hl, by simp [hblank]⟩

/-! ## Lines that stand for themselves -/

/-- A line that is one line, trimmed, and no line that is left out. -/
structure Stands (line : List Char) : Prop where
  breakFree : BreakFree line
  trimmed : trim line = line
  isRead : isRead line = true

lemma Stands.tight {line : List Char} (h : Stands line) : Tight line := by
  refine tight_of_trim_eq (fun hnil => ?_) h.trimmed
  have hread := h.isRead
  rw [hnil] at hread
  exact absurd hread (by decide)

/-- Whether a line that begins with a character is trimmed in front and is read. -/
def opensLine (c : Char) : Bool :=
  !isBlank c && c.toLower != '@' && c != '\x27' && c != '/'

/-- It is enough to look at what stands first and last. -/
lemma stands_of_ends {line : List Char} (hfree : BreakFree line)
    (hfirst : line.head?.any opensLine = true)
    (hlast : line.getLast?.any (fun c => !isBlank c) = true) : Stands line := by
  cases line with
  | nil => simp at hfirst
  | cons c cs =>
      simp only [List.head?_cons, Option.any_some, opensLine, Bool.and_eq_true, Bool.not_eq_true',
        bne_iff_ne, ne_eq] at hfirst
      obtain ⟨⟨⟨hblank, hat⟩, hquote⟩, hslash⟩ := hfirst
      refine ⟨hfree, trim_eq_self (by simpa using hblank) fun c' hc' => ?_, ?_⟩
      · rw [Option.mem_def.mp hc'] at hlast
        simpa using hlast
      · simp [isRead, startsWithWord, List.isPrefixOf_cons_cons, Ne.symm hat, Ne.symm hquote,
          Ne.symm hslash]

/-- **A text of lines that stand for themselves is prepared into these lines.** -/
theorem prepareLines_intercalate {lines : List (List Char)} (hne : lines ≠ [])
    (h : ∀ l ∈ lines, Stands l) : prepareLines (['\n'].intercalate lines) = lines := by
  rw [prepareLines, splitLines_intercalate hne fun l hl => (h l hl).breakFree]
  have htrim : lines.map trim = lines.map id :=
    List.map_congr_left fun l hl => (h l hl).trimmed
  rw [htrim, List.map_id]
  exact List.filter_eq_self.mpr fun l hl => (h l hl).isRead

lemma Stands.prepareLines_eq {line : List Char} (h : Stands line) : prepareLines line = [line] := by
  have hone := prepareLines_intercalate (List.cons_ne_nil line []) (by simpa using h)
  simpa [List.intercalate] using hone

end ActivityFlow.Diagram
