import ActivityFlow.Proofs.Diagram.Reading
import ActivityFlow.Proofs.Diagram.View

/-!
# Lines beside the graph

Some lines of a diagram say nothing about its graph: style blocks, settings, lines that are skipped,
and notes that name no node.  They can stand anywhere outside of a block.  Where such a piece is
written into a text, the text reads as it did without it.

* `Remark` — pieces that add to the remarks of the diagram and change nothing else.
* `UnnamedNote` — notes on the node declared last.
* `recorded_iff_skips` — the lines that are skipped as a whole: a stray `repeat while`, an arrow or
  an action without a name, and lines without any form, broken notes among them.  They leave a
  report and do nothing else (`takeLine_of_skips`).
* **`read_pastAside`** — with the piece and without it, a text comes to the same graph.  A remark
  does not even touch the notes of the nodes.
-/

namespace ActivityFlow.Diagram

open ActivityFlow.Text

namespace Draft

variable {d : Draft}

/-! ## What leaves the remarks alone -/

lemma remarks_resolved {d' : Draft} {token id : String} (h : d.resolve token = (d', id)) :
    d'.remarks = d.remarks := by
  have hkept := remarks_of_under (fun d => (d.resolve token).1)
    (fun _ _ => by rw [resolve_under]) d
  rwa [h] at hkept

lemma remarks_annotateTarget (d : Draft) (target : Option String) (body : String) :
    (d.annotateTarget target body).remarks = d.remarks := by
  cases target with
  | some token =>
      rcases hresolve : d.resolve token with ⟨d', id⟩
      have hkept := remarks_resolved hresolve
      simp only [annotateTarget, hresolve]
      exact hkept
  | none =>
      simp only [annotateTarget]
      split <;> rfl

lemma remarks_act (d : Draft) (label : String) (stereotype : Option String) :
    (d.act (.labelled label stereotype)).remarks = d.remarks := by
  rcases hresolve : d.resolve label with ⟨d', id⟩
  have hkept := remarks_resolved hresolve
  have hdeclared : ((d'.attach id).declare id).remarks = d.remarks := by
    rw [attach_eq]
    exact hkept
  simp only [act, hresolve]
  cases stereotype with
  | none => exact hdeclared
  | some name => exact hdeclared

/-! ## Lines that are skipped -/

/-- The forms of lines that are skipped as a whole where they stand. -/
def Skips (d : Draft) : Line → Prop
  | .closeLoop _ => d.loopOpen = false
  | .looseArrow _ => True
  | .action (.empty _) => True
  | .unknown => True
  | _ => False

/-- A line that is skipped leaves a report and does nothing else. -/
lemma takeLine_of_skips {line : List Char} (h : d.Skips (Line.read d.ifOpen line)) :
    ∃ report, d.takeLine line = d.skip report := by
  simp only [takeLine]
  generalize Line.read d.ifOpen line = form at h ⊢
  cases form with
  | closeLoop condition =>
      have hclosed : d.loopOpen = false := h
      simp only [hclosed, Bool.false_eq_true, if_false]
      exact ⟨_, rfl⟩
  | looseArrow report => exact ⟨report, rfl⟩
  | action text =>
      cases text with
      | empty written => exact ⟨written, rfl⟩
      | labelled label stereotype => exact absurd h id
  | unknown => exact ⟨_, rfl⟩
  | _ => exact absurd h id

/-- A line of another form leaves no report, unless it opens a loop. -/
lemma skipped_takeLine {line : List Char} (h : ¬ d.Skips (Line.read d.ifOpen line))
    (hwhole : ∀ first, Line.read d.ifOpen line ≠ .openLoop first) :
    (d.takeLine line).remarks.skipped = d.remarks.skipped := by
  have hkept : ∀ {d' : Draft}, d'.remarks = d.remarks → d'.remarks.skipped = d.remarks.skipped :=
    fun h => congrArg Remarks.skipped h
  simp only [takeLine]
  generalize Line.read d.ifOpen line = form at h hwhole ⊢
  cases form with
  | style ends => cases ends <;> rfl
  | skinparam name value => rfl
  | pragma name value => rfl
  | shortNote body => exact hkept (remarks_annotateTarget d none body)
  | inlineNote target body => exact hkept (remarks_annotateTarget d (some target) body)
  | blockNote target => rfl
  | start => exact hkept (remarks_of_under begin (fun _ _ => begin_under) d)
  | stop => exact hkept (remarks_of_under halt (fun _ _ => halt_under) d)
  | openIf condition =>
      exact hkept (remarks_of_under (openIf · condition) (fun _ _ => openIf_under condition) d)
  | nextBranch condition =>
      exact hkept (remarks_of_under (nextBranch · condition)
        (fun _ _ => nextBranch_under condition) d)
  | closeIf => exact hkept (remarks_of_under closeIf (fun _ _ => closeIf_under) d)
  | closeLoop condition =>
      have hopen : d.loopOpen = true := by
        simpa [Skips] using h
      simp only [hopen, if_true]
      exact hkept (remarks_of_under (endLoop · condition) (fun _ _ => endLoop_under condition) d)
  | openLoop first => exact absurd rfl (hwhole first)
  | arrow source target condition =>
      exact hkept (remarks_of_under (addArrow · source target condition)
        (fun _ _ => addArrow_under source target condition) d)
  | looseArrow report => exact absurd trivial h
  | action text =>
      cases text with
      | empty written => exact absurd trivial h
      | labelled label stereotype => exact hkept (remarks_act d label stereotype)
  | unknown => exact absurd trivial h

/-- **A line that opens no loop leaves a report just if it is of a form that is skipped.** -/
theorem recorded_iff_skips (hblock : d.block = .none) {line : List Char}
    (hwhole : ∀ first, Line.read d.ifOpen line ≠ .openLoop first) :
    (d.step line).remarks.skipped ≠ d.remarks.skipped ↔ d.Skips (Line.read d.ifOpen line) := by
  rw [step_of_none hblock]
  constructor
  · intro hrecorded
    by_contra hskips
    exact hrecorded (skipped_takeLine hskips hwhole)
  · intro hskips
    obtain ⟨report, hskip⟩ := takeLine_of_skips hskips
    rw [hskip]
    simp [skip]

/-! ## Pieces -/

/-- **Pieces that add to the remarks of a diagram** where they stand: a complete style block, on one
    line or on several, a setting, or a line that is skipped as a whole. -/
inductive Remark (d : Draft) : List (List Char) → Prop
  | styleLine {line : List Char} (reads : Line.read d.ifOpen line = .style true) : Remark d [line]
  | styleBlock {first last : List Char} {lines : List (List Char)}
      (reads : Line.read d.ifOpen first = .style false)
      (inside : ∀ l ∈ lines, isStyleEnd l = false) (ends : isStyleEnd last = true) :
      Remark d (first :: (lines ++ [last]))
  | skinparam {line : List Char} {name value : String}
      (reads : Line.read d.ifOpen line = .skinparam name value) : Remark d [line]
  | pragma {line : List Char} {name : String} {value : Option String}
      (reads : Line.read d.ifOpen line = .pragma name value) : Remark d [line]
  /-- The line leaves a report.  The first action of a loop can leave one too, but then the line has
      opened the loop. -/
  | skipped {line : List Char} (recorded : (d.step line).remarks.skipped ≠ d.remarks.skipped)
      (whole : ∀ first, Line.read d.ifOpen line ≠ .openLoop first) : Remark d [line]

/-- **Notes that name no node**, on one line, or on several with a line that ends them. -/
inductive UnnamedNote (d : Draft) : List (List Char) → Prop
  | short {line : List Char} {body : String} (reads : Line.read d.ifOpen line = .shortNote body) :
      UnnamedNote d [line]
  | block {first last : List Char} {lines : List (List Char)}
      (reads : Line.read d.ifOpen first = .blockNote none)
      (inside : ∀ l ∈ lines, isNoteEnd l = false) (ends : isNoteEnd last = true) :
      UnnamedNote d (first :: (lines ++ [last]))

variable {piece : List (List Char)}

/-- Behind a remark a draft looks as before. -/
theorem Remark.under_foldl (h : Remark d piece) (hblock : d.block = .none) (remarks : Remarks) :
    (piece.foldl step d).under (.whole remarks) = d.under (.whole remarks) := by
  cases h with
  | styleLine reads =>
      rw [List.foldl_cons, List.foldl_nil, step_of_none hblock, takeLine, reads]
      rfl
  | styleBlock reads inside ends =>
      rw [foldl_styleBlock hblock reads inside ends]
      rfl
  | skinparam reads =>
      rw [List.foldl_cons, List.foldl_nil, step_of_none hblock, takeLine, reads]
      rfl
  | pragma reads =>
      rw [List.foldl_cons, List.foldl_nil, step_of_none hblock, takeLine, reads]
      rfl
  | skipped recorded whole =>
      obtain ⟨report, hskip⟩ := takeLine_of_skips ((recorded_iff_skips hblock whole).mp recorded)
      rw [List.foldl_cons, List.foldl_nil, step_of_none hblock, hskip]
      rfl

/-- Ids and labels do not tell of a note. -/
lemma annotateTarget_none_under (body : String) (remarks : Remarks) :
    (d.annotateTarget none body).under (.names remarks) = d.under (.names remarks) := by
  simp only [annotateTarget]
  split
  · simp only [annotate, modifyNode, under, List.map_map, Draft.mk.injEq, and_true]
    refine List.map_congr_left fun e _ => ?_
    simp only [Function.comp_apply]
    split <;> rfl
  · rfl

/-- Behind a note that names no node a draft has the ids and labels it had. -/
theorem UnnamedNote.under_foldl (h : UnnamedNote d piece) (hblock : d.block = .none)
    (remarks : Remarks) :
    (piece.foldl step d).under (.names remarks) = d.under (.names remarks) := by
  cases h with
  | short reads =>
      rw [List.foldl_cons, List.foldl_nil, step_of_none hblock, takeLine, reads]
      exact annotateTarget_none_under _ remarks
  | block reads inside ends =>
      rw [foldl_blockNote hblock reads inside ends]
      exact annotateTarget_none_under _ remarks

end Draft

/-! ## Whole texts -/

/-- The draft behind the lines of a text. -/
def draftBehind (lines : List (List Char)) : Draft :=
  (lines.flatMap prepareLines).foldl Draft.step {}

lemma ofLines_textOf (lines : List (List Char)) :
    Draft.ofLines (prepareLines (textOf lines).toList) = (draftBehind lines).finish := by
  rw [prepareLines_textOf]
  rfl

/-- A piece behind which a draft looks as before leaves no trace in what is seen at the end. -/
theorem under_ofLines_insert {v : View} {before piece after : List (List Char)}
    (h : ((piece.flatMap prepareLines).foldl Draft.step (draftBehind before)).under v
      = (draftBehind before).under v) :
    (draftBehind (before ++ (piece ++ after))).finish.under v
      = (draftBehind (before ++ after)).finish.under v := by
  refine Draft.finish_congr ?_
  simp only [draftBehind, List.flatMap_append, List.foldl_append] at h ⊢
  exact Draft.foldl_congr h _

/-- Two definitions have the same nodes, but for what notes say, and the same transitions and start
    points. -/
structure SameGraph (a b : Definition) : Prop where
  nodes : a.nodes.map (fun n => (n.id, n.label)) = b.nodes.map (fun n => (n.id, n.label))
  transitions : a.transitions = b.transitions
  startPoints : a.startPoints = b.startPoints

lemma sameGraph_of_under {d d' : Draft} {remarks : Remarks}
    (h : d.under (.names remarks) = d'.under (.names remarks)) (id name : String) :
    SameGraph (d.toDefinition id name) (d'.toDefinition id name) := by
  have hentries := congrArg (fun d => d.entries.map fun e => (e.node.id, e.node.label)) h
  have htransitions := congrArg Draft.transitions h
  have hstarts := congrArg Draft.startPoints h
  refine ⟨?_, htransitions, hstarts⟩
  simpa [Draft.under, View.names, Draft.toDefinition, Function.comp_def] using hentries

lemma toDefinition_eq_of_under {d d' : Draft} {remarks : Remarks}
    (h : d.under (.whole remarks) = d'.under (.whole remarks)) (id name : String) :
    d.toDefinition id name = d'.toDefinition id name := by
  have hentries := congrArg Draft.entries h
  have htransitions := congrArg Draft.transitions h
  have hstarts := congrArg Draft.startPoints h
  simp only [Draft.under, View.whole, id_eq, List.map_id'] at hentries htransitions hstarts
  rw [Draft.toDefinition, Draft.toDefinition, hentries, htransitions, hstarts]

/-- **Lines beside the graph can be left out.**  The piece stands outside of a block, and the lines
    around it are not all blank: with it and without it, the text is read under the same id and name
    and comes to the same graph.  For a remark the definitions are equal. -/
theorem read_pastAside {before piece after : List (List Char)}
    (houtside : (draftBehind before).block = .none)
    (hpiece : (draftBehind before).Remark (piece.flatMap prepareLines) ∨
      (draftBehind before).UnnamedNote (piece.flatMap prepareLines))
    (hsome : ∃ l ∈ before ++ after, isBlankText l = false) (id name : Option String)
    (supply : IdSupply) : ∃ reading without supply',
      read (some (textOf (before ++ (piece ++ after)))) id name supply = (.ok reading, supply') ∧
        read (some (textOf (before ++ after))) id name supply = (.ok without, supply') ∧
        SameGraph reading.definition without.definition ∧
        ((draftBehind before).Remark (piece.flatMap prepareLines) →
          reading.definition = without.definition) := by
  obtain ⟨usedId, usedName, supply', hread⟩ := exists_read_eq id name supply
  have hmore : ∃ l ∈ before ++ (piece ++ after), isBlankText l = false := by
    obtain ⟨l, hl, hblank⟩ := hsome
    refine ⟨l, ?_, hblank⟩
    rcases List.mem_append.mp hl with hl | hl
    · exact List.mem_append_left _ hl
    · exact List.mem_append_right _ (List.mem_append_right _ hl)
  have hequal : (draftBehind before).Remark (piece.flatMap prepareLines) →
      (readAs (textOf (before ++ (piece ++ after))).toList usedId usedName).definition
        = (readAs (textOf (before ++ after)).toList usedId usedName).definition := by
    intro hremark
    simp only [readAs, ofLines_textOf]
    exact toDefinition_eq_of_under
      (under_ofLines_insert (hremark.under_foldl houtside {})) usedId usedName
  refine ⟨_, _, supply', hread _ (blank_textOf hmore), hread _ (blank_textOf hsome), ?_, hequal⟩
  rcases hpiece with hremark | hnote
  · rw [hequal hremark]
    exact ⟨rfl, rfl, rfl⟩
  · simp only [readAs, ofLines_textOf]
    exact sameGraph_of_under (under_ofLines_insert (hnote.under_foldl houtside {})) usedId usedName

/-- A note inside a branch, with lines that would begin a style block, draw an arrow and close the
    branch outside of it. -/
theorem read_pastAside_note :
    let before := ["if (a) then".toList, ":A;".toList]
    let piece := ["note right".toList, "<style>".toList, " A --> B".toList, "endif".toList,
      " end note".toList]
    let after := ["else".toList, ":B;".toList]
    ((draftBehind before).block = .none ∧
      (draftBehind before).UnnamedNote (piece.flatMap prepareLines) ∧
      ∃ l ∈ before ++ after, isBlankText l = false) ∧
    ∃ reading without supply',
      read (some (textOf (before ++ (piece ++ after)))) (some "w") none {}
          = (.ok reading, supply') ∧
        read (some (textOf (before ++ after))) (some "w") none {} = (.ok without, supply') ∧
        SameGraph reading.definition without.definition ∧
        ((draftBehind before).Remark (piece.flatMap prepareLines) →
          reading.definition = without.definition) := by
  intro before piece after
  have houtside : (draftBehind before).block = .none := by
    decide +kernel
  have hlines : piece.flatMap prepareLines
      = "note right".toList :: (["<style>".toList, "A --> B".toList, "endif".toList]
          ++ ["end note".toList]) := by
    decide +kernel
  have hnote : (draftBehind before).UnnamedNote (piece.flatMap prepareLines) := by
    rw [hlines]
    exact .block (by decide +kernel) (by decide +kernel) (by decide +kernel)
  have hsome : ∃ l ∈ before ++ after, isBlankText l = false :=
    ⟨":A;".toList, by decide, by decide⟩
  exact ⟨⟨houtside, hnote, hsome⟩,
    read_pastAside houtside (Or.inr hnote) hsome (some "w") none {}⟩

end ActivityFlow.Diagram
