import ActivityFlow.Proofs.Diagram.ArrowLine
import ActivityFlow.Proofs.Diagram.Naming
import Mathlib.Data.List.Induction

/-!
# Lists of edges

A graph can be written as a list of edges, one arrow between two words on each line.  Such a text
reads back as it was written: the transitions are the edges in their order, and the nodes are the
words in the order in which they first appear, each under itself as id and label.  Nothing begins
the graph, since no edge comes from the initial marker.

* `Edge` — an edge between two words, long or short, with a condition or without one.
* `resolve_word` — in a table of words, a word is found or put at the end.
* `step_edge` — an edge declares its two words and adds one transition.
* **`read_edges`** — the definition of a list of edges.
-/

namespace ActivityFlow.Diagram

open ActivityFlow.Text

/-! ## Edges -/

/-- **An edge between two words.**  Its line may not begin with a keyword that takes what follows it
    as it comes, and an edge from a word to itself has a condition. -/
structure Edge where
  source : Word
  target : Word
  condition : Option Word
  sign : ArrowSign
  forward : sign.reversed = false
  notSkinparam : source.chars.map Char.toLower ≠ "skinparam".toList
  notNote : source.chars.map Char.toLower ≠ "note".toList
  proper : source.text = target.text → condition ≠ none

namespace Edge

/-- The line of an edge. -/
def line (e : Edge) : List Char :=
  arrowLine e.source e.sign e.target e.condition

/-- The words of an edge, the source first. -/
def words (e : Edge) : List String :=
  [e.source.text, e.target.text]

/-- The transition that stands for an edge in its place. -/
def transition (place : ℕ) (e : Edge) : Transition :=
  ⟨"t_" ++ toString place, e.source.text, e.target.text, e.condition.map Word.text⟩

end Edge

/-- The text of a list of edges. -/
def edgesText (edges : List Edge) : String :=
  textOf (edges.map Edge.line)

/-- The node that stands for a word. -/
def wordNode (w : String) : Node :=
  ⟨w, some w, none, none⟩

/-! ## Tables of words -/

/-- The entry of a declared word. -/
def wordEntry (w : String) : Entry :=
  ⟨wordNode w, .declared⟩

/-- The table of words in the order in which they first appear. -/
def wordTable (words : List String) : List Entry :=
  words.eraseDups.map wordEntry

lemma wordTable_concat_of_mem {words : List String} {w : String} (h : w ∈ words) :
    wordTable (words ++ [w]) = wordTable words := by
  have hnone : [w].removeAll words = [] := by
    simp [List.removeAll, h]
  rw [wordTable, List.eraseDups_append, hnone, List.eraseDups_nil, List.append_nil, wordTable]

lemma wordTable_concat_of_not_mem {words : List String} {w : String} (h : w ∉ words) :
    wordTable (words ++ [w]) = wordTable words ++ [wordEntry w] := by
  have hone : [w].removeAll words = [w] := by
    simp [List.removeAll, h]
  rw [wordTable, List.eraseDups_append, hone, List.map_append, wordTable]
  rfl

lemma labelled_wordTable {words : List String} {id label : String} :
    Labelled (wordTable words) id label ↔ label ∈ words ∧ id = label := by
  constructor
  · rintro ⟨e, he, rfl, -, hlabel⟩
    obtain ⟨w, hw, rfl⟩ := List.mem_map.mp he
    obtain rfl : w = label := Option.some.inj hlabel
    exact ⟨List.mem_eraseDups.mp hw, rfl⟩
  · rintro ⟨hmem, rfl⟩
    exact ⟨wordEntry id, List.mem_map_of_mem (List.mem_eraseDups.mpr hmem), rfl, rfl, rfl⟩

namespace Draft

variable {d : Draft} {words : List String}

/-- **In a table of words** a word is found, or it is put at the end. -/
lemma resolve_word (hentries : d.entries = wordTable words) (w : Word) :
    d.resolve w.text = ({ d with entries := wordTable (words ++ [w.text]) }, w.text) := by
  simp only [resolve, w.strip_text, if_neg w.text_ne_startMarker, w.normalizeLabel_text]
  cases hfind : d.findDeclared? w.text with
  | some id =>
      have hlabelled := labelled_of_findDeclared? hfind
      rw [hentries, labelled_wordTable] at hlabelled
      obtain ⟨hmem, rfl⟩ := hlabelled
      rw [wordTable_concat_of_mem hmem, ← hentries]
  | none =>
      have hnew : w.text ∉ words := by
        intro hmem
        refine not_labelled_of_findDeclared? hfind w.text ?_
        rw [hentries, labelled_wordTable]
        exact ⟨hmem, rfl⟩
      have hfree : w.text ∉ d.ids := by
        rw [ids, hentries, wordTable, List.map_map]
        simpa [Function.comp_def, wordEntry, wordNode] using hnew
      have hne : w.text.isEmpty = false := by
        simpa [String.isEmpty_iff] using w.text_ne_empty
      simp only [hne, List.contains_eq_mem, hfree, decide_false, Bool.not_false, Bool.and_self,
        if_true]
      rw [wordTable_concat_of_not_mem hnew, ← hentries]
      rfl

/-- An edge is a link of its own: it either leads elsewhere or says when it is taken. -/
lemma linkOf_edge (count : ℕ) (e : Edge) :
    linkOf count (some e.source.text) e.target.text (e.condition.map Word.text)
      = [e.transition count] := by
  refine linkOf_eq_singleton count fun hself => ?_
  cases hcondition : e.condition with
  | none => exact absurd hcondition (e.proper hself)
  | some w => exact w.blank_text

/-- **The line of an edge** declares the words of the edge and adds its transition. -/
theorem step_edge (hblock : d.block = .none) (hentries : d.entries = wordTable words) (e : Edge) :
    d.step e.line
      = { d with
          entries := wordTable (words ++ e.words),
          transitions := d.transitions ++ [e.transition d.transitions.length],
          tail := some e.target.text, pending := none, declared := some e.target.text } := by
  have hread := read_arrowLine d.ifOpen e.notSkinparam e.notNote e.forward e.target e.condition
  have hstep : d.step e.line
      = d.addArrow e.source.text e.target.text (e.condition.map Word.text) := by
    simp only [step_of_none hblock, takeLine, Edge.line, hread]
  have hsource := resolve_word hentries e.source
  have htarget : resolve { d with entries := wordTable (words ++ [e.source.text]) } e.target.text
      = ({ d with entries := wordTable (words ++ [e.source.text] ++ [e.target.text]) },
        e.target.text) := resolve_word rfl e.target
  have hne : e.source.text.isEmpty = false := by
    simpa [String.isEmpty_iff] using e.source.text_ne_empty
  simp only [hstep, addArrow, if_neg e.source.text_ne_startMarker, hne, Bool.false_eq_true,
    if_false, hsource, htarget, link_eq, linkOf_edge]
  rw [List.append_assoc]
  rfl

/-- **Behind any edges** the draft holds their words and their transitions, and nothing is open. -/
theorem foldl_edges (edges : List Edge) : ∃ tail declared,
    (edges.map Edge.line).foldl step {}
      = { entries := wordTable (edges.flatMap Edge.words),
          transitions := edges.mapIdx Edge.transition, tail := tail, declared := declared } := by
  induction edges using List.reverseRecOn with
  | nil => exact ⟨none, none, rfl⟩
  | append_singleton edges e ih =>
      obtain ⟨tail, declared, hbefore⟩ := ih
      refine ⟨some e.target.text, some e.target.text, ?_⟩
      rw [List.map_append, List.foldl_append, hbefore, List.map_cons, List.map_nil, List.foldl_cons,
        List.foldl_nil, step_edge rfl rfl e, List.flatMap_append, List.mapIdx_concat]
      simp

end Draft

/-! ## The definition -/

/-- **A list of edges is read back as it was written.** -/
theorem read_edges {edges : List Edge} (hne : edges ≠ []) (id name : Option String)
    (supply : IdSupply) : ∃ reading supply',
      read (some (edgesText edges)) id name supply = (.ok reading, supply') ∧
        reading.definition.nodes = (edges.flatMap Edge.words).eraseDups.map wordNode ∧
        reading.definition.transitions = edges.mapIdx Edge.transition ∧
        reading.definition.startPoints = [] := by
  have hstands : ∀ l ∈ edges.map Edge.line, Stands l := by
    intro l hl
    obtain ⟨e, -, rfl⟩ := List.mem_map.mp hl
    exact stands_arrowLine e.source e.sign e.target e.condition
  have hblank : blank (edgesText edges) = false := by
    obtain ⟨e, he⟩ := List.exists_mem_of_ne_nil edges hne
    have hline : e.line ∈ edges.map Edge.line := List.mem_map_of_mem he
    exact blank_textOf ⟨e.line, hline, (hstands e.line hline).tight.not_blank⟩
  obtain ⟨usedId, usedName, supply', hread⟩ := read_of_not_blank hblank id name supply
  obtain ⟨tail, declared, hfold⟩ := Draft.foldl_edges edges
  have hdraft : Draft.ofLines (prepareLines (edgesText edges).toList)
      = { entries := wordTable (edges.flatMap Edge.words),
          transitions := edges.mapIdx Edge.transition, tail := tail, declared := declared } := by
    have hlines : edges.map Edge.line ≠ [] := by simpa using hne
    rw [edgesText, textOf, String.toList_ofList, prepareLines_intercalate hlines hstands,
      Draft.ofLines, hfold]
    rfl
  refine ⟨_, supply', hread, ?_, ?_, ?_⟩
  · simp [readAs, hdraft, Draft.toDefinition, wordTable, wordEntry, Function.comp_def]
  · simp [readAs, hdraft, Draft.toDefinition]
  · simp [readAs, hdraft, Draft.toDefinition]

/-- Edges between keywords: the words come back in the order in which they first appear, and the
    edge from `end` to itself is kept for its condition. -/
def keywordEdges : List Edge :=
  [⟨⟨"end".toList, by decide, by decide⟩, ⟨"repeat".toList, by decide, by decide⟩,
      some ⟨"else".toList, by decide, by decide⟩, .longRight, rfl, by decide, by decide, by decide⟩,
    ⟨⟨"if".toList, by decide, by decide⟩, ⟨"end".toList, by decide, by decide⟩, none, .right, rfl,
      by decide, by decide, by decide⟩,
    ⟨⟨"end".toList, by decide, by decide⟩, ⟨"end".toList, by decide, by decide⟩,
      some ⟨"note".toList, by decide, by decide⟩, .right, rfl, by decide, by decide, by decide⟩]

theorem read_edges_keywords : keywordEdges ≠ [] ∧ ∃ reading supply',
    read (some "end --> repeat : else\nif -> end\nend -> end : note") (some "w") none {}
      = (.ok reading, supply') ∧
    reading.definition.nodes = ["end", "repeat", "if"].map wordNode ∧
    reading.definition.transitions = [⟨"t_0", "end", "repeat", some "else"⟩,
      ⟨"t_1", "if", "end", none⟩, ⟨"t_2", "end", "end", some "note"⟩] ∧
    reading.definition.startPoints = [] := by
  have htext : edgesText keywordEdges
      = "end --> repeat : else\nif -> end\nend -> end : note" := by decide +kernel
  have hnodes : (keywordEdges.flatMap Edge.words).eraseDups.map wordNode
      = ["end", "repeat", "if"].map wordNode := by decide +kernel
  have htransitions : keywordEdges.mapIdx Edge.transition = [⟨"t_0", "end", "repeat", some "else"⟩,
      ⟨"t_1", "if", "end", none⟩, ⟨"t_2", "end", "end", some "note"⟩] := by decide +kernel
  rw [← htext, ← hnodes, ← htransitions]
  exact ⟨List.cons_ne_nil _ _, read_edges (List.cons_ne_nil _ _) (some "w") none {}⟩

end ActivityFlow.Diagram
