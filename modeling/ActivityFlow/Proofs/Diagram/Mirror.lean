import ActivityFlow.Proofs.Diagram.Aside
import ActivityFlow.Proofs.Diagram.ArrowLine
import ActivityFlow.Proofs.Diagram.Balance
import ActivityFlow.Proofs.Diagram.Naming

/-!
# Reversed arrows

An arrow can be written from its target to its source.  The two sides of the sign are swapped before
anything else is looked at, and the label of an arrow is looked for behind its target.  So a
reversed arrow without a label is the mirror image of a forward one, wherever it stands.  With a
label behind its source it is not: the label stays with the source and becomes a part of its name,
and the transition has no condition.

* `read_arrowLine_reversed` — a reversed arrow leads from all that stands behind its sign.
* `Draft.step_forward`, `Draft.step_backward` — what the line does, written in either direction.
* **`read_mirrored`** — the two ways of writing come to the same definition just if there is no
  label.
-/

namespace ActivityFlow.Diagram

open ActivityFlow.Text

/-! ## Lines -/

/-- A word that may stand at the front of a line: no keyword that takes what follows it as it
    comes. -/
structure Word.Leads (w : Word) : Prop where
  notSkinparam : w.chars.map Char.toLower ≠ "skinparam".toList
  notNote : w.chars.map Char.toLower ≠ "note".toList

/-- A word with a label behind it. -/
def Word.labelled (w : Word) (label : Option Word) : String :=
  String.ofList (w.chars ++ labelPart label)

lemma Word.labelled_none (w : Word) : w.labelled none = w.text := by
  rw [labelled, labelPart, List.append_nil, text]

section Labelled

variable (w label : Word)

lemma Word.labelled_ne_empty : w.labelled (some label) ≠ "" := by
  intro heq
  have hlist := congrArg String.toList heq
  simp [labelled, labelPart] at hlist

lemma Word.labelled_ne_startMarker : w.labelled (some label) ≠ startMarker := by
  intro heq
  have hlist := congrArg String.toList heq
  obtain ⟨c, cs, hchars, hc⟩ := w.exists_cons
  rw [labelled, String.toList_ofList, hchars] at hlist
  exact ne_of_isIdChar hc (by decide) (List.cons.inj hlist).1

/-- A word with a label behind it names no node that a word names: the colon stays in its name. -/
lemma Word.normalizeLabel_labelled_ne (target : Word) :
    normalizeLabel (w.labelled (some label)) ≠ normalizeLabel target.text := by
  have hself : normalizeLabel (w.labelled (some label)) = w.labelled (some label) := by
    refine normalizeLabel_of_tight (w.tight_labelPart (some label)) ?_ ?_
    · obtain ⟨c, cs, hchars, hc⟩ := w.exists_cons
      have hcolon : c ≠ ':' := ne_of_isIdChar hc (by decide)
      simpa [hchars] using hcolon
    · intro hlast
      rw [labelPart, ← List.append_assoc, List.getLast?_append_of_ne_nil _ label.nonempty] at hlast
      exact label.not_mem_chars (by decide) (List.mem_of_getLast? hlast)
  rw [hself, target.normalizeLabel_text]
  intro heq
  have hlist := congrArg String.toList heq
  rw [labelled, String.toList_ofList, target.toList_text] at hlist
  refine target.not_mem_chars (x := ':') (by decide) ?_
  rw [← hlist]
  simp [labelPart]

end Labelled

/-- **A reversed arrow between words leads from all that stands behind its sign**, without a
    condition. -/
theorem read_arrowLine_reversed (ifOpen : Bool) {target : Word} (htarget : target.Leads)
    {sign : ArrowSign} (hsign : sign.reversed = true) (source : Word) (label : Option Word) :
    Line.read ifOpen (arrowLine target sign source label)
      = .arrow (source.labelled label) target.text none := by
  have hplain : splitLabel target.chars = (target.chars, none) := by
    simpa [labelPart] using target.splitLabel_labelPart none
  rw [arrowLine, target.read_of_arrow ifOpen sign htarget.notSkinparam htarget.notNote
    (skipBlank_labelPart source label)]
  simp [readArrow, hsign, target.arrowEnd_chars, source.arrowEnd_labelPart, hplain,
    target.nonempty, Word.labelled, Word.text]

namespace Draft

variable {d : Draft} {source target : Word} {forward backward : ArrowSign}

lemma step_forward (hblock : d.block = .none) (hsource : source.Leads)
    (hforward : forward.reversed = false) (target : Word) (label : Option Word) :
    d.step (arrowLine source forward target label)
      = d.addArrow source.text target.text (label.map Word.text) := by
  have hread := read_arrowLine d.ifOpen hsource.notSkinparam hsource.notNote hforward target label
  simp only [step_of_none hblock, takeLine, hread]

lemma step_backward (hblock : d.block = .none) (htarget : target.Leads)
    (hbackward : backward.reversed = true) (source : Word) (label : Option Word) :
    d.step (arrowLine target backward source label)
      = d.addArrow (source.labelled label) target.text none := by
  have hread := read_arrowLine_reversed d.ifOpen htarget hbackward source label
  simp only [step_of_none hblock, takeLine, hread]

/-! ## What an arrow writes -/

/-- **An arrow between tokens is written under its condition**, if the tokens have different labels
    or the condition says something. -/
lemma exists_written_addArrow (hsound : Sound d) (hcatalogued : Catalogued d.entries)
    {source : String} (hmarker : source ≠ startMarker) (hempty : source ≠ "") (target : String)
    {condition : Option String}
    (hproper : normalizeLabel source = normalizeLabel target → isBlankCondition condition = false) :
    ∃ t, t.condition = condition ∧
      d.transitions ++ [t] <+: (d.addArrow source target condition).transitions := by
  have hnodup := (hsound.addArrow source target condition).graph.nodup
  have hlaw := upheld_catalogued.addArrow hcatalogued source target condition
  have htells : Tells (Names (d.addArrow source target condition).entries)
      (d.addArrow source target condition).entries :=
    fun _ _ hlabelled => hlaw.names hnodup hlabelled
  obtain ⟨declared, id, ⟨new, counter, rfl, -⟩, hto, hacts⟩ :=
    arrowActsOn_addArrow hcatalogued htells
  rw [if_neg hmarker, if_neg hempty] at hacts
  obtain ⟨from?, hfrom, hacts⟩ := hacts
  -- tokens that name one node have one label
  have hsame : from? = id → normalizeLabel source = normalizeLabel target := by
    rintro rfl
    obtain ⟨e, -, -, -, hlabel, honly⟩ := hto
    obtain ⟨e', he', hid', -, hlabel', -⟩ := hfrom
    rw [honly e' he' (Or.inl hid')] at hlabel'
    exact Option.some.inj (hlabel'.symm.trans hlabel)
  have hlink := linkOf_eq_singleton d.transitions.length fun hself => hproper (hsame hself)
  refine ⟨⟨"t_" ++ toString d.transitions.length, from?, id, condition⟩, rfl, ?_⟩
  simp only [hacts, link_eq, hlink]
  exact List.prefix_rfl

/-- Two drafts that wrote different transitions in the same place end with different ones. -/
lemma transitions_ne_of_prefix {ts : List Transition} {t t' : Transition} {d d' : Draft}
    (hne : t ≠ t') (h : ts ++ [t] <+: d.transitions) (h' : ts ++ [t'] <+: d'.transitions) :
    d.transitions ≠ d'.transitions := by
  intro heq
  rw [← heq] at h'
  have hsame : ts ++ [t] = ts ++ [t'] :=
    (List.prefix_of_prefix_length_le h h' (by simp)).eq_of_length (by simp)
  exact hne (List.singleton_inj.mp (List.append_cancel_left hsame))

end Draft

/-! ## Whole texts -/

/-- Behind a line that stands for itself, the lines after it are read from what the line did. -/
lemma draftBehind_append_cons {line : List Char} (hstands : Stands line)
    (before after : List (List Char)) : draftBehind (before ++ line :: after)
      = (after.flatMap prepareLines).foldl Draft.step ((draftBehind before).step line) := by
  simp [draftBehind, List.flatMap_append, hstands.prepareLines_eq]

/-- A text with such a line in it is not blank. -/
lemma blank_textOf_of_stands {line : List Char} (hstands : Stands line)
    (before after : List (List Char)) : blank (textOf (before ++ line :: after)) = false :=
  blank_textOf ⟨line, by simp, hstands.tight.not_blank⟩

/-- **A reversed arrow is the mirror image of a forward one, just if it has no label.**  The arrow
    stands outside of a block, with any lines before it and behind it, and its words may stand at
    the front of a line.  Both texts are read under the same id and name. -/
theorem read_mirrored {before : List (List Char)} (houtside : (draftBehind before).block = .none)
    {source target : Word} (hsource : source.Leads) (htarget : target.Leads)
    {forward backward : ArrowSign} (hforward : forward.reversed = false)
    (hbackward : backward.reversed = true) (label : Option Word) (after : List (List Char))
    (id name : Option String) (supply : IdSupply) : ∃ reading mirrored supply',
      read (some (textOf (before ++ arrowLine source forward target label :: after))) id name supply
          = (.ok reading, supply') ∧
        read (some (textOf (before ++ arrowLine target backward source label :: after))) id name
            supply = (.ok mirrored, supply') ∧
        (label = none → mirrored = reading) ∧
        (mirrored.definition = reading.definition ↔ label = none) := by
  obtain ⟨usedId, usedName, supply', hread⟩ := exists_read_eq id name supply
  have hforwardLine := stands_arrowLine source forward target label
  have hbackwardLine := stands_arrowLine target backward source label
  refine ⟨_, _, supply', hread _ (blank_textOf_of_stands hforwardLine before after),
    hread _ (blank_textOf_of_stands hbackwardLine before after), ?_⟩
  simp only [readAs, ofLines_textOf, draftBehind_append_cons hforwardLine,
    draftBehind_append_cons hbackwardLine, Draft.step_forward houtside hsource hforward,
    Draft.step_backward houtside htarget hbackward]
  cases label with
  | none => simp [Word.labelled_none]
  | some label =>
      have hsound : Draft.Sound (draftBehind before) := Draft.sound_empty.foldl _
      have hcatalogued := catalogued_foldl (before.flatMap prepareLines)
      have hsays : Draft.isBlankCondition (some label.text) = false := label.blank_text
      obtain ⟨t, ht, hwritten⟩ := Draft.exists_written_addArrow hsound hcatalogued
        source.text_ne_startMarker source.text_ne_empty target.text fun _ => hsays
      obtain ⟨t', ht', hwritten'⟩ := Draft.exists_written_addArrow hsound hcatalogued
        (source.labelled_ne_startMarker label) (source.labelled_ne_empty label) target.text
        fun hlabels => absurd hlabels (source.normalizeLabel_labelled_ne label target)
      have hne : t' ≠ t := by
        rintro rfl
        exact Option.some_ne_none _ (ht.symm.trans ht')
      refine ⟨by simp, iff_of_false ?_ (by simp)⟩
      intro hsame
      exact Draft.transitions_ne_of_prefix hne
        (hwritten'.trans ((hsound.addArrow _ _ _).prefix_finish _))
        (hwritten.trans ((hsound.addArrow _ _ _).prefix_finish _))
        (congrArg Definition.transitions hsame)

/-- An arrow out of a branch of an open loop, with an action behind it. -/
theorem read_mirrored_inBranch :
    let before := ["repeat".toList, "if (a) then".toList]
    let source : Word := ⟨"A".toList, by decide, by decide⟩
    let target : Word := ⟨"if".toList, by decide, by decide⟩
    let after := [":C;".toList]
    ((draftBehind before).block = .none ∧ source.Leads ∧ target.Leads ∧
      ArrowSign.right.reversed = false ∧ ArrowSign.longLeft.reversed = true) ∧
    ∃ reading mirrored supply',
      read (some (textOf (before ++ arrowLine source .right target none :: after))) none none {}
          = (.ok reading, supply') ∧
        read (some (textOf (before ++ arrowLine target .longLeft source none :: after))) none none
            {} = (.ok mirrored, supply') ∧
        ((none : Option Word) = none → mirrored = reading) ∧
        (mirrored.definition = reading.definition ↔ (none : Option Word) = none) := by
  intro before source target after
  have houtside : (draftBehind before).block = .none := by
    decide +kernel
  have hsource : source.Leads := ⟨by decide, by decide⟩
  have htarget : target.Leads := ⟨by decide, by decide⟩
  exact ⟨⟨houtside, hsource, htarget, rfl, rfl⟩,
    read_mirrored houtside hsource htarget rfl rfl none after none none {}⟩

/-- **A label behind the source of a reversed arrow** becomes a part of the name of the source, and
    the transition loses its condition. -/
theorem read_names_label : ∃ reading mirrored supply',
    read (some "A -> B : L") (some "w") none {} = (.ok reading, supply') ∧
      read (some "B <- A : L") (some "w") none {} = (.ok mirrored, supply') ∧
      reading.definition.transitions = [⟨"t_0", "A", "B", some "L"⟩] ∧
      mirrored.definition.transitions = [⟨"t_0", "A : L", "B", none⟩] ∧
      mirrored.definition ≠ reading.definition := by
  refine ⟨_, _, _, rfl, rfl, ?_, ?_, ?_⟩ <;> decide +kernel

end ActivityFlow.Diagram
