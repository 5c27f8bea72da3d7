import ActivityFlow.Proofs.Diagram.Bookkeeping
import ActivityFlow.Proofs.Diagram.Reading
import ActivityFlow.Proofs.Graph.Problems

/-!
# What is read is well formed

However malformed a diagram is, its definition is not: the ids are distinct and not empty, nothing
leads outside them, the transitions are numbered in order, and a node leads to itself only under a
condition that says something.  All of it is soundness of the finished draft (`sound_ofLines`),
said of the definition.
-/

namespace ActivityFlow

/-- **A well-formed definition.** -/
structure Definition.WellFormed (d : Definition) : Prop where
  nodup : d.ids.Nodup
  nonempty : ∀ id ∈ d.ids, id ≠ ""
  ends : ∀ t ∈ d.transitions, t.source ∈ d.ids ∧ t.target ∈ d.ids
  starts : ∀ p ∈ d.startPoints, p.node ∈ d.ids
  numbered : ∀ (n : ℕ) (t : Transition), d.transitions[n]? = some t → t.id = "t_" ++ toString n
  selfLinks : ∀ t ∈ d.transitions, t.source = t.target →
    ∃ condition, t.condition = some condition ∧ Text.blank condition = false

/-- A well-formed definition has nothing to report. -/
lemma Definition.WellFormed.problems_eq_nil {d : Definition} (h : d.WellFormed) :
    d.problems = [] :=
  d.problems_eq_nil_iff.mpr ⟨h.nodup, h.ends, h.starts⟩

namespace Diagram

lemma exists_of_isBlankCondition_eq_false {condition : Option String}
    (h : Draft.isBlankCondition condition = false) :
    ∃ c, condition = some c ∧ Text.blank c = false := by
  cases condition with
  | none => simp [Draft.isBlankCondition, Text.blank?] at h
  | some c => exact ⟨c, rfl, h⟩

/-- A sound draft amounts to a well-formed definition. -/
lemma Draft.Sound.wellFormed {d : Draft} (h : Sound d) (id name : String) :
    (d.toDefinition id name).WellFormed := by
  have hids : (d.toDefinition id name).ids = d.entries.map (·.node.id) := by
    simp [toDefinition, Definition.ids]
  obtain ⟨hnodup, hnonempty, _, hlinks, hstarts⟩ := h.graph
  refine ⟨?_, ?_, ?_, ?_, ?_, ?_⟩
  · rw [hids]; exact hnodup
  · rw [hids]; exact hnonempty
  · rw [hids]; exact hlinks.ends
  · rw [hids]; exact hstarts
  · intro n t ht
    rw [← Nat.zero_add n]
    exact hlinks.numbered n t ht
  · exact fun t ht heq => exists_of_isBlankCondition_eq_false (hlinks.selfLinks t ht heq)

/-- **Every text that is not blank is read as a well-formed definition without problems.** -/
theorem read_wellFormed (text : String) (id name : Option String) (supply : IdSupply)
    (h : Text.blank text = false) : ∃ reading supply',
      read (some text) id name supply = (.ok reading, supply') ∧
        reading.definition.WellFormed ∧ reading.definition.problems = [] := by
  obtain ⟨usedId, usedName, supply', hread⟩ := read_of_not_blank h id name supply
  have hwell := (Draft.sound_ofLines (prepareLines text.toList)).wellFormed usedId usedName
  exact ⟨_, _, hread, hwell, hwell.problems_eq_nil⟩

/-- A branch that is never closed, around a node that leads to itself. -/
theorem read_wellFormed_open_branch :
    Text.blank "if (a) then\nB --> B : again\n-->" = false ∧ ∃ reading supply',
      read (some "if (a) then\nB --> B : again\n-->") none none {} = (.ok reading, supply') ∧
        reading.definition.WellFormed ∧ reading.definition.problems = [] :=
  ⟨by decide, read_wellFormed _ none none {} (by decide)⟩

end Diagram

end ActivityFlow
