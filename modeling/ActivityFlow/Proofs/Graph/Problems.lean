import ActivityFlow.Graph.Definition
import Mathlib.Data.List.Count
import Mathlib.Data.List.Induction
import Mathlib.Tactic.Common

/-!
# What is reported as a problem

`Definition.problems` looks for repeated nodes with a growing list of ids already seen, and for
loose ends and loose start points one by one.

* Nothing is reported exactly when the ids are distinct and nothing leads outside them
  (`problems_eq_nil_iff`).
* **`problems_eq_report`** — in general each fault is reported once: each node whose id stands
  before it in the list, and each reference to a node that is not there, in the order in which they
  stand.  For the nodes this is an induction from the end of the list, one more node at a time
  (`duplicates_concat`): what was seen until then are just the ids before the node.
-/

namespace ActivityFlow.Definition

/-- The ids of the nodes, in their order. -/
def ids (d : Definition) : List String :=
  d.nodes.map (·.id)

lemma duplicates_eq_nil_iff (nodes : List Node) : ∀ seen : List String,
    duplicates seen nodes = [] ↔ (nodes.map (·.id)).Nodup ∧ ∀ n ∈ nodes, n.id ∉ seen := by
  induction nodes with
  | nil => simp [duplicates]
  | cons n rest ih =>
      intro seen
      rw [duplicates]
      split
      · rename_i hseen
        simp [hseen]
      · rename_i hseen
        rw [ih]
        simp only [List.mem_cons, not_or, List.map_cons, List.nodup_cons, List.mem_map,
          not_exists, not_and]
        constructor
        · rintro ⟨hnodup, hrest⟩
          exact ⟨⟨fun m hm => (hrest m hm).1, hnodup⟩,
            by rintro m (rfl | hm); exacts [hseen, (hrest m hm).2]⟩
        · rintro ⟨⟨hne, hnodup⟩, hall⟩
          exact ⟨hnodup, fun m hm => ⟨hne m hm, hall m (Or.inr hm)⟩⟩

lemma danglingEnds_eq_nil_iff (ids : List String) (t : Transition) :
    danglingEnds ids t = [] ↔ t.source ∈ ids ∧ t.target ∈ ids := by
  by_cases hsource : t.source ∈ ids
  · by_cases htarget : t.target ∈ ids <;> simp [danglingEnds, hsource, htarget]
  · simp [danglingEnds, hsource]

lemma danglingStarts_eq_nil_iff (ids : List String) (p : StartPoint) :
    danglingStarts ids p = [] ↔ p.node ∈ ids := by
  by_cases hnode : p.node ∈ ids <;> simp [danglingStarts, hnode]

lemma problems_eq_nil_iff (d : Definition) : d.problems = [] ↔
    d.ids.Nodup ∧ (∀ t ∈ d.transitions, t.source ∈ d.ids ∧ t.target ∈ d.ids) ∧
      ∀ p ∈ d.startPoints, p.node ∈ d.ids := by
  simp only [problems, List.append_eq_nil_iff, List.flatMap_eq_nil_iff, duplicates_eq_nil_iff,
    danglingEnds_eq_nil_iff, danglingStarts_eq_nil_iff]
  simp [ids, and_assoc]

/-! ## Repeated nodes -/

/-- The ids that stand in a list at a place behind another one where they stand, once for each such
    place. -/
def repeated (ids : List String) : List String :=
  (ids.zipIdx.filter fun place => place.1 ∈ ids.take place.2).map Prod.fst

@[simp] lemma repeated_nil : repeated [] = [] := rfl

/-- One more id is repeated when it is in the list already. -/
lemma repeated_concat (ids : List String) (id : String) :
    repeated (ids ++ [id]) = repeated ids ++ if id ∈ ids then [id] else [] := by
  have hbefore : (ids.zipIdx.filter fun place => place.1 ∈ (ids ++ [id]).take place.2) =
      ids.zipIdx.filter fun place => place.1 ∈ ids.take place.2 := by
    refine List.filter_congr fun place hmem => ?_
    have hplace : place.2 < ids.length := by simpa using List.snd_lt_of_mem_zipIdx hmem
    rw [List.take_append_of_le_length (Nat.le_of_lt hplace)]
  rw [repeated, List.zipIdx_append, List.filter_append, hbefore, List.map_append, ← repeated]
  by_cases hid : id ∈ ids <;> simp [hid]

/-- An id is repeated once less often than it stands there. -/
lemma count_repeated (ids : List String) (id : String) :
    (repeated ids).count id = ids.count id - 1 := by
  induction ids using List.reverseRecOn with
  | nil => simp
  | append_singleton ids last ih =>
      rw [repeated_concat, List.count_append, ih, List.count_append]
      by_cases hlast : last = id
      · subst hlast
        by_cases hmem : last ∈ ids
        · have hpos := List.count_pos_iff.mpr hmem
          simp only [hmem, if_true, List.count_singleton_self]
          omega
        · simp [hmem, List.count_eq_zero_of_not_mem hmem]
      · by_cases hmem : last ∈ ids <;> simp [hmem, hlast]

/-- One more node is reported when its id was seen before the list or stands in it. -/
lemma duplicates_concat (nodes : List Node) (n : Node) : ∀ seen : List String,
    duplicates seen (nodes ++ [n]) = duplicates seen nodes ++
      if n.id ∈ seen ∨ n.id ∈ nodes.map (·.id) then [.duplicateNode n.id] else [] := by
  induction nodes with
  | nil => intro seen; simp [duplicates]
  | cons first rest ih =>
      intro seen
      rw [List.cons_append, duplicates, duplicates, List.map_cons]
      split
      · rename_i hfirst
        have hknown : n.id = first.id → n.id ∈ seen := fun h => h ▸ hfirst
        rw [ih, List.cons_append]
        simp only [List.mem_cons, ← or_assoc, or_iff_left_of_imp hknown]
      · rw [ih]
        simp only [List.mem_cons, or_assoc, or_left_comm (a := n.id = first.id)]

lemma duplicates_eq (nodes : List Node) :
    duplicates [] nodes = (repeated (nodes.map (·.id))).map .duplicateNode := by
  induction nodes using List.reverseRecOn with
  | nil => simp [duplicates]
  | append_singleton nodes n ih =>
      rw [duplicates_concat, ih, List.map_append, List.map_singleton, repeated_concat,
        List.map_append]
      by_cases hmem : n.id ∈ nodes.map (·.id) <;> simp [hmem]

/-! ## References -/

/-- A reference to a node. -/
structure Reference where
  node : String
  /-- What is reported when there is no such node. -/
  fault : Problem

end Definition

/-- The references of a transition, source before target. -/
def Transition.references (t : Transition) : List Definition.Reference :=
  [⟨t.source, .danglingSource t.id t.source⟩, ⟨t.target, .danglingTarget t.id t.target⟩]

/-- The reference of a start point. -/
def StartPoint.reference (p : StartPoint) : Definition.Reference :=
  ⟨p.node, .danglingStart p.node⟩

namespace Definition

/-- The references of a definition: the ends of its transitions, then its start points. -/
def references (d : Definition) : List Reference :=
  d.transitions.flatMap Transition.references ++ d.startPoints.map StartPoint.reference

/-- What is reported for the references that lead nowhere. -/
def faultsOf (ids : List String) (references : List Reference) : List Problem :=
  (references.filter fun r => r.node ∉ ids).map (·.fault)

lemma faultsOf_append (ids : List String) (some more : List Reference) :
    faultsOf ids (some ++ more) = faultsOf ids some ++ faultsOf ids more := by
  simp [faultsOf]

lemma flatMap_danglingEnds (ids : List String) (transitions : List Transition) :
    transitions.flatMap (danglingEnds ids) =
      faultsOf ids (transitions.flatMap Transition.references) := by
  induction transitions with
  | nil => rfl
  | cons t rest ih =>
      have hends : danglingEnds ids t = faultsOf ids t.references := by
        by_cases hsource : t.source ∈ ids <;> by_cases htarget : t.target ∈ ids <;>
          simp [danglingEnds, faultsOf, Transition.references, hsource, htarget]
      rw [List.flatMap_cons, List.flatMap_cons, faultsOf_append, ih, hends]

lemma flatMap_danglingStarts (ids : List String) (startPoints : List StartPoint) :
    startPoints.flatMap (danglingStarts ids) =
      faultsOf ids (startPoints.map StartPoint.reference) := by
  induction startPoints with
  | nil => rfl
  | cons p rest ih =>
      rw [List.flatMap_cons, List.map_cons, ih]
      by_cases hnode : p.node ∈ ids <;>
        simp [danglingStarts, faultsOf, StartPoint.reference, hnode]

/-- The faults of references are no repeated nodes. -/
lemma count_duplicateNode_faultsOf (d : Definition) (ids : List String) (id : String) :
    (faultsOf ids d.references).count (.duplicateNode id) = 0 := by
  rw [List.count_eq_zero]
  intro hmem
  obtain ⟨r, hr, hfault⟩ := List.mem_map.mp hmem
  rcases List.mem_append.mp (List.mem_filter.mp hr).1 with hr | hr
  · obtain ⟨t, -, ht⟩ := List.mem_flatMap.mp hr
    simp only [Transition.references, List.mem_cons, List.not_mem_nil, or_false] at ht
    rcases ht with rfl | rfl <;> exact Problem.noConfusion hfault
  · obtain ⟨p, -, rfl⟩ := List.mem_map.mp hr
    exact Problem.noConfusion hfault

/-! ## The report -/

/-- **Each fault is reported once, and nothing else is.**  There is one entry for each node whose
    id stands before it, so that an id is reported once less often than it is used; then one for
    each reference that leads nowhere, to the ends of the transitions, source before target, and to
    the start points.  So nothing is reported exactly when the ids are distinct and every reference
    leads to a node. -/
theorem problems_eq_report (d : Definition) :
    d.problems = (repeated d.ids).map .duplicateNode ++ faultsOf d.ids d.references ∧
      (∀ id, d.problems.count (.duplicateNode id) = d.ids.count id - 1) ∧
      (d.problems = [] ↔ d.ids.Nodup ∧
        (∀ t ∈ d.transitions, t.source ∈ d.ids ∧ t.target ∈ d.ids) ∧
        ∀ p ∈ d.startPoints, p.node ∈ d.ids) := by
  have hreport : d.problems =
      (repeated d.ids).map .duplicateNode ++ faultsOf d.ids d.references := by
    rw [problems, duplicates_eq, flatMap_danglingEnds, flatMap_danglingStarts, List.append_assoc,
      ← faultsOf_append]
    rfl
  refine ⟨hreport, fun id => ?_, d.problems_eq_nil_iff⟩
  have hinjective : Function.Injective Problem.duplicateNode := fun _ _ => Problem.duplicateNode.inj
  rw [hreport, List.count_append, count_duplicateNode_faultsOf, Nat.add_zero,
    List.count_map_of_injective _ _ hinjective, count_repeated]

/-- A node used three times, a transition with both ends loose, and a loose start point. -/
example :
    let a : Node := ⟨"A", some "A", none, none⟩
    let d : Definition :=
      ⟨"w", none, [a, a, a], [⟨"t_0", "B", "C", none⟩, ⟨"t_1", "A", "C", none⟩], [⟨"A"⟩, ⟨"D"⟩]⟩
    d.problems = [.duplicateNode "A", .duplicateNode "A", .danglingSource "t_0" "B",
      .danglingTarget "t_0" "C", .danglingTarget "t_1" "C", .danglingStart "D"] := by
  decide

end ActivityFlow.Definition
