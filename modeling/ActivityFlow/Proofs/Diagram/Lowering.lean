import ActivityFlow.Proofs.Diagram.Bookkeeping
import ActivityFlow.Proofs.Diagram.Program

/-!
# What a structured program lowers to

The lowering of a program is a recursion over its syntax.  It threads the graph drawn so far and a
*cursor*: the node to go on from, and the condition pending on the next link.  A stop leaves no
cursor.  Nothing is remembered beside that, since the recursion itself remembers which branches and
loops are open.

* `Sketch`, `Cursor` — what the lowering threads.
* `Program.lower` — the lowering, and `Program.graph` the graph of a whole program.
* `Statement.arrived` — a statement leaves off at its own node with nothing pending, or nowhere.
-/

namespace ActivityFlow.Diagram

open ActivityFlow.Text

/-! ## The lowering -/

/-- The graph drawn so far, and the number that the next made id tries first. -/
structure Sketch where
  nodes : List Entry
  links : List Transition
  counter : ℕ

/-- Where a program goes on from, and the condition pending there. -/
structure Cursor where
  tail : String
  pending : Option String

namespace Sketch

/-- A node of its own, under the first made id that is free. -/
def make (s : Sketch) (label : String) (origin : Origin) : Sketch × String :=
  let n := freshIndex label (s.nodes.map (·.node.id)) s.counter
  (⟨s.nodes ++ [⟨⟨makeId label n, some label, none, none⟩, origin⟩], s.links, n + 1⟩,
    makeId label n)

/-- The node that was declared under a label, or a new one: under the label as its id if that is
    free, and under a made id otherwise. -/
def nodeOf (s : Sketch) (label : String) : Sketch × String :=
  match s.nodes.find? fun e => e.origin = .declared && e.node.label = some label with
  | some e => (s, e.node.id)
  | none =>
      if label ∈ s.nodes.map (·.node.id) then s.make label .declared
      else ({ s with nodes := s.nodes ++ [⟨⟨label, some label, none, none⟩, .declared⟩] }, label)

/-- A link from a cursor, if there is one.  A node is not linked with itself without a condition. -/
def edge (s : Sketch) (cursor : Option Cursor) (target : String) : Sketch :=
  match cursor with
  | none => s
  | some c =>
      if c.tail = target ∧ c.pending = none then s
      else { s with links := s.links ++
        [⟨"t_" ++ toString s.links.length, c.tail, target, c.pending⟩] }

/-- A join behind branches, linked from where each of them ends, in their order.  An empty branch
    ends at the decision, with its condition still pending. -/
def joinFrom (s : Sketch) (ends : List (Option Cursor)) : Sketch × Option Cursor :=
  let (s, join) := s.make "join" .join
  (ends.foldl (fun s cursor => s.edge cursor join) s, some ⟨join, none⟩)

/-- The links behind a loop: from an empty body straight on, and otherwise from the end of the body
    back under the condition and on without one.  A body without an end has neither. -/
def leaveLoop (s : Sketch) (entry after condition : String) (empty : Bool) :
    Option Cursor → Sketch
  | none => s
  | some last =>
      if empty then s.edge (some ⟨entry, none⟩) after
      else (s.edge (some ⟨last.tail, some condition⟩) entry).edge (some ⟨last.tail, none⟩) after

end Sketch

/-- Whether a program has no statement. -/
def Program.isEmpty : Program → Bool
  | .done => true
  | .next _ _ => false

mutual

/-- What a statement adds to a sketch, and where it leaves off. -/
def Statement.lower : Statement → Sketch → Option Cursor → Sketch × Option Cursor
  | .action label, s, cursor =>
      let (s, id) := s.nodeOf label.text
      (s.edge cursor id, some ⟨id, none⟩)
  | .stop, s, cursor =>
      let (s, id) := s.nodeOf "Stop"
      (s.edge cursor id, none)
  | .choice condition body others, s, cursor =>
      let (s, decision) := s.make ("if: " ++ condition.text) .decision
      let (s, first) := body.lower (s.edge cursor decision) (some ⟨decision, some condition.text⟩)
      let (s, rest) := others.lower decision s
      s.joinFrom (first :: rest)
  | .loop body condition, s, cursor =>
      let (s, entry) := s.make "loop_entry" .loopEntry
      let (s, last) := body.lower (s.edge cursor entry) (some ⟨entry, none⟩)
      let (s, after) := s.make "after_loop" .afterLoop
      (s.leaveLoop entry after condition.text body.isEmpty last, some ⟨after, none⟩)

/-- What the statements of a program add, one after the other. -/
def Program.lower : Program → Sketch → Option Cursor → Sketch × Option Cursor
  | .done, s, cursor => (s, cursor)
  | .next first rest, s, cursor =>
      let (s, cursor) := first.lower s cursor
      rest.lower s cursor

/-- What the further branches of a decision add, and where each of them ends. -/
def Others.lower : Others → (decision : String) → Sketch → Sketch × List (Option Cursor)
  | .endif, _, s => (s, [])
  | .otherwise body, decision, s =>
      let (s, last) := body.lower s (some ⟨decision, some "else"⟩)
      (s, [last])
  | .elseIf condition body others, decision, s =>
      let (s, last) := body.lower s (some ⟨decision, some condition.text⟩)
      let (s, rest) := others.lower decision s
      (s, last :: rest)

end

/-- **The graph of a program**, which begins at the node `Start`. -/
def Program.graph (p : Program) : Sketch :=
  (p.lower ⟨[⟨⟨"Start", some "Start", none, none⟩, .declared⟩], [], 0⟩ (some ⟨"Start", none⟩)).1

/-! ## Cursors -/

/-- A cursor whose pending condition, if any, says something. -/
def Speaks (cursor : Option Cursor) : Prop :=
  ∀ c ∈ cursor, ∀ condition ∈ c.pending, blank condition = false

/-- A cursor with nothing pending, at a node that begins no loop. -/
def Arrived (nodes : List Entry) (cursor : Option Cursor) : Prop :=
  ∀ c ∈ cursor, c.pending = none ∧
    ∃ origin, origin ≠ .loopEntry ∧ Draft.Listed nodes c.tail origin

lemma arrived_of_listed {nodes : List Entry} {id : String} {origin : Origin}
    (hne : origin ≠ .loopEntry) (h : Draft.Listed nodes id origin) :
    Arrived nodes (some ⟨id, none⟩) := by
  intro c hc
  rw [Option.mem_some_iff] at hc
  subst hc
  exact ⟨rfl, origin, hne, h⟩

lemma Arrived.speaks {nodes : List Entry} {cursor : Option Cursor} (h : Arrived nodes cursor) :
    Speaks cursor := by
  intro c hc condition hcondition
  rw [(h c hc).1] at hcondition
  simp at hcondition

@[simp] lemma Sketch.nodes_edge (s : Sketch) (cursor : Option Cursor) (target : String) :
    (s.edge cursor target).nodes = s.nodes := by
  cases cursor with
  | none => rfl
  | some c =>
      simp only [edge]
      split <;> rfl

lemma Sketch.nodes_foldl_edge (ends : List (Option Cursor)) (target : String) :
    ∀ s : Sketch, (ends.foldl (fun s cursor => s.edge cursor target) s).nodes = s.nodes := by
  induction ends with
  | nil => exact fun _ => rfl
  | cons cursor rest ih => intro s; rw [List.foldl_cons, ih, nodes_edge]

@[simp] lemma Sketch.nodes_leaveLoop (s : Sketch) (entry after condition : String) (empty : Bool)
    (cursor : Option Cursor) :
    (s.leaveLoop entry after condition empty cursor).nodes = s.nodes := by
  cases cursor with
  | none => rfl
  | some c => cases empty <;> simp [leaveLoop]

lemma Sketch.listed_make (s : Sketch) (label : String) (origin : Origin) :
    Draft.Listed (s.make label origin).1.nodes (s.make label origin).2 origin :=
  ⟨_, List.mem_append_right _ (List.mem_singleton_self _), rfl, rfl⟩

lemma Sketch.listed_nodeOf (s : Sketch) (label : String) :
    Draft.Listed (s.nodeOf label).1.nodes (s.nodeOf label).2 .declared := by
  rw [nodeOf]
  split
  · rename_i e hfind
    have hprop := List.find?_some hfind
    simp only [Bool.and_eq_true, decide_eq_true_eq] at hprop
    exact ⟨e, List.mem_of_find?_eq_some hfind, rfl, hprop.1⟩
  · split
    · exact s.listed_make label .declared
    · exact ⟨_, List.mem_append_right _ (List.mem_singleton_self _), rfl, rfl⟩

/-- A statement arrives at its own node, or nowhere. -/
lemma Statement.arrived (statement : Statement) (s : Sketch) (cursor : Option Cursor) :
    Arrived (statement.lower s cursor).1.nodes (statement.lower s cursor).2 := by
  cases statement with
  | action label =>
      simp only [lower, Sketch.nodes_edge]
      exact arrived_of_listed (by decide) (s.listed_nodeOf label.text)
  | stop => simp [lower, Arrived]
  | choice condition body others =>
      simp only [lower, Sketch.joinFrom, Sketch.nodes_foldl_edge]
      exact arrived_of_listed (by decide) (Sketch.listed_make _ "join" .join)
  | loop body condition =>
      simp only [lower, Sketch.nodes_leaveLoop]
      exact arrived_of_listed (by decide) (Sketch.listed_make _ "after_loop" .afterLoop)

/-- So does a program with a statement in it. -/
lemma Program.arrived : ∀ (p : Program) (s : Sketch) (cursor : Option Cursor), p.isEmpty = false →
    Arrived (p.lower s cursor).1.nodes (p.lower s cursor).2
  | .done, _, _, hempty => Bool.noConfusion hempty
  | .next first .done, s, cursor, _ => by
      simp only [lower]
      exact first.arrived s cursor
  | .next first (.next second rest), s, cursor, _ => by
      rw [lower]
      exact arrived (.next second rest) _ _ rfl

end ActivityFlow.Diagram
