import ActivityFlow.Graph.Store
import ActivityFlow.Proofs.History
import Mathlib.Tactic.Common

/-!
# The views of a store

A store can be looked at in several ways: it lists its ids, it counts them, it finds a definition
under an id, and it may be asked for a definition that has to be there.  All of them show one
history: what was stored last under an id stands there, unless it was removed since (`lastStored`).

They show it alike for every id but a blank one.  Such an id is taken when a definition is stored,
and it is listed and counted, but nothing is ever found under it (`lists_blank`).  So the views agree
on an id unless it is blank and a definition stands under it (`views_agree_iff`).
-/

namespace ActivityFlow

/-- A call that changes a store. -/
inductive StoreCall where
  /-- Store a definition; a missing one is refused. -/
  | store (definition : Option Definition)
  | remove (id : Option String)

/-- What a call says of an id, if it says anything: the definition that stands under it from then
    on, or that none does. -/
def StoreCall.tells? (id : String) : StoreCall → Option (Option Definition)
  | store (some d) => if id = d.id then some (some d) else none
  | store none => none
  | remove other => if other = some id then some none else none

/-- **What was stored last under an id**, unless it was removed since. -/
def lastStored (calls : List StoreCall) (id : String) : Option Definition :=
  lastWord (StoreCall.tells? id) calls

namespace DefinitionStore

/-- The store behind a call; a call that is refused leaves it as it was. -/
def take (s : DefinitionStore) : StoreCall → DefinitionStore
  | .store d => (s.store? d).toOption.getD s
  | .remove id => (s.remove id).2

/-- The store behind several calls. -/
def after (calls : List StoreCall) : DefinitionStore :=
  calls.foldl take .empty

/-! ## What stands under an id -/

lemma get?_take (s : DefinitionStore) (call : StoreCall) (id : String) :
    (s.take call).get? id = (call.tells? id).getD (s.get? id) := by
  cases call with
  | store d =>
      cases d with
      | none => rfl
      | some d =>
          change (s.put d.id d).get? id = _
          rw [KeyedMap.get?_put, StoreCall.tells?]
          by_cases hid : id = d.id <;> simp [hid]
  | remove other =>
      cases other with
      | none => rfl
      | some other =>
          change (s.erase other).get? id = _
          rw [KeyedMap.get?_erase, StoreCall.tells?]
          by_cases hid : id = other
          · simp [hid]
          · simp [hid, Ne.symm hid]

/-- **What stands under an id is what was stored last under it.** -/
theorem get?_after (calls : List StoreCall) (id : String) :
    (after calls).get? id = lastStored calls id :=
  lastWord_of_step (fun s => s.get? id) (fun s call => get?_take s call id) rfl calls

/-! ## The views -/

variable {s : DefinitionStore} {id : String}

lemma mem_ids_iff : id ∈ s.ids ↔ (s.get? id).isSome = true := by
  simp [ids, KeyedMap.isSome_get?_iff]

/-- **The views of a store agree on an id**: it is listed just if a definition is found under it,
    just if the store has it, and just if asking for it is no error. -/
structure Agrees (s : DefinitionStore) (id : String) : Prop where
  found : id ∈ s.ids ↔ ∃ d, s.find? (some id) = some d
  has : id ∈ s.ids ↔ s.has (some id) = true
  required : id ∈ s.ids ↔ ∃ d, s.require (some id) = .ok d

/-- Finding, having and requiring never disagree. -/
lemma agrees_iff : s.Agrees id ↔ (id ∈ s.ids ↔ (s.find? (some id)).isSome = true) := by
  have hfound : (∃ d, s.find? (some id) = some d) ↔ (s.find? (some id)).isSome = true :=
    Option.isSome_iff_exists.symm
  have hrequired : (∃ d, s.require (some id) = .ok d) ↔ (s.find? (some id)).isSome = true := by
    cases hfind : s.find? (some id) <;> simp [require, hfind]
  refine ⟨fun h => h.has, fun h => ⟨h.trans hfound.symm, h, h.trans hrequired.symm⟩⟩

/-- **The views of a store show one history, and agree on every id under which a definition may be
    asked for.**  Behind any calls, the ids listed are those under which the history says that a
    definition stands, each of them once, and they are as many as the store counts.  Under an id
    that is not blank the definition stored last is found, under a blank one none.  So the views
    agree on an id unless it is blank and listed. -/
theorem views_agree_iff (calls : List StoreCall) :
    let s := after calls
    (∀ id, id ∈ s.ids ↔ (lastStored calls id).isSome = true) ∧
      s.ids.Nodup ∧ s.size = s.ids.length ∧
      (∀ id, s.find? (some id) = if Text.blank id then none else lastStored calls id) ∧
      ∀ id, s.Agrees id ↔ ¬ (Text.blank id = true ∧ id ∈ s.ids) := by
  intro s
  have hfind : ∀ id, s.find? (some id) = if Text.blank id then none else lastStored calls id :=
    fun id => by rw [find?, get?_after]
  have hlisted : ∀ id, id ∈ s.ids ↔ (lastStored calls id).isSome = true :=
    fun id => by rw [mem_ids_iff, get?_after]
  refine ⟨hlisted, by simpa [ids] using s.nodup_keys, s.length_keys.symm, hfind, fun id => ?_⟩
  rw [agrees_iff, hfind, hlisted]
  cases Text.blank id <;> simp

/-- **A blank id is listed and nothing is found under it.** -/
theorem lists_blank :
    let s := after [.store (some ⟨" ", some "w", [], [], []⟩)]
    s.ids = [" "] ∧ s.size = 1 ∧ s.find? (some " ") = none ∧
      s.require (some " ") = .error (.unknownId (some " ")) ∧ ¬ s.Agrees " " := by
  intro s
  have hids : s.ids = [" "] := by decide
  have hfind : s.find? (some " ") = none := by decide
  refine ⟨hids, by decide, hfind, by decide, fun h => ?_⟩
  have hlisted : " " ∈ s.ids := by rw [hids]; exact List.mem_singleton_self _
  obtain ⟨d, hd⟩ := h.found.mp hlisted
  simp [hfind] at hd

end DefinitionStore

end ActivityFlow
