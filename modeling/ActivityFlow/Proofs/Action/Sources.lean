import ActivityFlow.Action.Execution
import Mathlib.Tactic.Common

/-!
# Where handlers come from

What stands under a name of a registry is one handler or a maker of handlers.  A request for a
handler counts, for a maker, how often it was asked, and nothing else (`Registry.source?_resolve`).
So without the counts no request changes the sources of a registry (`Registry.sources_resolve`).
-/

namespace ActivityFlow

namespace HandlerSource

/-- A source that was asked some more times. -/
def asked : HandlerSource → Nat → HandlerSource
  | shared handler, _ => shared handler
  | made maker times, n => made maker (times + n)

/-- A source as it was before it was asked. -/
def unasked : HandlerSource → HandlerSource
  | shared handler => shared handler
  | made maker _ => made maker 0

/-- What a source yields when it is asked. -/
def yield : HandlerSource → Except Message (Option Handler)
  | shared handler => .ok (some handler)
  | made maker times => maker.make (times + 1)

@[simp] lemma asked_zero (source : HandlerSource) : source.asked 0 = source := by
  cases source <;> rfl

lemma asked_asked (source : HandlerSource) (m n : Nat) :
    (source.asked m).asked n = source.asked (m + n) := by
  cases source <;> simp [asked, Nat.add_assoc]

@[simp] lemma unasked_asked (source : HandlerSource) (n : Nat) :
    (source.asked n).unasked = source.unasked := by
  cases source <;> rfl

/-- Every source is what it was at first, asked some times. -/
lemma exists_eq_asked (source : HandlerSource) : ∃ n, source = source.unasked.asked n := by
  cases source with
  | shared handler => exact ⟨0, rfl⟩
  | made maker times => exact ⟨times, by rw [unasked, asked, Nat.zero_add]⟩

end HandlerSource

namespace Registry

/-- What stands under a name. -/
def source? (registry : Registry) (name : String) : Option HandlerSource :=
  (registry.get? name).map (·.source)

/-- What stands under each name, however often it was asked. -/
def sources (registry : Registry) : String → Option HandlerSource :=
  fun name => (registry.source? name).map (·.unasked)

/-- A name is registered as long as something stands under it. -/
lemma contains_eq_isSome_source? (registry : Registry) (name : String) :
    registry.contains name = (registry.source? name).isSome := by
  simp [KeyedMap.contains, source?]

lemma contains_eq (registry : Registry) (name : String) :
    registry.contains name = (registry.sources name).isSome := by
  rw [contains_eq_isSome_source?, sources, Option.isSome_map]

/-- What is entered under a name that is not blank stands there, and nothing else changes. -/
lemma source?_enter (registry : Registry) (name : String) (source : HandlerSource)
    (metadata : List (String × Json)) (other : String) :
    ((registry.enter name source metadata).toOption.getD registry).source? other =
      if Text.blank name = false ∧ name = other then some source else registry.source? other := by
  unfold enter
  cases Text.blank name with
  | true => simp [Except.toOption]
  | false =>
    by_cases he : other = name
    · simp [Except.toOption, source?, he]
    · simp [Except.toOption, source?, KeyedMap.get?_put, he, Ne.symm he]

/-- A request for a handler asks the source that it finds. -/
lemma source?_resolve (registry : Registry) (other : String) (workflow : Option String)
    (name : String) :
    ∃ n, (registry.resolve other workflow).2.source? name =
      (registry.source? name).map (·.asked n) := by
  have hsame : ∃ n, registry.source? name = (registry.source? name).map (·.asked n) :=
    ⟨0, by simp⟩
  unfold resolve
  cases hother : registry.get? other with
  | none => exact hsame
  | some registration => cases hsource : registration.source with
    | shared handler =>
      simp only [hsource]
      exact hsame
    | made maker times =>
      by_cases he : name = other
      · exact ⟨1, by simp [source?, he, hother, hsource, HandlerSource.asked]⟩
      · refine ⟨0, ?_⟩
        simp [source?, hsource, KeyedMap.get?_put, he, Function.comp_def]

@[simp] lemma sources_resolve (registry : Registry) (name : String) (workflow : Option String) :
    (registry.resolve name workflow).2.sources = registry.sources := by
  funext other
  obtain ⟨n, hn⟩ := registry.source?_resolve name workflow other
  rw [sources, hn, sources, Option.map_map]
  cases registry.source? other <;> simp

end Registry

/-- A request is answered by what its source yields. -/
lemma ExecutionState.resolve_eq {s : ExecutionState} {action : String} {source : HandlerSource}
    (h : s.registry.source? action = some source) (workflow : String) :
    (s.resolve action workflow).1 = source.yield := by
  obtain ⟨registration, hget, rfl⟩ := Option.map_eq_some_iff.mp h
  rw [resolve, Registry.resolve, hget]
  cases hsource : registration.source <;> simp [hsource, HandlerSource.yield]

lemma ExecutionState.resolve_of_none {s : ExecutionState} {action : String}
    (h : s.registry.source? action = none) (workflow : String) :
    (s.resolve action workflow).1 = .ok none := by
  rw [resolve, Registry.resolve, Option.map_eq_none_iff.mp h]

end ActivityFlow
