import ActivityFlow.Proofs.Action.Conduct
import Mathlib.Algebra.Group.Int.Defs
import Mathlib.Data.List.Induction

/-!
# What an execution merges

What a handler returns is merged into the variables of its instance if the handler ran to its end,
and in no other case (`execute_merges_when_completed`).  A handler that was stopped may still write
and return, and only what it changes at once is there afterwards.

**There may be no outcome at all.**  A returned object with a value that cannot be shown lets the
execution fail (`no_outcome_of_long_number`), and so does an error that cannot be shown, or a
parameter that refers to such a value.

Names are compared after case folding, so several fields of a returned object may give a text to one
variable, and the last of them counts (`lastNaming?`).  This need not be so if fields have the same
name: a text takes the place of an earlier one under its name before any of them is merged, and those
in between are merged later.
-/

namespace ActivityFlow

open ExecutionState Routine

/-! ## Merging a value -/

/-- Of several values that are written under one key the last one stays. -/
lemma KeyedMap.get?_putAll {ς κ α : Type} {canon : ς → κ} [DecidableEq κ] (m : KeyedMap canon α)
    (pairs : List (ς × α)) (key : ς) :
    (m.putAll pairs).get? key =
      ((pairs.reverse.find? fun pair => canon pair.1 = canon key).map Prod.snd).or
        (m.get? key) := by
  induction pairs using List.reverseRecOn with
  | nil => rfl
  | append_singleton pairs pair ih =>
      rw [putAll, List.foldl_append, List.reverse_append, List.reverse_singleton,
        List.singleton_append, List.find?_cons]
      change ((m.putAll pairs).put pair.1 pair.2).get? key = _
      rw [get?_put]
      by_cases h : canon pair.1 = canon key
      · simp [h]
      · simp [h, Ne.symm h, ih]

lemma KeyedMap.write_of_absent {ς κ α : Type} {canon : ς → κ} [DecidableEq κ] {key : ς}
    {entries : List (ς × α)} (h : ∀ entry ∈ entries, canon entry.1 ≠ canon key) (value : α) :
    write canon key value entries = entries ++ [(key, value)] := by
  induction entries with
  | nil => rfl
  | cons entry entries ih =>
      obtain ⟨hentry, hrest⟩ := List.forall_mem_cons.mp h
      rw [write, if_neg hentry, ih hrest, List.cons_append]

/-- New keys are written behind all others, in their order. -/
lemma KeyedMap.entries_putAll {ς κ α : Type} {canon : ς → κ} [DecidableEq κ] (m : KeyedMap canon α)
    {pairs : List (ς × α)} (hnew : ((m.entries ++ pairs).map fun pair => canon pair.1).Nodup) :
    (m.putAll pairs).entries = m.entries ++ pairs := by
  induction pairs generalizing m with
  | nil => exact (List.append_nil _).symm
  | cons pair pairs ih =>
      have habsent : ∀ entry ∈ m.entries, canon entry.1 ≠ canon pair.1 := by
        rw [List.map_append, List.nodup_append] at hnew
        exact fun entry hentry => hnew.2.2 _ (List.mem_map_of_mem hentry) _ (.head _)
      have hput : (m.put pair.1 pair.2).entries = m.entries ++ [pair] := write_of_absent habsent pair.2
      have hrest := ih (m.put pair.1 pair.2) (by rwa [hput, List.append_assoc, List.singleton_append])
      rwa [hput, List.append_assoc, List.singleton_append] at hrest

/-- What the last of the entries that name a variable has for it; a blank name names none. -/
def lastNaming? {α : Type} (name : String) (entries : List (String × α)) : Option α :=
  (entries.reverse.find? fun entry =>
    !Text.blank entry.1 && Text.fold entry.1 == Text.fold name).map Prod.snd

lemma lastNaming?_map {α β : Type} (f : α → β) (name : String) (entries : List (String × α)) :
    lastNaming? name (entries.map fun entry => (entry.1, f entry.2)) =
      (lastNaming? name entries).map f := by
  rw [lastNaming?, lastNaming?, ← List.map_reverse, List.find?_map, Option.map_map, Option.map_map]
  rfl

lemma find?_mergedPairs (updates : List (String × String)) (name : String) :
    ((mergedPairs updates).find? fun pair => Text.fold pair.1 = Text.fold name).map Prod.snd =
      ((updates.find? fun update =>
        !Text.blank update.1 && Text.fold update.1 == Text.fold name).map Prod.snd).map .str := by
  induction updates with
  | nil => rfl
  | cons update updates ih =>
      simp only [mergedPairs, InstanceStates.namedPairs, List.map_cons, List.filterMap_cons] at ih ⊢
      cases hblank : Text.blank update.1 with
      | true => simpa [hblank, List.find?_cons] using ih
      | false =>
          by_cases hname : Text.fold update.1 = Text.fold name
          · simp [hblank, hname]
          · simpa [hblank, hname, List.find?_cons] using ih

/-- A variable has the last of the merged texts that names it, or the value that it had. -/
lemma get?_putAll_merged (bag : VariableBag) (updates : List (String × String)) (name : String) :
    (bag.putAll (mergedPairs updates)).get? name =
      ((lastNaming? name updates).map .str).or (bag.get? name) := by
  have hreverse : (mergedPairs updates).reverse = mergedPairs updates.reverse := by
    simp [mergedPairs, InstanceStates.namedPairs, List.filterMap_reverse]
  rw [KeyedMap.get?_putAll, hreverse, find?_mergedPairs]
  rfl

/-- The texts of an object whose fields have different names. -/
lemma updatesOf_of_nodup {fields : List (String × Json)} (h : (fields.map Prod.fst).Nodup) :
    updatesOf (.obj fields) = fields.map fun field => (field.1, field.2.display) := by
  refine KeyedMap.entries_putAll .empty ?_
  simpa [KeyedMap.empty, Function.comp_def] using h

/-- A value that can be shown gives the texts of its fields. -/
lemma updatesOf_of_ok {value : Json} {updates : List (String × String)}
    (h : updatesOf? value = .ok updates) : updates = updatesOf value := by
  unfold updatesOf? at h
  split at h
  · unfold Json.checkText at h
    split at h
    · exact (Except.ok.inj h).symm
    · exact nomatch h
  · exact (Except.ok.inj h).symm

/-! ## Executing an action in the foreground -/

/-- What an execution in the foreground answers, and what it makes of the instances.  The status is
    `suspended` if the handler waits for ever.  There is no outcome only if something cannot be shown
    that should be: before the handler works, or what it ended with. -/
structure MergesWhenCompleted (q : Request) (workflow : String) (s : ExecutionState)
    (answer : Except ExecutionError Outcome) (s' : ExecutionState) : Prop where
  status : ∀ outcome, answer = .ok outcome → outcome.status ≠ .suspended →
    outcome.status ∈ [.skipped, .completed, .failed, .cancelled]
  merges : ∃ changes ending?, CourseOf (q.work? workflow s) (s.bag workflow) changes ending? ∧
    (∀ e, answer = .error e → ∃ cause, e = .text cause ∧ (q.work? workflow s = .error cause ∨
      ∃ ending, ending? = some ending ∧ ending.report = .error cause)) ∧
    (statusIn? answer ≠ some .completed →
      updatesIn answer = [] ∧ s'.bag workflow = (s.bag workflow).changed changes) ∧
    (statusIn? answer = some .completed →
      ∃ value, ending? = some (.returned value) ∧ updatesOf? value = .ok (updatesIn answer) ∧
        (∀ name, (s'.bag workflow).get? name =
          ((lastNaming? name (updatesIn answer)).map .str).or
            (((s.bag workflow).changed changes).get? name)) ∧
        ∀ fields, value = .obj fields → (fields.map Prod.fst).Nodup → ∀ name,
          lastNaming? name (updatesIn answer) = (lastNaming? name fields).map Json.display)
  others : ∀ other, other ≠ workflow → s'.states.get? other = s.states.get? other
  nodes : ∀ id, s'.states.node? id = s.states.node? id

/-- **Only a completed action merges what its handler returns.**  An execution in the foreground
    comes to an outcome unless something cannot be shown, and unless its handler waits for ever, it
    is skipped, completed, failed or cancelled.  The variables of its instance are as a course of the
    handler changed them at once, and if the action completed with an object, those that a text
    names have the last such text; it is that of the last field if the fields have different names.
    Nothing else happens to any instance. -/
theorem execute_merges_when_completed {options : Options} {q : Request} {workflow : String}
    (s : ExecutionState) (hforeground : options.background = false)
    (hworkflow : q.workflow = some workflow) (hblank : Text.blank workflow = false) :
    MergesWhenCompleted q workflow s ((execute options q).run s).1 ((execute options q).run s).2 := by
  obtain ⟨changes, ending?, hcourse, hwrote, hstatus, hnone, hsome, herror⟩ :=
    (goes_execute s hforeground hworkflow hblank).merges hblank
  have hown := hwrote.own
  rw [VariableBag.changed_append] at hown
  refine ⟨fun outcome houtcome hends => ?_, ⟨changes, ending?, hcourse, herror, fun hne => ?_,
    fun hcompleted => ?_⟩, hwrote.others, hwrote.node?_eq⟩
  · rw [houtcome] at hstatus
    simpa [statusIn?, Except.toOption, hends] using hstatus
  · rw [hnone hne] at hown
    exact ⟨hnone hne, hown⟩
  · obtain ⟨value, hending, hupdates⟩ := hsome hcompleted
    refine ⟨value, hending, hupdates, fun name => ?_, ?_⟩
    · rw [hown, mergedChanges, VariableBag.changed_writes, get?_putAll_merged]
    · rintro fields rfl hnodup name
      rw [updatesOf_of_ok hupdates, updatesOf_of_nodup hnodup, lastNaming?_map]

/-- A handler writes a variable at once, pauses, and returns an object with two spellings of its
    name.  The last of them counts, and the field with a blank name is passed over. -/
theorem execute_merges_when_completed_spellings :
    let behaviour : Behaviour := .write "City" (.str "Oslo") fun _ => .pause
      (.finish (.obj [("CITY", .null), (" ", .str "nowhere"), ("city", .str "Rome")])) .giveUp
    let handler : Handler := ⟨"greet", none, none, fun _ => behaviour⟩
    let node : Node := ⟨"N", some "N", some "\x7b\"action\": \"greet\"\x7d", none⟩
    let q : Request := ⟨some "w", some node, .absent, none⟩
    let s : ExecutionState := { ExecutionState.empty with
      registry := KeyedMap.empty.put "greet" ⟨"greet", .shared handler, []⟩ }
    ∃ answer s', (execute ⟨.unlimited, false⟩ q).run s = (answer, s') ∧
      MergesWhenCompleted q "w" s answer s' ∧ statusIn? answer = some .completed ∧
        (s'.bag "w").keys = ["City"] ∧
          ((s'.bag "w").get? "CITY").bind (·.string?) = some "Rome" := by
  intro behaviour handler node q s
  have hmerges : MergesWhenCompleted q "w" s ((execute ⟨.unlimited, false⟩ q).run s).1
      ((execute ⟨.unlimited, false⟩ q).run s).2 :=
    execute_merges_when_completed s rfl rfl (by decide)
  exact ⟨_, _, rfl, hmerges, by decide +kernel, by decide +kernel, by decide +kernel⟩

-- the last field gives its text to the name of the first, and the one in between is merged last
example : lastNaming? "true" (updatesOf (Script.Result.toObject (.ofList
    [(.bool true, .str "Oslo"), (.text "TRUE", .str "Rome"), (.text "True", .str "Bern")]))) =
      some "Rome" := by
  decide +kernel

/-- **A handler that returns a number of 4301 digits lets its execution fail.**  There is no
    outcome, and nothing is merged. -/
theorem no_outcome_of_long_number :
    let behaviour : Behaviour := .finish (.obj [("x", .int (10 ^ Text.maxDigits)), ("y", .str "1")])
    let handler : Handler := ⟨"greet", none, none, fun _ => behaviour⟩
    let node : Node := ⟨"N", some "N", some "\x7b\"action\": \"greet\"\x7d", none⟩
    let q : Request := ⟨some "w", some node, .absent, none⟩
    let s : ExecutionState := { ExecutionState.empty with
      registry := KeyedMap.empty.put "greet" ⟨"greet", .shared handler, []⟩ }
    ((execute ⟨.unlimited, false⟩ q).run s).1 = .error (.text .tooManyDigits) ∧
      (((execute ⟨.unlimited, false⟩ q).run s).2.bag "w").keys = [] := by
  intro behaviour handler node q s
  exact ⟨by decide +kernel, by decide +kernel⟩

end ActivityFlow
