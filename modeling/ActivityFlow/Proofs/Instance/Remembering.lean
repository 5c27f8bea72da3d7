import ActivityFlow.Instance.Operations
import ActivityFlow.Proofs.Instance.Variables

/-!
# A bag of variables through its operations

Whatever is done to a bag of variables comes down to a history of writes and removals.  A bag that
was taken through any operations lists the names which the history brought in for good, each under
the spelling and at the place of the write that brought it in, with what was written last under it.

* `BagOperation.changes` — the writes and removals that an operation adds to a history.  What looks
  a variable up and writes it only if it is not there, and what removes them all, is read off from
  the history so far.
* `historyOf` — the history of a bag behind its first variables and several operations.
* `BagOperation.run_program` — every operation in one step.  One that fails has changed nothing.
* `BagOperation.leftBy_program` — an operation carries the bag of a history to the bag of the
  history with its changes added.
* `VariableBag.clear_eq_empty` — taking out the first variable ends with the empty bag, because the
  spelling that a variable is listed with finds it again.
-/

namespace ActivityFlow

/-! ## The history of a bag -/

/-- A change of a bag, as far as the names are concerned. -/
def BagChange.keyChange : BagChange → KeyChange String
  | write name _ => .written name
  | remove name => .removed name

/-- The names that a history brought in for good, as they were spelled then. -/
def listedBy (history : List BagChange) : List String :=
  founders Text.fold (history.map BagChange.keyChange)

/-- The changes that an operation adds to a history. -/
def BagOperation.changes (history : List BagChange) : BagOperation → List BagChange
  | put name value => [.write name value]
  | remove name => [.remove name]
  | putAll pairs => pairs.map fun pair => .write pair.1 pair.2
  | take name _ => [.remove name]
  | getOrPut name default =>
    if (lastWrite history name).isSome then [] else [.write name default]
  | clear => (listedBy history).map .remove

/-- The name that an operation does not do without. -/
def BagOperation.needs? : BagOperation → Option String
  | remove name => some name
  | take name none => some name
  | _ => none

/-- The history of a bag behind its first variables and several operations. -/
def historyOf (initial : List (String × Json)) (operations : List BagOperation) :
    List BagChange :=
  operations.foldl (fun history operation => history ++ operation.changes history)
    (initial.map fun pair => .write pair.1 pair.2)

lemma historyOf_concat (initial : List (String × Json)) (operations : List BagOperation)
    (operation : BagOperation) :
    historyOf initial (operations ++ [operation]) =
      historyOf initial operations ++ operation.changes (historyOf initial operations) := by
  rw [historyOf, List.foldl_append]
  rfl

namespace VariableBag

/-! ## The bag of a history -/

lemma after_append (history changes : List BagChange) :
    after (history ++ changes) = (after history).changed changes :=
  changed_append .empty history changes

lemma changed_writes (bag : VariableBag) (pairs : List (String × Json)) :
    bag.changed (pairs.map fun pair => .write pair.1 pair.2) = bag.putAll pairs := by
  rw [changed, List.foldl_map, KeyedMap.putAll]
  rfl

lemma keys_changed_removals (bag : VariableBag) (names : List String) :
    (bag.changed (names.map .remove)).keys =
      bag.keys.filter fun spelling => ∀ name ∈ names, Text.fold spelling ≠ Text.fold name := by
  induction names generalizing bag with
  | nil => simp [changed]
  | cons name names ih =>
      rw [List.map_cons, changed, List.foldl_cons, ← changed, ih, change_remove,
        KeyedMap.keys_erase, List.filter_filter]
      refine List.filter_congr fun spelling _ => ?_
      simp [Bool.and_comm]

/-- A bag is empty when everything that it lists was removed. -/
lemma changed_removals (bag : VariableBag) : bag.changed (bag.keys.map .remove) = .empty := by
  refine KeyedMap.eq_empty_of_keys ?_
  rw [keys_changed_removals, List.filter_eq_nil_iff]
  simp only [decide_eq_true_eq]
  exact fun spelling hmem hall => hall spelling hmem rfl

/-- A bag lists what its history brought in for good. -/
lemma recorded_after (history : List BagChange) :
    (after history).Recorded (history.map BagChange.keyChange) := by
  induction history using List.reverseRecOn with
  | nil => exact .empty
  | append_singleton history last ih =>
      rw [after_append, changed, List.foldl_cons, List.foldl_nil, List.map_append,
        List.map_singleton]
      cases last with
      | write name value => exact ih.put name value
      | remove name => rw [change_remove]; exact ih.erase name

lemma keys_after (history : List BagChange) : (after history).keys = listedBy history :=
  recorded_after history

/-! ## Programs on a bag -/

/-- The spelling that a variable is listed with finds the variable again. -/
lemma run_discardFirst (bag : VariableBag) :
    discardFirst.run bag =
      match bag.entries with
      | [] => .ok none bag
      | entry :: _ => .ok (some entry) (bag.erase entry.1) := by
  cases hentries : bag.entries with
  | nil => simp [discardFirst, KeyedMap.keys, hentries]
  | cons entry rest =>
      have hget : bag.get? entry.1 = some entry.2 :=
        KeyedMap.get?_of_mem_entries (hentries ▸ List.mem_cons_self)
      simp only [discardFirst, EStateM.run_bind, EStateM.run_get, KeyedMap.keys, hentries,
        List.map_cons, run_fetch, hget, run_discard, EStateM.run_pure]

/-- **Clearing ends with the empty bag.** -/
theorem clear_eq_empty (bag : VariableBag) : bag.clear = .empty := by
  fun_induction clear bag with
  | case1 bag entry rest hrun ih => exact ih
  | case2 bag rest hrun =>
      rw [run_discardFirst] at hrun
      split at hrun
      · rename_i hentries
        cases hrun
        exact KeyedMap.eq_empty_of_keys (by rw [KeyedMap.keys, hentries, List.map_nil])
      · cases hrun
  | case3 bag e rest hrun =>
      rw [run_discardFirst] at hrun
      split at hrun <;> cases hrun

lemma run_storeAll (bag : VariableBag) (pairs : List (String × Json)) :
    (pairs.forM fun pair => store pair.1 pair.2).run bag = .ok () (bag.putAll pairs) := by
  induction pairs generalizing bag with
  | nil => rfl
  | cons pair pairs ih => exact ih (bag.put pair.1 pair.2)

end VariableBag

/-- Every operation in one step. -/
theorem BagOperation.run_program (operation : BagOperation) (bag : VariableBag) :
    operation.program.run bag =
      match operation with
      | put name value => .ok none (bag.put name value)
      | remove name =>
        match bag.get? name with
        | some _ => .ok none (bag.erase name)
        | none => .error (.missing (Text.fold name)) bag
      | putAll pairs => .ok none (bag.putAll pairs)
      | take name default? =>
        match bag.get? name, default? with
        | some value, _ => .ok value (bag.erase name)
        | none, some default => .ok default bag
        | none, none => .error (.missing (Text.fold name)) bag
      | getOrPut name default =>
        match bag.get? name with
        | some value => .ok value bag
        | none => .ok default (bag.put name default)
      | clear => .ok none .empty := by
  cases operation with
  | put name value => rfl
  | putAll pairs =>
      simp only [program, EStateM.run_bind, VariableBag.run_storeAll, EStateM.run_pure]
  | clear =>
      simp only [program, EStateM.run_bind, EStateM.run_modify, VariableBag.clear_eq_empty,
        EStateM.run_pure]
  | remove name =>
      simp only [program, EStateM.run_bind, VariableBag.run_discard]
      cases bag.get? name <;> rfl
  | take name default? =>
      simp only [program, EStateM.run_bind, run_observing, VariableBag.run_fetch]
      cases hget : bag.get? name with
      | none => cases default? <;> rfl
      | some value => simp only [EStateM.run_bind, VariableBag.run_discard, hget, EStateM.run_pure]
  | getOrPut name default =>
      simp only [program, EStateM.run_bind, run_observing, VariableBag.run_fetch]
      cases bag.get? name <;> rfl

/-! ## The bag behind several operations -/

/-- The changes that an operation makes to a bag. -/
def BagOperation.changesTo (bag : VariableBag) : BagOperation → List BagChange
  | put name value => [.write name value]
  | remove name => [.remove name]
  | putAll pairs => pairs.map fun pair => .write pair.1 pair.2
  | take name _ => [.remove name]
  | getOrPut name default => if (bag.get? name).isSome then [] else [.write name default]
  | clear => bag.keys.map .remove

/-- What an operation changes can be read off from the history of the bag. -/
lemma BagOperation.changes_eq_changesTo (operation : BagOperation) (history : List BagChange) :
    operation.changes history = operation.changesTo (.after history) := by
  cases operation with
  | getOrPut name default => simp only [changes, changesTo, VariableBag.get?_after]
  | clear => simp only [changes, changesTo, VariableBag.keys_after]
  | _ => rfl

/-- **An operation leaves behind a bag with its changes made to it.** -/
theorem BagOperation.leftBy_eq_changed (operation : BagOperation) (bag : VariableBag) :
    leftBy operation.program bag = bag.changed (operation.changesTo bag) := by
  have hremove (name : String) : bag.changed [.remove name] = bag.erase name :=
    bag.change_remove name
  cases operation with
  | put name value => rfl
  | putAll pairs => simp only [leftBy, run_program, changesTo, VariableBag.changed_writes]
  | clear => simp only [leftBy, run_program, changesTo, VariableBag.changed_removals]
  | remove name =>
      simp only [leftBy, run_program, changesTo, hremove]
      cases hget : bag.get? name with
      | none => exact (KeyedMap.erase_of_get? hget).symm
      | some value => rfl
  | take name default? =>
      simp only [leftBy, run_program, changesTo, hremove]
      cases hget : bag.get? name with
      | none => cases default? <;> exact (KeyedMap.erase_of_get? hget).symm
      | some value => rfl
  | getOrPut name default =>
      simp only [leftBy, run_program, changesTo]
      cases bag.get? name <;> rfl

/-- **An operation adds its changes to the history.** -/
theorem BagOperation.leftBy_program (operation : BagOperation) (history : List BagChange) :
    leftBy operation.program (.after history) = .after (history ++ operation.changes history) := by
  rw [VariableBag.after_append, operation.changes_eq_changesTo, operation.leftBy_eq_changed]

/-- The bag behind several operations is the bag of their history. -/
theorem leftByAll_bagOperations (initial : List (String × Json))
    (operations : List BagOperation) :
    leftByAll BagOperation.program operations (.ofList initial) =
      VariableBag.after (historyOf initial operations) := by
  induction operations using List.reverseRecOn with
  | nil => exact (VariableBag.changed_writes .empty initial).symm
  | append_singleton operations operation ih =>
      rw [leftByAll_concat, ih, operation.leftBy_program, historyOf_concat]

/-- An operation fails exactly on a name that it does not do without and that nothing is written
    under, and then it leaves the bag as it was. -/
theorem BagOperation.run_eq_error_iff (operation : BagOperation) (history : List BagChange)
    (e : VariableBag.BagError) (rest : VariableBag) :
    operation.program.run (.after history) = .error e rest ↔
      rest = .after history ∧
      ∃ name, operation.needs? = some name ∧ lastWrite history name = none ∧
        e = .missing (Text.fold name) := by
  simp only [← VariableBag.get?_after, run_program]
  cases operation with
  | put name value => simp [needs?]
  | putAll pairs => simp [needs?]
  | clear => simp [needs?]
  | remove name =>
      cases hget : (VariableBag.after history).get? name <;> simp [needs?, hget, eq_comm, and_comm]
  | take name default? =>
      cases hget : (VariableBag.after history).get? name <;> cases default? <;>
        simp [needs?, hget, eq_comm, and_comm]
  | getOrPut name default =>
      cases hget : (VariableBag.after history).get? name <;> simp [needs?, hget]

/-- What a bag shows of its history. -/
structure VariableBag.Shows (bag : VariableBag) (history : List BagChange) : Prop where
  /-- No two names that are listed are spellings of one name. -/
  distinct : (bag.keys.map Text.fold).Nodup
  /-- Under every spelling of a name, what was written last under any of them is found. -/
  found : ∀ name, bag.get? name = lastWrite history name
  /-- The names are listed as they were brought in. -/
  listed : bag.keys = listedBy history
  counted : bag.size = (listedBy history).length
  entered : bag.entries =
    (listedBy history).filterMap fun name => (lastWrite history name).map (name, ·)

lemma VariableBag.shows_after (history : List BagChange) :
    (VariableBag.after history).Shows history where
  distinct := KeyedMap.nodup_keys _
  found := get?_after history
  listed := keys_after history
  counted := by rw [← KeyedMap.length_keys, keys_after]
  entered := by simp only [KeyedMap.entries_eq, keys_after, get?_after]

/-- **A bag is a map in order of insertion, up to the spelling of the names.**  Behind any first
    variables and any operations it shows the history of both; an operation fails only on a name
    without a variable, and changes nothing then; and clearing ends, with the empty bag. -/
theorem bag_shows_history (initial : List (String × Json)) (operations : List BagOperation) :
    let bag := leftByAll BagOperation.program operations (.ofList initial)
    let history := historyOf initial operations
    bag.Shows history ∧
      (∀ (operation : BagOperation) (e : VariableBag.BagError) (rest : VariableBag),
        operation.program.run bag = .error e rest ↔
          rest = bag ∧ ∃ name, operation.needs? = some name ∧ lastWrite history name = none ∧
            e = .missing (Text.fold name)) ∧
      BagOperation.clear.program.run bag = .ok none .empty := by
  intro bag history
  have hbag : bag = .after history := leftByAll_bagOperations initial operations
  rw [hbag]
  exact ⟨VariableBag.shows_after history,
    fun operation e rest => operation.run_eq_error_iff history e rest,
    BagOperation.clear.run_program (.after history)⟩

example : listedBy (historyOf [("City", .null)]
    [.put "Road" .null, .put "CITY" .null, .remove "city", .getOrPut "CITY" .null]) =
      ["Road", "CITY"] := by
  decide +kernel

end ActivityFlow
