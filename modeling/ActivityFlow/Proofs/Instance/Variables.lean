import ActivityFlow.Instance.Variables
import ActivityFlow.Proofs.History
import ActivityFlow.Proofs.Instance.Listing

/-!
# What a bag of variables remembers

A bag is changed by writing variables and by removing them.  It remembers of its history what was
written last under a name, in any spelling of it, unless the name was removed since
(`VariableBag.get?_after`).  Removing a variable that is not there is refused and changes nothing.

* `BagChange` — a write or a removal.
* `lastWrite` — what a history says of a name, read from its end.
-/

namespace ActivityFlow

/-- A change to a bag of variables. -/
inductive BagChange where
  | write (name : String) (value : Json)
  | remove (name : String)

namespace VariableBag

/-- The bag behind a change; a removal that is refused leaves it as it was. -/
def change (bag : VariableBag) : BagChange → VariableBag
  | .write name value => bag.put name value
  | .remove name => ((bag.take name).toOption.map Prod.snd).getD bag

/-- A bag with several changes made to it. -/
def changed (bag : VariableBag) (changes : List BagChange) : VariableBag :=
  changes.foldl change bag

/-- The bag behind several changes. -/
def after (changes : List BagChange) : VariableBag :=
  changed .empty changes

end VariableBag

/-- What a change says of a name, if it says anything: the value that the name has from then on, or
    that it has none. -/
def BagChange.tells? (name : String) : BagChange → Option (Option Json)
  | write other value => if Text.fold name = Text.fold other then some (some value) else none
  | remove other => if Text.fold name = Text.fold other then some none else none

/-- **What was written last under a name**, in any spelling of it, unless the name was removed
    since. -/
def lastWrite (changes : List BagChange) (name : String) : Option Json :=
  lastWord (BagChange.tells? name) changes

namespace VariableBag

lemma changed_append (bag : VariableBag) (changes more : List BagChange) :
    bag.changed (changes ++ more) = (bag.changed changes).changed more :=
  List.foldl_append

/-- A name may be removed whether it is there or not. -/
lemma change_remove (bag : VariableBag) (name : String) :
    bag.change (.remove name) = bag.erase name := by
  cases hget : bag.get? name with
  | none => simp [change, take, hget, Except.toOption, KeyedMap.erase_of_get? hget]
  | some value => simp [change, take, hget, Except.toOption]

/-- What is found under a name behind a change: what the change says of it, or else what was found
    there before. -/
lemma get?_change (bag : VariableBag) (change : BagChange) (name : String) :
    (bag.change change).get? name = (change.tells? name).getD (bag.get? name) := by
  cases change with
  | write other value =>
      rw [VariableBag.change, KeyedMap.get?_put, BagChange.tells?]
      split <;> rfl
  | remove other =>
      rw [change_remove, KeyedMap.get?_erase, BagChange.tells?]
      split <;> rfl

/-- **A bag answers with what was written last.** -/
theorem get?_after (changes : List BagChange) (name : String) :
    (after changes).get? name = lastWrite changes name :=
  lastWord_of_step (fun bag => bag.get? name) (fun bag change => get?_change bag change name) rfl
    changes

end VariableBag

end ActivityFlow
