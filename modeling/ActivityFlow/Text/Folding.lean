import ActivityFlow.Text.FoldingTable

/-!
# Case folding

Two spellings name the same variable when they are equal after case folding.  Folding is full: the
sharp s folds to two letters, so `Straße` and `STRASSE` fold to the same text.

* `foldChar` — the folded form of one character, a text of one to three characters.
* `fold` — the folded form of a string, character by character.
-/

namespace ActivityFlow.Text

/-- The code point that a run of the table gives for a code point, if the run contains it. -/
def runImage? (n : Nat) : Nat × Nat × Nat × Nat → Option Nat
  | (first, last, step, image) =>
    if first ≤ n && n ≤ last && (n - first) % step == 0 then some (image + (n - first)) else none

/-- The folded form of a character. -/
def foldChar (c : Char) : List Char :=
  if c.toNat < 128 then [c.toLower]
  else match foldingRuns.findSome? (runImage? c.toNat) with
    | some n => [Char.ofNat n]
    | none => match foldingExpansions.lookup c.toNat with
      | some ns => ns.map Char.ofNat
      | none => [c]

/-- The folded form of a text. -/
def foldText (cs : List Char) : List Char :=
  cs.flatMap foldChar

/-- The folded form of a string. -/
def fold (s : String) : String :=
  String.ofList (foldText s.toList)

@[simp] theorem toList_fold (s : String) : (fold s).toList = foldText s.toList := by
  simp [fold]

end ActivityFlow.Text
