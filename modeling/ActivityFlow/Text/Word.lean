import ActivityFlow.Text.WordRanges

/-!
# Word characters

A word is made of letters, digits, the other characters with a numeric value, and the underscore.
`isWordChar` decides this for every character; inside ASCII it needs no table.
-/

namespace ActivityFlow.Text

/-- Whether a code point lies in one of the ranges. -/
def inRanges (ranges : List (Nat × Nat)) (n : Nat) : Bool :=
  ranges.any fun r => r.1 ≤ n && n ≤ r.2

/-- Whether a character belongs to a word. -/
def isWordChar (c : Char) : Bool :=
  if c.toNat < 128 then c.isAlphanum || c == '_' else inRanges wordRanges c.toNat

/-- Whether a text starts with a word character. -/
def startsWord : List Char → Bool
  | [] => false
  | c :: _ => isWordChar c

end ActivityFlow.Text
