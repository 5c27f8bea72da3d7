import ActivityFlow.Json.Printer
import ActivityFlow.Text.Blank

/-!
# Labels and ids

What the tokens of a diagram are called.

* `normalizeLabel` — a token without the `:` in front and the `;` behind it.
* `makeId` — an id for a node whose label cannot serve as one: the label reduced to ASCII letters,
  digits and underscores, an underscore, and a number.
* `freshIndex` — the least number from a given one on that makes such an id unused.

**Why the search ends.**  Ids of one label with different numbers differ, so every id met on the way
can be struck from the list of used ids.  The list grows shorter with each step.
-/

namespace ActivityFlow.Diagram

/-! ## Labels -/

/-- The text behind a `:` in front, trimmed. -/
def dropColon : List Char → List Char
  | ':' :: cs => Text.trim cs
  | cs => cs

/-- The text before a `;` at its end, trimmed. -/
def dropSemicolon (cs : List Char) : List Char :=
  if cs.getLast? = some ';' then Text.trim cs.dropLast else cs

/-- The label that a token stands for. -/
def normalizeLabel (token : String) : String :=
  String.ofList (dropSemicolon (dropColon (Text.trim token.toList)))

/-! ## Ids -/

/-- Whether a character may stand in a made id. -/
def isIdChar (c : Char) : Bool :=
  c.isAlphanum || c == '_'

/-- The two kinds of characters that cannot stand in a made id. -/
inductive Gap where
  | blank
  | other
  deriving DecidableEq

/-- The kind of a character that cannot stand in a made id. -/
def gapOf (c : Char) : Gap :=
  if Text.isBlank c then .blank else .other

/-- The text with each run of blanks, and each run of other characters that cannot stand in an id,
replaced by one underscore.  `within` is the kind of run the text stands in. -/
def slug : (within : Option Gap) → List Char → List Char
  | _, [] => []
  | within, c :: cs =>
    if isIdChar c then c :: slug none cs
    else if within = some (gapOf c) then slug within cs
    else '_' :: slug (some (gapOf c)) cs

/-- A made id: the reduced label, or the word `node` for a label without characters, and a
number. -/
def makeId (label : String) (index : Int) : String :=
  let reduced := slug none label.toList
  let stem := if reduced.isEmpty then ['n', 'o', 'd', 'e'] else reduced
  String.ofList (stem ++ '_' :: Json.writeInt index)

theorem isIdChar_of_mem_slug {within : Option Gap} {cs : List Char} {c : Char}
    (h : c ∈ slug within cs) : isIdChar c = true := by
  induction cs generalizing within with
  | nil => simp [slug] at h
  | cons d cs ih =>
    rw [slug] at h
    split at h
    · rcases List.mem_cons.1 h with rfl | h
      · assumption
      · exact ih h
    · split at h
      · exact ih h
      · rcases List.mem_cons.1 h with rfl | h
        · rfl
        · exact ih h

/-- The least number from `index` on whose made id is not among the used ids. -/
def freshIndex (label : String) (used : List String) (index : Nat) : Nat :=
  if makeId label index ∈ used then
    freshIndex label (used.erase (makeId label index)) (index + 1)
  else index
termination_by used.length
decreasing_by
  rename_i h
  rw [List.length_erase_of_mem h]
  have := List.length_pos_of_mem h
  omega

/-- The search never goes back. -/
theorem le_freshIndex (label : String) (used : List String) (index : Nat) :
    index ≤ freshIndex label used index := by
  fun_induction freshIndex label used index with
  | case1 used index _ ih => omega
  | case2 used index _ => exact Nat.le_refl _

end ActivityFlow.Diagram
