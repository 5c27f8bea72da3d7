import ActivityFlow.Json.Reader
import ActivityFlow.Text.Blank

/-!
# Notes

The body of a note carries data and prose.  A note that begins with a JSON object gives that object
to the node as its metadata, and what follows it, behind an optional `|`, is prose.  Every other
note is prose from end to end.

* `leadingObject?` — the shortest piece in front of a text whose braces balance.  Braces inside
  strings do not count.
* `splitNote` — the two parts of a body.
-/

namespace ActivityFlow.Diagram

/-! ## Balanced braces -/

/-- Where a scan for balanced braces stands. -/
structure BraceScan where
  depth : Nat
  inString : Bool
  escaped : Bool

/-- The effect of one character on the scan. -/
def BraceScan.step (scan : BraceScan) (c : Char) : BraceScan :=
  if scan.inString then
    if scan.escaped then { scan with escaped := false }
    else if c == '\x5c' then { scan with escaped := true }
    else if c == '\x22' then { scan with inString := false }
    else scan
  else if c == '\x22' then { scan with inString := true }
  else if c == '\x7b' then { scan with depth := scan.depth + 1 }
  else if c == '\x7d' then { scan with depth := scan.depth - 1 }
  else scan

/-- Whether a character closes the outermost brace. -/
def BraceScan.closes (scan : BraceScan) (c : Char) : Bool :=
  !scan.inString && c == '\x7d' && scan.depth == 1

/-- The piece up to the brace that closes the outermost one, and the rest. -/
def closingPiece? : BraceScan → List Char → Option (List Char × List Char)
  | _, [] => none
  | scan, c :: cs =>
    if scan.closes c then some ([c], cs)
    else (closingPiece? (scan.step c) cs).map fun found => (c :: found.1, found.2)

/-- The piece in front of a text that opens with a brace, up to the brace that balances it. -/
def leadingObject? : List Char → Option (List Char × List Char)
  | '\x7b' :: cs => closingPiece? ⟨0, false, false⟩ ('\x7b' :: cs)
  | _ => none

theorem append_of_closingPiece? {scan : BraceScan} {cs piece rest : List Char}
    (h : closingPiece? scan cs = some (piece, rest)) : piece ++ rest = cs := by
  induction cs generalizing scan piece with
  | nil => simp [closingPiece?] at h
  | cons c cs ih =>
    rw [closingPiece?] at h
    split at h
    · simp only [Option.some.injEq, Prod.mk.injEq] at h
      obtain ⟨rfl, rfl⟩ := h
      rfl
    · obtain ⟨⟨p, r⟩, hp, he⟩ := Option.map_eq_some_iff.1 h
      simp only [Prod.mk.injEq] at he
      obtain ⟨rfl, rfl⟩ := he
      simp [ih hp]

/-- The piece and the rest make up the text. -/
theorem append_of_leadingObject? {cs piece rest : List Char}
    (h : leadingObject? cs = some (piece, rest)) : piece ++ rest = cs := by
  unfold leadingObject? at h
  split at h
  · exact append_of_closingPiece? h
  · simp at h

/-! ## The two parts of a note -/

/-- Prose, unless nothing is left of it. -/
def prose? (cs : List Char) : Option String :=
  if cs.isEmpty then none else some (String.ofList cs)

/-- The prose behind the metadata, without the separator. -/
def dropSeparator : List Char → List Char
  | '|' :: cs => Text.trim cs
  | cs => cs

/-- **The metadata and the prose of a note.** -/
def splitNote (text : String) : Option String × Option String :=
  let body := Text.trim text.toList
  match leadingObject? body with
  | none => (none, prose? body)
  | some (piece, rest) =>
    if (Json.read? piece).any Json.isObject then
      (some (String.ofList piece), prose? (dropSeparator (Text.trim rest)))
    else (none, prose? body)

end ActivityFlow.Diagram
