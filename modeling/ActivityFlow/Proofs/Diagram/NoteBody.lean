import ActivityFlow.Diagram.Note
import ActivityFlow.Proofs.Diagram.Reading
import ActivityFlow.Proofs.Json.Outline

/-!
# Bodies of notes

A note whose first line is a written object and whose other lines are prose is split into the two
(`splitNote_of_object`).  The scan for the closing brace knows strings by their quotes and escapes
by the backslash, so nothing that stands inside a string closes the object, and outside of strings
the braces of a written value balance.
-/

namespace ActivityFlow

namespace Diagram

open Json Text

/-! ## The scan for the closing brace -/

/-- The scan passes over a piece, and the outermost brace is not closed in it. -/
def Passes (scan : BraceScan) (cs : List Char) (scan' : BraceScan) : Prop :=
  ∀ rest, closingPiece? scan (cs ++ rest)
    = (closingPiece? scan' rest).map fun found => (cs ++ found.1, found.2)

lemma passes_nil (scan : BraceScan) : Passes scan [] scan := by
  intro rest
  simp

lemma Passes.append {scan scan' scan'' : BraceScan} {cs ds : List Char}
    (hcs : Passes scan cs scan') (hds : Passes scan' ds scan'') :
    Passes scan (cs ++ ds) scan'' := by
  intro rest
  rw [List.append_assoc, hcs, hds]
  simp [Option.map_map, Function.comp_def]

lemma passes_char {scan scan' : BraceScan} {c : Char} (hcloses : scan.closes c = false)
    (hstep : scan.step c = scan') : Passes scan [c] scan' := by
  intro rest
  rw [List.singleton_append, closingPiece?, hcloses, hstep]
  rfl

/-- Nothing that may stand between quotes ends the string. -/
lemma passes_of_quotable {cs : List Char} (h : Quotable cs) (depth : Nat) :
    Passes ⟨depth, true, false⟩ cs ⟨depth, true, false⟩ := by
  induction h with
  | nil => exact passes_nil _
  | @plain c cs _ hquote hbackslash _ ih =>
      have hstep : BraceScan.step ⟨depth, true, false⟩ c = ⟨depth, true, false⟩ := by
        simp [BraceScan.step, hquote, hbackslash]
      exact (passes_char rfl hstep).append ih
  | @escaped c cs _ _ ih =>
      -- the backslash covers the character behind it, whatever that is
      have hbackslash : Passes ⟨depth, true, false⟩ ['\x5c'] ⟨depth, true, true⟩ := passes_char rfl rfl
      have hc : Passes ⟨depth, true, true⟩ [c] ⟨depth, true, false⟩ := passes_char rfl rfl
      exact hbackslash.append (hc.append ih)

/-- Inside a brace, balanced text leaves the scan where it was. -/
lemma passes_of_balanced {cs : List Char} (h : Balanced cs) : ∀ depth : Nat,
    Passes ⟨depth + 1, false, false⟩ cs ⟨depth + 1, false, false⟩ := by
  induction h with
  | nil => exact fun _ => passes_nil _
  | @char c _ hquote hopen hclose =>
      intro depth
      have hcloses : BraceScan.closes ⟨depth + 1, false, false⟩ c = false := by
        simp [BraceScan.closes, hclose]
      have hstep : BraceScan.step ⟨depth + 1, false, false⟩ c = ⟨depth + 1, false, false⟩ := by
        simp [BraceScan.step, hquote, hopen, hclose]
      exact passes_char hcloses hstep
  | quoted hcs =>
      intro depth
      have hopening : Passes ⟨depth + 1, false, false⟩ ['\x22'] ⟨depth + 1, true, false⟩ :=
        passes_char rfl rfl
      have hclosing : Passes ⟨depth + 1, true, false⟩ ['\x22'] ⟨depth + 1, false, false⟩ :=
        passes_char rfl rfl
      exact hopening.append ((passes_of_quotable hcs _).append hclosing)
  | braced _ ih =>
      intro depth
      have hopening : Passes ⟨depth + 1, false, false⟩ ['\x7b'] ⟨depth + 2, false, false⟩ :=
        passes_char rfl rfl
      have hclosing : Passes ⟨depth + 2, false, false⟩ ['\x7d'] ⟨depth + 1, false, false⟩ :=
        passes_char rfl rfl
      exact hopening.append ((ih (depth + 1)).append hclosing)
  | append _ _ ihcs ihds => exact fun depth => (ihcs depth).append (ihds depth)

/-- **A written object in front of a text is found**, up to its last brace. -/
theorem leadingObject?_write {fields : List (String × Json)} (h : Textual (.obj fields))
    (rest : List Char) :
    leadingObject? ((Json.obj fields).write ++ rest) = some ((Json.obj fields).write, rest) := by
  obtain ⟨inside, hinside, hbalanced⟩ := exists_write_obj h
  have hopening : Passes ⟨0, false, false⟩ ['\x7b'] ⟨1, false, false⟩ := passes_char rfl rfl
  have hpasses := hopening.append (passes_of_balanced hbalanced 0) ('\x7d' :: rest)
  have hclosing : closingPiece? ⟨0 + 1, false, false⟩ ('\x7d' :: rest)
      = some (['\x7d'], rest) := rfl
  rw [hclosing] at hpasses
  have htext : (Json.obj fields).write ++ rest
      = '\x7b' :: (inside ++ '\x7d' :: rest) := by simp [hinside]
  rw [htext, leadingObject?, hinside]
  simpa using hpasses

/-! ## The two parts -/

lemma dropSeparator_of_head {cs : List Char} (h : cs.head? ≠ some '|') : dropSeparator cs = cs := by
  unfold dropSeparator
  split
  · exact absurd rfl h
  · rfl

/-- Prose lines joined, if there are any. -/
def joinedProse? (prose : List (List Char)) : Option String :=
  if prose = [] then none else some (String.ofList (['\n'].intercalate prose))

/-- **An object and the prose behind it are told apart.**  The prose must not begin with the mark
    that may separate the two. -/
theorem splitNote_of_object {fields : List (String × Json)} (h : Textual (.obj fields))
    {prose : List (List Char)} (hprose : ∀ l ∈ prose, Text.Tight l)
    (hfirst : ∀ l ∈ prose.head?, l.head? ≠ some '|') :
    splitNote (String.ofList (['\n'].intercalate ((Json.obj fields).write :: prose)))
      = (some (Json.obj fields).render, joinedProse? prose) := by
  have hobject : (Json.read? (Json.obj fields).write).any Json.isObject = true := by
    rw [Json.read?, Json.read_write h]
    rfl
  have hbody := tight_intercalate (List.cons_ne_nil (Json.obj fields).write prose)
    (List.forall_mem_cons.mpr ⟨Json.tight_write_obj h, hprose⟩)
  rw [splitNote, String.toList_ofList, hbody.trim_eq]
  cases prose with
  | nil =>
      have hleading := leadingObject?_write h []
      rw [List.append_nil] at hleading
      rw [List.intercalate_singleton, hleading]
      dsimp only
      rw [if_pos hobject]
      rfl
  | cons line prose =>
      have hjoined := tight_intercalate (List.cons_ne_nil line prose) hprose
      have hbar : (['\n'].intercalate (line :: prose)).head? ≠ some '|' := by
        obtain ⟨behind, hbehind⟩ := exists_intercalate_cons ['\n'] line prose
        rw [hbehind, List.head?_append_of_ne_nil _ (hprose line List.mem_cons_self).nonempty]
        exact hfirst line rfl
      have htrim : trim (['\n'] ++ ['\n'].intercalate (line :: prose))
          = ['\n'].intercalate (line :: prose) := by
        rw [List.singleton_append, trim, skipBlank_cons_of_blank _ (by decide), ← trim,
          hjoined.trim_eq]
      rw [List.intercalate_cons_cons, List.append_assoc, leadingObject?_write h]
      dsimp only
      rw [if_pos hobject, htrim, dropSeparator_of_head hbar, joinedProse?, prose?,
        List.isEmpty_eq_false_iff.mpr hjoined.nonempty]
      rfl

end Diagram

end ActivityFlow
