import ActivityFlow.Proofs.Json.RoundTrip
import ActivityFlow.Proofs.Text.Pieces

/-!
# The outline of JSON text

What can be seen of a written value without reading it.  Inside a string the quote and the
backslash are escaped (`Quotable`), so a string ends where its quotes say, and outside of strings
the braces balance (`Balanced`).  Every character is printed ASCII, so a value stands on one line.

Numbers are left out, as they are for reading what was written.
-/

namespace ActivityFlow.Json

/-- A character of printed ASCII. -/
def isPrinted (c : Char) : Bool :=
  32 ≤ c.toNat && c.toNat < 127

/-! ## Inside a string -/

/-- Characters that may stand between quotes: each is escaped, or needs no escape. -/
inductive Quotable : List Char → Prop
  | nil : Quotable []
  | plain {c : Char} {cs : List Char} (hprinted : isPrinted c = true) (hquote : c ≠ '\x22')
      (hbackslash : c ≠ '\x5c') (hcs : Quotable cs) : Quotable (c :: cs)
  | escaped {c : Char} {cs : List Char} (hprinted : isPrinted c = true) (hcs : Quotable cs) :
      Quotable ('\x5c' :: c :: cs)

lemma Quotable.append {cs ds : List Char} (hcs : Quotable cs) (hds : Quotable ds) :
    Quotable (cs ++ ds) := by
  induction hcs with
  | nil => exact hds
  | plain hprinted hquote hbackslash _ ih => exact .plain hprinted hquote hbackslash ih
  | escaped hprinted _ ih => exact .escaped hprinted ih

lemma plain_digitChar : ∀ {d : Nat}, d < 16 →
    isPrinted d.digitChar = true ∧ d.digitChar ≠ '\x22' ∧ d.digitChar ≠ '\x5c' := by
  decide

lemma quotable_unitEscape {n : Nat} (h : n < 0x10000) : Quotable (unitEscape n) := by
  have hdigit {d : Nat} {cs : List Char} (hd : d < 16) (hcs : Quotable cs) :
      Quotable (d.digitChar :: cs) :=
    .plain (plain_digitChar hd).1 (plain_digitChar hd).2.1 (plain_digitChar hd).2.2 hcs
  rw [unitEscape, hexDigits_four h]
  exact .escaped rfl (hdigit (by omega) (hdigit (by omega) (hdigit (by omega)
    (hdigit (by omega) .nil))))

/-- Whatever a character is, it is written so that it may stand between quotes. -/
lemma quotable_writeChar (c : Char) : Quotable (writeChar c) := by
  have hmax : c.toNat < 0x110000 := by
    rcases c.valid with hlow | hhigh
    · exact Nat.lt_trans hlow (by decide)
    · exact hhigh.2
  have hescape (e : Char) (he : isPrinted e = true) : Quotable ['\x5c', e] := .escaped he .nil
  rw [writeChar]
  split
  · exact hescape _ rfl
  split
  · exact hescape _ rfl
  split
  · exact hescape _ rfl
  split
  · exact hescape _ rfl
  split
  · exact hescape _ rfl
  split
  · exact hescape _ rfl
  split
  · exact hescape _ rfl
  rename_i hquote hbackslash _ _ _ _ _
  split
  next h => exact .plain h (by simpa using hquote) (by simpa using hbackslash) .nil
  split
  next h => exact quotable_unitEscape h
  next h => exact (quotable_unitEscape (by omega)).append (quotable_unitEscape (by omega))

lemma quotable_flatMap_writeChar (s : List Char) : Quotable (s.flatMap writeChar) := by
  induction s with
  | nil => exact .nil
  | cons c s ih => exact (quotable_writeChar c).append ih

/-! ## Outside of strings -/

/-- Text in which braces outside of strings balance. -/
inductive Balanced : List Char → Prop
  | nil : Balanced []
  | char {c : Char} (hprinted : isPrinted c = true) (hquote : c ≠ '\x22') (hopen : c ≠ '\x7b')
      (hclose : c ≠ '\x7d') : Balanced [c]
  | quoted {cs : List Char} (hcs : Quotable cs) : Balanced ('\x22' :: (cs ++ ['\x22']))
  | braced {cs : List Char} (hcs : Balanced cs) : Balanced ('\x7b' :: (cs ++ ['\x7d']))
  | append {cs ds : List Char} (hcs : Balanced cs) (hds : Balanced ds) : Balanced (cs ++ ds)

/-- A printed character that is no quote and no brace. -/
def isPlain (c : Char) : Bool :=
  isPrinted c && c != '\x22' && c != '\x7b' && c != '\x7d'

/-- A fixed text without quotes and braces. -/
lemma balanced_of_plain {cs : List Char} (h : cs.all isPlain = true) : Balanced cs := by
  induction cs with
  | nil => exact .nil
  | cons c cs ih =>
      rw [List.all_cons, Bool.and_eq_true] at h
      obtain ⟨hplain, hcs⟩ := h
      simp only [isPlain, Bool.and_eq_true, bne_iff_ne] at hplain
      obtain ⟨⟨⟨hprinted, hquote⟩, hopen⟩, hclose⟩ := hplain
      exact (Balanced.char hprinted hquote hopen hclose).append (ih hcs)

lemma balanced_writeString (s : String) : Balanced (writeString s) :=
  .quoted (quotable_flatMap_writeChar s.toList)

lemma balanced_writeItems {items : List Json} (hitems : ∀ j ∈ items, Balanced j.write) :
    Balanced (writeItems items) := by
  induction items with
  | nil => exact balanced_of_plain rfl
  | cons item items ih =>
      rw [List.forall_mem_cons] at hitems
      have hcomma : Balanced [',', ' '] := balanced_of_plain rfl
      have hparts := hcomma.append (hitems.1.append (ih hitems.2))
      rwa [writeItems]

/-- A field, from its name to its value. -/
lemma balanced_field (name : String) {value : Json} (hvalue : Balanced value.write) :
    Balanced (writeString name ++ ':' :: ' ' :: value.write) := by
  have hcolon : Balanced [':', ' '] := balanced_of_plain rfl
  exact (balanced_writeString name).append (hcolon.append hvalue)

/-- The fields behind the first one, up to the brace behind the last. -/
lemma exists_writeFields {fields : List (String × Json)}
    (hfields : ∀ f ∈ fields, Balanced f.2.write) :
    ∃ inside, writeFields fields = inside ++ ['\x7d'] ∧ Balanced inside := by
  induction fields with
  | nil => exact ⟨[], by rw [writeFields, List.nil_append], .nil⟩
  | cons f fields ih =>
      obtain ⟨name, value⟩ := f
      rw [List.forall_mem_cons] at hfields
      obtain ⟨inside, hinside, hbalanced⟩ := ih hfields.2
      have hcomma : Balanced [',', ' '] := balanced_of_plain rfl
      refine ⟨[',', ' '] ++ ((writeString name ++ ':' :: ' ' :: value.write) ++ inside), ?_,
        hcomma.append ((balanced_field name hfields.1).append hbalanced)⟩
      rw [writeFields, hinside]
      simp

lemma exists_write_of_fields {fields : List (String × Json)}
    (hfields : ∀ f ∈ fields, Balanced f.2.write) :
    ∃ inside, (Json.obj fields).write = '\x7b' :: (inside ++ ['\x7d']) ∧ Balanced inside := by
  cases fields with
  | nil => exact ⟨[], by rw [write, List.nil_append], .nil⟩
  | cons f fields =>
      obtain ⟨name, value⟩ := f
      rw [List.forall_mem_cons] at hfields
      obtain ⟨inside, hinside, hbalanced⟩ := exists_writeFields hfields.2
      refine ⟨(writeString name ++ ':' :: ' ' :: value.write) ++ inside, ?_,
        (balanced_field name hfields.1).append hbalanced⟩
      rw [write, hinside]
      simp

/-- **The braces of a written value balance.** -/
theorem balanced_write {j : Json} (h : Textual j) : Balanced j.write := by
  induction h with
  | null => exact balanced_of_plain rfl
  | bool value => cases value <;> exact balanced_of_plain rfl
  | str s => exact balanced_writeString s
  | @arr items _ ih =>
      cases items with
      | nil => exact balanced_of_plain rfl
      | cons item items =>
          rw [List.forall_mem_cons] at ih
          have hopen : Balanced ['['] := balanced_of_plain rfl
          have hparts := hopen.append (ih.1.append (balanced_writeItems ih.2))
          rwa [write]
  | obj _ _ ih =>
      obtain ⟨inside, hinside, hbalanced⟩ := exists_write_of_fields ih
      rw [hinside]
      exact .braced hbalanced

/-- An object is written between braces, and what is inside them balances. -/
lemma exists_write_obj {fields : List (String × Json)} (h : Textual (.obj fields)) :
    ∃ inside, (Json.obj fields).write = '\x7b' :: (inside ++ ['\x7d']) ∧ Balanced inside := by
  cases h with
  | obj _ hfields => exact exists_write_of_fields fun f hf => balanced_write (hfields f hf)

/-- The text of an object has no blank at its ends. -/
lemma tight_write_obj {fields : List (String × Json)} (h : Textual (.obj fields)) :
    Text.Tight (Json.obj fields).write := by
  obtain ⟨inside, hinside, -⟩ := exists_write_obj h
  rw [hinside]
  refine ⟨by simp, ?_, ?_⟩
  · intro c hc
    obtain rfl : '\x7b' = c := by simpa using hc
    decide
  · intro c hc
    rw [← List.cons_append, List.getLast?_concat, Option.mem_some_iff] at hc
    subst hc
    decide

/-! ## Characters -/

lemma Quotable.printed {cs : List Char} (h : Quotable cs) : ∀ c ∈ cs, isPrinted c = true := by
  induction h with
  | nil => simp
  | plain hprinted _ _ _ ih => exact List.forall_mem_cons.mpr ⟨hprinted, ih⟩
  | escaped hprinted _ ih =>
      exact List.forall_mem_cons.mpr ⟨rfl, List.forall_mem_cons.mpr ⟨hprinted, ih⟩⟩

/-- Every character is printed ASCII. -/
lemma Balanced.printed {cs : List Char} (h : Balanced cs) : ∀ c ∈ cs, isPrinted c = true := by
  induction h with
  | nil => simp
  | char hprinted => simpa using hprinted
  | quoted hcs =>
      rw [List.forall_mem_cons, List.forall_mem_append]
      exact ⟨rfl, hcs.printed, List.forall_mem_singleton.mpr rfl⟩
  | braced _ ih =>
      rw [List.forall_mem_cons, List.forall_mem_append]
      exact ⟨rfl, ih, List.forall_mem_singleton.mpr rfl⟩
  | append _ _ ihcs ihds => exact List.forall_mem_append.mpr ⟨ihcs, ihds⟩

end ActivityFlow.Json
