import ActivityFlow.Json.Printer
import ActivityFlow.Json.Reader
import Mathlib.Data.List.Nodup
import Mathlib.Tactic.Common

/-!
# Reading what was written

The reader takes one character at a time, so its laws are equations of `Reader.feed`: what a
written part does to the state before it.  A character of a string, however it is escaped, joins
the string (`feed_writeChar`); a value, whatever is open around it, arrives as `accept` would place
it (`feed_write`).

Numbers are left out.  The end of a number is only seen at the character behind it, and one of
double precision need not be written with the digits it was read from.

* `Textual` — the values without numbers in which no object has a field twice.
* **`read_write`** — reading the text of such a value gives the value.
* `eq_of_write_eq` — so the text tells these values apart.
-/

namespace ActivityFlow.Json

/-- **The values that texts are made into**: no numbers, and no object with a field twice.  Of two
    fields with one name the reader keeps one, so the second condition cannot be left out. -/
inductive Textual : Json → Prop
  | null : Textual .null
  | bool (value : Bool) : Textual (.bool value)
  | str (s : String) : Textual (.str s)
  | arr {items : List Json} (hitems : ∀ j ∈ items, Textual j) : Textual (.arr items)
  | obj {fields : List (String × Json)} (hnames : (fields.map Prod.fst).Nodup)
      (hfields : ∀ f ∈ fields, Textual f.2) : Textual (.obj fields)

@[simp] lemma textual_ofOption : ∀ s : Option String, Textual (ofOption s)
  | none => .null
  | some s => .str s

/-- A field with a new name stands at the end. -/
lemma putField_of_notMem {name : String} {value : Json} {fields : List (String × Json)}
    (h : name ∉ fields.map Prod.fst) : putField name value fields = fields ++ [(name, value)] := by
  induction fields with
  | nil => rfl
  | cons f rest ih =>
      rw [List.map_cons, List.mem_cons, not_or] at h
      rw [putField, if_neg (Ne.symm h.1), ih h.2]
      rfl

/-! ## Hexadecimal digits -/

/-- All but the last digit are those of the number without it. -/
lemma hexDigits_succ {width n : Nat} (hwidth : 0 < width) :
    Text.hexDigits (width + 1) n = Text.hexDigits width (n / 16) ++ [(n % 16).digitChar] := by
  rcases Nat.lt_or_ge n 16 with hn | hn
  -- one digit; the zero that is left of it pads like the zeros before it
  · obtain ⟨width, rfl⟩ : ∃ w, width = w + 1 := ⟨width - 1, by omega⟩
    simp only [Text.hexDigits, Nat.div_eq_of_lt hn, Nat.mod_eq_of_lt hn,
      Nat.toDigits_of_lt_base hn, Nat.toDigits_of_lt_base (show 0 < 16 by decide),
      List.length_singleton, Nat.add_sub_cancel, List.replicate_succ']
    rfl
  · simp only [Text.hexDigits, Nat.toDigits_of_base_le (show 1 < 16 by decide) hn,
      List.length_append, List.length_singleton, Nat.add_sub_add_right, List.append_assoc]

lemma hexDigits_one {n : Nat} (h : n < 16) : Text.hexDigits 1 n = [n.digitChar] := by
  simp [Text.hexDigits, Nat.toDigits_of_lt_base h]

lemma hexDigits_four {n : Nat} (h : n < 0x10000) : Text.hexDigits 4 n =
    [(n / 16 / 16 / 16).digitChar, (n / 16 / 16 % 16).digitChar, (n / 16 % 16).digitChar,
      (n % 16).digitChar] := by
  rw [hexDigits_succ (by decide), hexDigits_succ (by decide), hexDigits_succ (by decide),
    hexDigits_one (by omega)]
  rfl

namespace Reader

lemma hexValue?_digitChar : ∀ {d : Nat}, d < 16 → hexValue? d.digitChar = some d := by
  decide

variable {state state' : Reader} {cs ds : List Char}

lemma feed_cons_of_step {c : Char} (h : state.step c = .ok state') :
    state.feed (c :: ds) = state'.feed ds := by
  rw [feed, List.foldlM_cons, h]
  rfl

lemma feed_append_of_feed (h : state.feed cs = .ok state') :
    state.feed (cs ++ ds) = state'.feed ds := by
  rw [feed_append, h]
  rfl

/-! ## Strings -/

variable {role : StringRole} {written : List Char} {high : Option Nat}
  {containers : List OpenContainer}

lemma feed_shortEscape {e c : Char} (h : shortEscape? e = some c) :
    feed ⟨.string role written none, containers⟩ ['\x5c', e]
      = .ok ⟨.string role (c :: written) none, containers⟩ := by
  have he : (e == 'u') = false := by
    by_contra hu
    rw [Bool.not_eq_false, beq_iff_eq] at hu
    rw [hu] at h
    exact absurd h (by simp [shortEscape?])
  have hstep : step ⟨.escape role written none, containers⟩ e
      = .ok ⟨.string role (c :: written) none, containers⟩ := by
    simp only [step, stepWithin, he, h]
    rfl
  rw [feed_cons_of_step rfl, feed_cons_of_step hstep]
  rfl

lemma step_hex {c : Char} {digit : Nat} (h : hexValue? c = some digit) (left value : Nat) :
    step ⟨.hex role written high (left + 2) value, containers⟩ c
      = .ok ⟨.hex role written high (left + 1) (value * 16 + digit), containers⟩ := by
  simp [step, stepWithin, h, expect]

lemma step_hex_last {c : Char} {digit : Nat} (h : hexValue? c = some digit) (value : Nat) :
    step ⟨.hex role written high 1 value, containers⟩ c
      = .ok ⟨addCode role written high (value * 16 + digit), containers⟩ := by
  simp [step, stepWithin, h, expect]

/-- The four digits of a code, behind the `u` that announces them. -/
lemma feed_hexDigits {n : Nat} (h : n < 0x10000) :
    feed ⟨.hex role written high 4 0, containers⟩ (Text.hexDigits 4 n)
      = .ok ⟨addCode role written high n, containers⟩ := by
  have hdigit (m : Nat) : hexValue? (m % 16).digitChar = some (m % 16) :=
    hexValue?_digitChar (Nat.mod_lt m (by decide))
  have hvalue : (((0 * 16 + n / 16 / 16 / 16) * 16 + n / 16 / 16 % 16) * 16 + n / 16 % 16) * 16
      + n % 16 = n := by omega
  -- three digits leave more to come, and the last one ends the code
  rw [hexDigits_four h, feed_cons_of_step (step_hex (hexValue?_digitChar (by omega)) 2 0),
    feed_cons_of_step (step_hex (hdigit _) 1 _), feed_cons_of_step (step_hex (hdigit _) 0 _),
    feed_cons_of_step (step_hex_last (hdigit _) _), hvalue]
  rfl

lemma feed_unitEscape {n : Nat} (h : n < 0x10000) :
    feed ⟨.string role written high, containers⟩ (unitEscape n)
      = .ok ⟨addCode role written high n, containers⟩ :=
  feed_hexDigits h

/-- A character beyond the first plane is written as a pair of surrogates, and they find each
    other. -/
lemma feed_surrogates {c : Char} (h : 0x10000 ≤ c.toNat) :
    feed ⟨.string role written none, containers⟩
        (unitEscape (0xd800 + (c.toNat - 0x10000) / 0x400)
          ++ unitEscape (0xdc00 + (c.toNat - 0x10000) % 0x400))
      = .ok ⟨.string role (c :: written) none, containers⟩ := by
  have hmax : c.toNat < 0x110000 := by
    rcases c.valid with hlow | hhigh
    · exact Nat.lt_trans hlow (by decide)
    · exact hhigh.2
  -- the high half waits, and the low half makes the character with it
  have hhigh : addCode role written none (0xd800 + (c.toNat - 0x10000) / 0x400)
      = .string role written (some (0xd800 + (c.toNat - 0x10000) / 0x400)) := by
    simp only [addCode]
    rw [if_pos (by simp; omega)]
  have hlow : addCode role written (some (0xd800 + (c.toNat - 0x10000) / 0x400))
      (0xdc00 + (c.toNat - 0x10000) % 0x400) = .string role (c :: written) none := by
    have hcode : 0x10000 + (0xd800 + (c.toNat - 0x10000) / 0x400 - 0xd800) * 0x400
        + (0xdc00 + (c.toNat - 0x10000) % 0x400 - 0xdc00) = c.toNat := by omega
    simp only [addCode]
    rw [if_pos (by simp; omega), hcode, Char.ofNat_toNat]
  rw [feed_append_of_feed (feed_unitEscape (by omega)), hhigh, feed_unitEscape (by omega), hlow]

/-- **A written character joins the string.** -/
lemma feed_writeChar (c : Char) : feed ⟨.string role written none, containers⟩ (writeChar c)
    = .ok ⟨.string role (c :: written) none, containers⟩ := by
  have hescape {special : Char} (e : Char) (hspecial : (c == special) = true)
      (he : shortEscape? e = some special) :
      feed ⟨.string role written none, containers⟩ ['\x5c', e]
        = .ok ⟨.string role (c :: written) none, containers⟩ :=
    eq_of_beq hspecial ▸ feed_shortEscape he
  rw [writeChar]
  split
  next h => exact hescape '\x22' h rfl
  split
  next h => exact hescape '\x5c' h rfl
  split
  next h => exact hescape 'n' h rfl
  split
  next h => exact hescape 'r' h rfl
  split
  next h => exact hescape 't' h rfl
  split
  next h => exact hescape 'b' h rfl
  split
  next h => exact hescape 'f' h rfl
  rename_i hquote hbackslash _ _ _ _ _
  -- printable characters stand for themselves; none is left that ends the string or escapes
  split
  next h =>
      have hprinted : ¬ c.toNat < 32 := by simp at h; omega
      simp [feed, step, stepWithin, expect, flush, hquote, hbackslash, hprinted]
  split
  next h =>
      rw [feed_unitEscape h]
      have hcode : addCode role written none c.toNat = .string role (c :: written) none := by
        -- no character has the code of a surrogate
        have hplane : c.toNat < 0xd800 ∨ 0xdfff < c.toNat := c.valid.imp_right And.left
        simp only [addCode]
        rw [if_neg (by simp; omega), if_neg (by simp; omega), Char.ofNat_toNat]
      rw [hcode]
  next h => exact feed_surrogates (Nat.le_of_not_lt h)

lemma feed_flatMap_writeChar (s : List Char) : ∀ written : List Char,
    feed ⟨.string role written none, containers⟩ (s.flatMap writeChar)
      = .ok ⟨.string role (s.reverse ++ written) none, containers⟩ := by
  induction s with
  | nil => exact fun _ => rfl
  | cons c s ih =>
      intro written
      rw [List.flatMap_cons, feed_append_of_feed (feed_writeChar c), ih]
      simp

/-- A string behind its opening quote. -/
lemma feed_stringRest (s : String) (ds : List Char) :
    feed ⟨.string role [] none, containers⟩ (s.toList.flatMap writeChar ++ '\x22' :: ds)
      = (endString role s.toList.reverse containers).feed ds := by
  rw [feed_append_of_feed (feed_flatMap_writeChar s.toList []), List.append_nil]
  exact feed_cons_of_step rfl

/-! ## Values -/

/-- A value is read wherever one is awaited, and is placed in what is open around it. -/
def Takes (j : Json) : Prop :=
  ∀ (mayClose : Bool) (containers : List OpenContainer) (ds : List Char),
    feed ⟨.value mayClose, containers⟩ (j.write ++ ds) = (accept j containers).feed ds

/-- The first character of a value; none of them closes an array. -/
lemma feed_value {c : Char} {mayClose : Bool} (hgap : isGap c = false)
    (hclose : (c == ']') = false) (h : startValue containers c = some state) :
    feed ⟨.value mayClose, containers⟩ (c :: ds) = state.feed ds := by
  have hstep : step ⟨.value mayClose, containers⟩ c = .ok state := by
    simp [step, stepWithin, expect, hgap, hclose, h]
  exact feed_cons_of_step hstep

/-- The rest of an array, behind the items that are read. -/
lemma feed_writeItems {items : List Json} (hitems : ∀ j ∈ items, Takes j) :
    ∀ (before : List Json) (ds : List Char),
      feed ⟨.afterPart, .array before :: containers⟩ (writeItems items ++ ds)
        = (accept (.arr (before.reverse ++ items)) containers).feed ds := by
  induction items with
  | nil =>
      intro before ds
      rw [List.append_nil]
      exact feed_cons_of_step rfl
  | cons item items ih =>
      intro before ds
      rw [List.forall_mem_cons] at hitems
      have hitem : feed ⟨.afterPart, .array before :: containers⟩
          (writeItems (item :: items) ++ ds)
          = feed ⟨.afterPart, .array (item :: before) :: containers⟩ (writeItems items ++ ds) := by
        rw [writeItems, List.cons_append, List.cons_append, List.append_assoc,
          feed_cons_of_step rfl, feed_cons_of_step rfl, hitems.1]
        rfl
      rw [hitem, ih hitems.2, List.reverse_cons, List.append_assoc]
      rfl

/-- A field, from its name to its value. -/
lemma feed_field {value : Json} (hvalue : Takes value) (name : String)
    (fields : List (String × Json)) (mayClose : Bool) (ds : List Char) :
    feed ⟨.fieldName fields mayClose, containers⟩
        (writeString name ++ ':' :: ' ' :: (value.write ++ ds))
      = feed ⟨.afterPart, .object (putField name value fields) name :: containers⟩ ds := by
  rw [writeString, List.cons_append, List.cons_append, List.append_assoc, feed_cons_of_step rfl]
  rw [List.singleton_append, feed_stringRest, endString, feed_cons_of_step rfl,
    feed_cons_of_step rfl, hvalue]
  simp [accept]

/-- The rest of an object, behind the fields that are read.  Each name is new, so each field is
    placed at the end. -/
lemma feed_writeFields {fields : List (String × Json)} (hfields : ∀ f ∈ fields, Takes f.2) :
    ∀ (before : List (String × Json)) (name : String) (ds : List Char),
      ((before ++ fields).map Prod.fst).Nodup →
      feed ⟨.afterPart, .object before name :: containers⟩ (writeFields fields ++ ds)
        = (accept (.obj (before ++ fields)) containers).feed ds := by
  induction fields with
  | nil =>
      intro before name ds _
      rw [List.append_nil]
      exact feed_cons_of_step rfl
  | cons f fields ih =>
      obtain ⟨next, value⟩ := f
      intro before name ds hnames
      rw [List.forall_mem_cons] at hfields
      have hnew : next ∉ before.map Prod.fst := by
        intro hmem
        rw [List.map_append, List.map_cons] at hnames
        exact (List.nodup_append.mp hnames).2.2 next hmem next List.mem_cons_self rfl
      have hfield : feed ⟨.afterPart, .object before name :: containers⟩
          (writeFields ((next, value) :: fields) ++ ds)
          = feed ⟨.afterPart, .object (before ++ [(next, value)]) next :: containers⟩
              (writeFields fields ++ ds) := by
        rw [writeFields, List.cons_append, List.cons_append, List.append_assoc, List.cons_append,
          List.cons_append, List.append_assoc, feed_cons_of_step rfl, feed_cons_of_step rfl,
          feed_field hfields.1, putField_of_notMem hnew]
      rw [hfield, ih hfields.2 _ next ds (by simpa using hnames), List.append_assoc]
      rfl

/-- **A written value is read as itself**, whatever is open around it and whatever follows. -/
theorem feed_write {j : Json} (h : Textual j) : Takes j := by
  induction h with
  | null =>
      intro mayClose containers ds
      rw [write, List.cons_append, feed_value rfl rfl rfl]
      rfl
  | bool value =>
      intro mayClose containers ds
      cases value with
      | true =>
          rw [write, List.cons_append, feed_value rfl rfl rfl]
          rfl
      | false =>
          rw [write, List.cons_append, feed_value rfl rfl rfl]
          rfl
  | str s =>
      intro mayClose containers ds
      rw [write, writeString, List.cons_append, List.cons_append, List.append_assoc,
        feed_value rfl rfl rfl, List.singleton_append, feed_stringRest]
      simp [endString]
  | @arr items _ ih =>
      intro mayClose containers ds
      cases items with
      | nil =>
          rw [write, List.cons_append, feed_value rfl rfl rfl]
          rfl
      | cons item items =>
          rw [List.forall_mem_cons] at ih
          -- no comma stands before the first item, so it is read apart from the rest
          rw [write, List.cons_append, List.append_assoc, feed_value rfl rfl rfl, ih.1]
          exact feed_writeItems ih.2 [item] ds
  | @obj fields hnames _ ih =>
      intro mayClose containers ds
      cases fields with
      | nil =>
          rw [write, List.cons_append, feed_value rfl rfl rfl]
          rfl
      | cons f fields =>
          obtain ⟨name, value⟩ := f
          rw [List.forall_mem_cons] at ih
          rw [write, List.cons_append, List.append_assoc, List.cons_append, List.cons_append,
            List.append_assoc, feed_value rfl rfl rfl, feed_field ih.1]
          exact feed_writeFields ih.2 [(name, value)] name ds hnames

end Reader

/-- **Reading the text of a value gives the value.** -/
theorem read_write {j : Json} (h : Textual j) : read j.write = .ok j := by
  have hfeed : Reader.start.feed j.write = .ok ⟨.complete j, []⟩ := by
    have hwrite := Reader.feed_write h false [] []
    rwa [List.append_nil] at hwrite
  rw [read, hfeed]
  rfl

/-- **Values with one text are one value.** -/
theorem eq_of_write_eq {j k : Json} (hj : Textual j) (hk : Textual k) (h : j.write = k.write) :
    j = k := by
  have hread : (.ok j : Except ReadError Json) = .ok k := by
    rw [← read_write hj, ← read_write hk, h]
  exact Except.ok.inj hread

end ActivityFlow.Json
