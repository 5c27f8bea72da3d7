import ActivityFlow.Diagram.Note
import ActivityFlow.Proofs.Json.Outline
import Mathlib.Data.List.Infix
import Mathlib.Tactic.Common

/-!
# The object in front of a note

Where a note begins with a JSON object, the scan for balanced braces finds that object and nothing
else (`splitNote_leadingObject`), whatever stands behind it.

**Scan and reader.**  The scan knows quotes, backslashes and braces, and the reader knows the whole
grammar.  While a value is read, the two agree on how many objects are open, on whether a string is
read and on whether a backslash stands in front (`Reader.scan`), and every character that the reader
takes keeps them in agreement (`behind_step`).  The brace that takes the scan back to no open object
is therefore the one at which the reader completes the outermost value, and behind a complete value
the reader takes gaps only.

**The outermost value.**  Its kind is settled by its first character (`root_of_feed`), so a piece
that reads as an object and has no blank in front begins with a brace, as the scan asks for.
-/

namespace ActivityFlow

namespace Json

/-! ## What is open -/

/-- Whether a container is an object. -/
def OpenContainer.isObject : OpenContainer → Bool
  | array _ => false
  | object _ _ => true

/-- Whether a string is the name of a field. -/
def StringRole.isName : StringRole → Bool
  | value => false
  | name _ => true

namespace Reading

/-- Whether an object is read that does not stand among the containers: the one whose next field has
    no value yet. -/
def isField : Reading → Bool
  | fieldName _ _ | colon _ _ => true
  | string role _ _ | escape role _ _ | hex role _ _ _ _ => role.isName
  | _ => false

/-- Whether a string is read. -/
def inString : Reading → Bool
  | string _ _ _ | escape _ _ _ | hex _ _ _ _ _ => true
  | _ => false

/-- Whether the next character is covered by a backslash. -/
def isEscape : Reading → Bool
  | escape _ _ _ => true
  | _ => false

/-- Whether the value that is read, or that is complete, is an object; none is read while one is
    awaited. -/
def kind? : Reading → Option Bool
  | value _ | afterPart => none
  | name _ found | complete found => some found.isObject
  | reading => some reading.isField

end Reading

namespace Reader

open Diagram

/-- Which of the values that are being read are objects, the innermost first. -/
def kinds (r : Reader) : List Bool :=
  r.reading.kind?.toList ++ r.containers.map OpenContainer.isObject

/-- What the scan for balanced braces makes of the text read so far. -/
def scan (r : Reader) : BraceScan where
  depth := r.reading.isField.toNat + r.containers.countP OpenContainer.isObject
  inString := r.reading.inString
  escaped := r.reading.isEscape

/-- The scan outside of strings. -/
def outside (containers : List OpenContainer) : BraceScan :=
  ⟨containers.countP OpenContainer.isObject, false, false⟩

lemma scan_accept (value : Json) (containers : List OpenContainer) :
    (accept value containers).scan = outside containers := by
  rcases containers with _ | ⟨items | ⟨fields, name⟩, rest⟩ <;>
    simp [accept, scan, outside, Reading.isField, Reading.inString, Reading.isEscape,
      OpenContainer.isObject, List.countP_cons]

lemma getLast?_kinds_accept (value : Json) (containers : List OpenContainer) :
    (accept value containers).kinds.getLast? =
      (value.isObject :: containers.map OpenContainer.isObject).getLast? := by
  rcases containers with _ | ⟨items | ⟨fields, name⟩, rest⟩ <;>
    simp [accept, kinds, Reading.kind?, OpenContainer.isObject]

/-- What holds between two characters.  A name that is being read has no quotes and no braces left,
    and stands for no object; nothing is open around the whole value. -/
def Sound : Reader → Prop
  | ⟨.name left value, _⟩ => left.all isPlain = true ∧ value.isObject = false
  | ⟨.complete _, containers⟩ => containers = []
  | _ => True

lemma sound_accept (value : Json) (containers : List OpenContainer) :
    (accept value containers).Sound := by
  rcases containers with _ | ⟨items | ⟨fields, name⟩, rest⟩
  · exact rfl
  · trivial
  · trivial

/-- What a character does to the scan and to the outermost value, whose kind it leaves as it is. -/
structure Behind (scan : BraceScan) (kinds : List Bool) (c : Char) (r : Reader) : Prop where
  scan : r.scan = scan.step c
  root : r.kinds.getLast? = kinds.getLast?
  sound : r.Sound

/-- Whether the scan passes over a character outside of strings. -/
def isPassed (c : Char) : Bool :=
  c != '\x22' && c != '\x7b' && c != '\x7d'

lemma isPassed_of_isGap {c : Char} (h : isGap c = true) : isPassed c = true := by
  simp only [isGap, Bool.or_eq_true, beq_iff_eq] at h
  rcases h with ((rfl | rfl) | rfl) | rfl <;> decide

lemma isPassed_of_isPlain {c : Char} (h : isPlain c = true) : isPassed c = true := by
  simp only [isPlain, Bool.and_eq_true] at h
  simp [isPassed, h]

lemma isPassed_of_isNumberChar {c : Char} (h : isNumberChar c = true) : isPassed c = true := by
  simp only [isPassed, Bool.and_eq_true, bne_iff_ne]
  refine ⟨⟨?_, ?_⟩, ?_⟩ <;> rintro rfl <;> exact absurd h (by decide)

lemma behind_of_isPassed {containers : List OpenContainer} {kinds : List Bool} {c : Char}
    {r : Reader} (hc : isPassed c = true) (hscan : r.scan = outside containers)
    (hroot : r.kinds.getLast? = kinds.getLast?) (hsound : r.Sound) :
    Behind (outside containers) kinds c r where
  scan := by
    simp only [isPassed, Bool.and_eq_true, bne_iff_ne] at hc
    obtain ⟨⟨hquote, hopen⟩, hclose⟩ := hc
    rw [hscan]
    simp [outside, BraceScan.step, hquote, hopen, hclose]
  root := hroot
  sound := hsound

lemma scan_outside {reading : Reading} (containers : List OpenContainer)
    (hfield : reading.isField = false) (hstring : reading.inString = false)
    (hescape : reading.isEscape = false) :
    scan ⟨reading, containers⟩ = outside containers := by
  simp [scan, outside, hfield, hstring, hescape]

/-- The object whose next field is read counts as one more open object. -/
lemma scan_object {reading : Reading} (fields : List (String × Json)) (name : String)
    (containers : List OpenContainer) (hfield : reading.isField = true)
    (hstring : reading.inString = false) (hescape : reading.isEscape = false) :
    scan ⟨reading, containers⟩ = outside (.object fields name :: containers) := by
  rw [scan, outside, List.countP_cons_of_pos (by rfl), hfield, hstring, hescape, Bool.toNat_true,
    Nat.add_comm]

/-! ## One character -/

lemma behind_startName {containers : List OpenContainer} {c first : Char} {left : List Char}
    {value : Json} {r : Reader} (hc : (c == first) = true) (hfirst : isPassed first = true)
    (hleft : left.all isPlain = true) (hvalue : value.isObject = false)
    (h : some ⟨.name left value, containers⟩ = some r) :
    Behind (outside containers) (false :: containers.map OpenContainer.isObject) c r := by
  obtain rfl := beq_iff_eq.mp hc
  obtain rfl := Option.some.inj h
  refine behind_of_isPassed hfirst (scan_outside _ rfl rfl rfl) ?_ ⟨hleft, hvalue⟩
  rw [← hvalue]
  rfl

/-- The first character of a value opens an object if it is a brace. -/
lemma behind_startValue {containers : List OpenContainer} {c : Char} {r : Reader}
    (h : startValue containers c = some r) :
    Behind (outside containers) ((c == '\x7b') :: containers.map OpenContainer.isObject) c r := by
  unfold startValue at h
  split at h
  · rename_i hc
    obtain rfl := beq_iff_eq.mp hc
    obtain rfl := Option.some.inj h
    exact ⟨by simp [scan, outside, BraceScan.step, Reading.isField, Reading.inString,
      Reading.isEscape, StringRole.isName], rfl, trivial⟩
  split at h
  · rename_i hc
    obtain rfl := beq_iff_eq.mp hc
    obtain rfl := Option.some.inj h
    refine behind_of_isPassed (by decide) ?_ rfl trivial
    rw [scan_outside _ rfl rfl rfl]
    rfl
  split at h
  · rename_i hc
    obtain rfl := beq_iff_eq.mp hc
    obtain rfl := Option.some.inj h
    exact ⟨by simp [scan, outside, BraceScan.step, Reading.isField, Reading.inString,
      Reading.isEscape, Nat.add_comm], rfl, trivial⟩
  rename_i hopen
  rw [Bool.eq_false_iff.mpr hopen]
  split at h
  · rename_i hc
    obtain rfl := Option.some.inj h
    refine behind_of_isPassed ?_ (scan_outside _ rfl rfl rfl) rfl trivial
    simp only [Bool.or_eq_true, beq_iff_eq] at hc
    rcases hc with rfl | hdigit
    · decide
    · exact isPassed_of_isNumberChar (by simp [isNumberChar, hdigit])
  iterate 5
    split at h
    · exact behind_startName ‹_› (by decide) rfl rfl h
  exact absurd h (by simp)

/-- Behind a part of a container the container goes on or is closed. -/
lemma behind_afterPart {containers : List OpenContainer} {c : Char} {r : Reader}
    (h : afterPart containers c = some r) :
    Behind (outside containers) (containers.map OpenContainer.isObject) c r := by
  unfold afterPart at h
  split at h
  · rename_i hgap
    obtain rfl := Option.some.inj h
    exact behind_of_isPassed (isPassed_of_isGap hgap) (scan_outside _ rfl rfl rfl) rfl trivial
  · split at h
    · rename_i items rest
      split at h
      · rename_i hc
        obtain rfl := beq_iff_eq.mp hc
        obtain rfl := Option.some.inj h
        exact behind_of_isPassed (by decide) (scan_outside _ rfl rfl rfl) rfl trivial
      split at h
      · rename_i hc
        obtain rfl := beq_iff_eq.mp hc
        obtain rfl := Option.some.inj h
        exact behind_of_isPassed (by decide) (scan_accept _ _) (getLast?_kinds_accept _ _)
          (sound_accept _ _)
      · exact absurd h (by simp)
    · rename_i fields name rest
      split at h
      · rename_i hc
        obtain rfl := beq_iff_eq.mp hc
        obtain rfl := Option.some.inj h
        exact behind_of_isPassed (by decide) (scan_object _ _ _ rfl rfl rfl) rfl trivial
      split at h
      · rename_i hc
        obtain rfl := beq_iff_eq.mp hc
        obtain rfl := Option.some.inj h
        refine ⟨?_, getLast?_kinds_accept _ _, sound_accept _ _⟩
        rw [scan_accept]
        simp [outside, BraceScan.step, OpenContainer.isObject, List.countP_cons]
      · exact absurd h (by simp)
    · exact absurd h (by simp)

lemma behind_behindValue {state r : Reader} {c : Char} (hsound : state.Sound)
    (h : behindValue state c = some r) :
    Behind state.scan state.kinds c r := by
  obtain ⟨reading, containers⟩ := state
  unfold behindValue at h
  split at h
  · rename_i value hreading
    obtain rfl : reading = .complete value := hreading
    split at h
    · rename_i hgap
      obtain rfl := Option.some.inj h
      rw [scan_outside _ rfl rfl rfl]
      exact behind_of_isPassed (isPassed_of_isGap hgap) (scan_outside _ rfl rfl rfl) rfl hsound
    · exact absurd h (by simp)
  · rename_i hreading
    obtain rfl : reading = .afterPart := hreading
    rw [scan_outside _ rfl rfl rfl]
    exact behind_afterPart h
  · exact absurd h (by simp)

/-! ### Strings -/

lemma addCode_eq (role : StringRole) (written : List Char) (high : Option Nat) (code : Nat) :
    ∃ written' high', addCode role written high code = .string role written' high' := by
  simp only [addCode]
  split
  · split
    · exact ⟨_, _, rfl⟩
    split
    · exact ⟨_, _, rfl⟩
    · exact ⟨_, _, rfl⟩
  · split
    · exact ⟨_, _, rfl⟩
    split
    · exact ⟨_, _, rfl⟩
    · exact ⟨_, _, rfl⟩

/-- A string ends with its quote. -/
lemma behind_endString (role : StringRole) (written text : List Char) (high : Option Nat)
    (containers : List OpenContainer) :
    Behind (scan ⟨.string role written high, containers⟩)
      (kinds ⟨.string role written high, containers⟩) '\x22' (endString role text containers) := by
  cases role with
  | value =>
      refine ⟨?_, getLast?_kinds_accept _ _, sound_accept _ _⟩
      rw [endString, scan_accept]
      simp [outside, scan, BraceScan.step, Reading.isField, Reading.inString, Reading.isEscape,
        StringRole.isName]
  | name fields => exact ⟨rfl, rfl, trivial⟩

lemma behind_string {role : StringRole} {written : List Char} {high : Option Nat}
    {containers : List OpenContainer} {c : Char} {r : Reader}
    (h : stepWithin ⟨.string role written high, containers⟩ c = some r) :
    Behind (scan ⟨.string role written high, containers⟩)
      (kinds ⟨.string role written high, containers⟩) c r := by
  simp only [stepWithin] at h
  split at h
  · rename_i hc
    obtain rfl := beq_iff_eq.mp hc
    obtain rfl := Option.some.inj h
    exact behind_endString role written _ high containers
  split at h
  · rename_i hc
    obtain rfl := beq_iff_eq.mp hc
    obtain rfl := Option.some.inj h
    exact ⟨rfl, rfl, trivial⟩
  split at h
  · exact absurd h (by simp)
  · rename_i hquote hbackslash _
    obtain rfl := Option.some.inj h
    rw [beq_iff_eq] at hquote hbackslash
    refine ⟨?_, rfl, trivial⟩
    simp [scan, BraceScan.step, Reading.isField, Reading.inString, Reading.isEscape, hquote,
      hbackslash]

/-- Whatever stands behind a backslash does not end the string. -/
lemma behind_escape {role : StringRole} {written : List Char} {high : Option Nat}
    {containers : List OpenContainer} {c : Char} {r : Reader}
    (h : stepWithin ⟨.escape role written high, containers⟩ c = some r) :
    Behind (scan ⟨.escape role written high, containers⟩)
      (kinds ⟨.escape role written high, containers⟩) c r := by
  simp only [stepWithin] at h
  split at h
  · obtain rfl := Option.some.inj h
    exact ⟨rfl, rfl, trivial⟩
  · obtain ⟨meant, -, rfl⟩ := Option.map_eq_some_iff.mp h
    exact ⟨rfl, rfl, trivial⟩

/-- Neither a quote nor a backslash is a hexadecimal digit. -/
lemma behind_hex {role : StringRole} {written : List Char} {high : Option Nat} {left value : Nat}
    {containers : List OpenContainer} {c : Char} {r : Reader}
    (h : stepWithin ⟨.hex role written high left value, containers⟩ c = some r) :
    Behind (scan ⟨.hex role written high left value, containers⟩)
      (kinds ⟨.hex role written high left value, containers⟩) c r := by
  obtain ⟨digit, hdigit, hr⟩ := Option.map_eq_some_iff.mp h
  have hquote : c ≠ '\x22' := by
    rintro rfl
    exact absurd hdigit (by simp [show hexValue? '\x22' = none by decide])
  have hbackslash : c ≠ '\x5c' := by
    rintro rfl
    exact absurd hdigit (by simp [show hexValue? '\x5c' = none by decide])
  have hstep : (scan ⟨.hex role written high left value, containers⟩).step c =
      scan ⟨.hex role written high left value, containers⟩ := by
    simp [scan, BraceScan.step, Reading.inString, Reading.isEscape, hquote, hbackslash]
  dsimp only at hr
  split at hr
  · obtain ⟨written', high', hcode⟩ := addCode_eq role written high (value * 16 + digit)
    rw [hcode] at hr
    subst hr
    exact ⟨hstep.symm, rfl, trivial⟩
  · subst hr
    exact ⟨hstep.symm, rfl, trivial⟩

/-! ### Any character -/

lemma behind_value {mayClose : Bool} {containers : List OpenContainer} {c : Char} {r : Reader}
    (hbegun : containers ≠ []) (h : stepWithin ⟨.value mayClose, containers⟩ c = some r) :
    Behind (outside containers) (containers.map OpenContainer.isObject) c r := by
  simp only [stepWithin] at h
  split at h
  · rename_i hgap
    obtain rfl := Option.some.inj h
    exact behind_of_isPassed (isPassed_of_isGap hgap) (scan_outside _ rfl rfl rfl) rfl trivial
  split at h
  · rename_i items rest hclose
    obtain rfl := Option.some.inj h
    rw [Bool.and_eq_true, beq_iff_eq] at hclose
    obtain ⟨-, rfl⟩ := hclose
    exact behind_of_isPassed (by decide) (scan_accept _ _) (getLast?_kinds_accept _ _)
      (sound_accept _ _)
  · obtain ⟨hscan, hroot, hsound⟩ := behind_startValue h
    refine ⟨hscan, hroot.trans ?_, hsound⟩
    -- the value stands in a container, so what is read outermost stays
    obtain ⟨container, rest, rfl⟩ := List.exists_cons_of_ne_nil hbegun
    rw [List.map_cons, List.getLast?_cons_cons]

lemma behind_fieldName {fields : List (String × Json)} {mayClose : Bool}
    {containers : List OpenContainer} {c : Char} {r : Reader}
    (h : stepWithin ⟨.fieldName fields mayClose, containers⟩ c = some r) :
    Behind (outside (.object fields "" :: containers))
      (true :: containers.map OpenContainer.isObject) c r := by
  simp only [stepWithin] at h
  split at h
  · rename_i hgap
    obtain rfl := Option.some.inj h
    exact behind_of_isPassed (isPassed_of_isGap hgap) (scan_object _ _ _ rfl rfl rfl) rfl trivial
  split at h
  · rename_i hc
    obtain rfl := beq_iff_eq.mp hc
    obtain rfl := Option.some.inj h
    refine ⟨?_, rfl, trivial⟩
    rw [outside, List.countP_cons_of_pos (by rfl), Nat.add_comm]
    rfl
  split at h
  · rename_i hclose
    rw [Bool.and_eq_true, beq_iff_eq] at hclose
    obtain ⟨-, rfl⟩ := hclose
    obtain rfl := Option.some.inj h
    refine ⟨?_, getLast?_kinds_accept _ _, sound_accept _ _⟩
    rw [scan_accept, outside, outside, List.countP_cons_of_pos (by rfl)]
    rfl
  · exact absurd h (by simp)

lemma behind_colon {fields : List (String × Json)} {name : String}
    {containers : List OpenContainer} {c : Char} {r : Reader}
    (h : stepWithin ⟨.colon fields name, containers⟩ c = some r) :
    Behind (outside (.object fields name :: containers))
      (true :: containers.map OpenContainer.isObject) c r := by
  simp only [stepWithin] at h
  split at h
  · rename_i hgap
    obtain rfl := Option.some.inj h
    exact behind_of_isPassed (isPassed_of_isGap hgap) (scan_object _ _ _ rfl rfl rfl) rfl trivial
  split at h
  · rename_i hc
    obtain rfl := beq_iff_eq.mp hc
    obtain rfl := Option.some.inj h
    exact behind_of_isPassed (by decide) (scan_outside _ rfl rfl rfl) rfl trivial
  · exact absurd h (by simp)

lemma behind_name {left : List Char} {value : Json} {containers : List OpenContainer} {c : Char}
    {r : Reader} (hsound : Sound ⟨.name left value, containers⟩)
    (h : stepWithin ⟨.name left value, containers⟩ c = some r) :
    Behind (outside containers) (value.isObject :: containers.map OpenContainer.isObject) c r := by
  obtain ⟨hplain, hvalue⟩ := hsound
  simp only [stepWithin] at h
  split at h
  · exact absurd h (by simp)
  · rename_i last
    split at h
    · rename_i hc
      obtain rfl := beq_iff_eq.mp hc
      obtain rfl := Option.some.inj h
      have hlast : isPlain c = true := by simpa using hplain
      exact behind_of_isPassed (isPassed_of_isPlain hlast) (scan_accept _ _)
        (getLast?_kinds_accept _ _) (sound_accept _ _)
    · exact absurd h (by simp)
  · rename_i next more _
    split at h
    · rename_i hc
      obtain rfl := beq_iff_eq.mp hc
      obtain rfl := Option.some.inj h
      rw [List.all_cons, Bool.and_eq_true] at hplain
      exact behind_of_isPassed (isPassed_of_isPlain hplain.1) (scan_outside _ rfl rfl rfl) rfl
        ⟨hplain.2, hvalue⟩
    · exact absurd h (by simp)

lemma behind_stepWithin {state r : Reader} {c : Char} (hsound : state.Sound)
    (hbegun : state.kinds ≠ []) (h : state.stepWithin c = some r) :
    Behind state.scan state.kinds c r := by
  obtain ⟨reading, containers⟩ := state
  cases reading with
  | value mayClose =>
      rw [scan_outside _ rfl rfl rfl]
      exact behind_value (fun hnil => hbegun (by rw [hnil]; rfl)) h
  | fieldName fields mayClose =>
      rw [scan_object fields "" _ rfl rfl rfl]
      exact behind_fieldName h
  | colon fields name =>
      rw [scan_object fields name _ rfl rfl rfl]
      exact behind_colon h
  | afterPart => exact behind_behindValue hsound h
  | string role written high => exact behind_string h
  | escape role written high => exact behind_escape h
  | hex role written high left value => exact behind_hex h
  | number written => exact absurd h (by simp [stepWithin])
  | name left value =>
      rw [scan_outside _ rfl rfl rfl]
      exact behind_name hsound h
  | complete value => exact behind_behindValue hsound h

/-! ### Numbers -/

lemma isObject_of_leadingNumber {negative : Bool} {cs rest : List Char} {value : Json}
    (h : leadingNumber negative cs = .ok (value, rest)) : value.isObject = false := by
  simp only [leadingNumber] at h
  split at h
  · exact absurd h (by simp)
  split at h
  · rw [wholeNumber] at h
    split at h
    · exact absurd h (by simp [Except.map])
    · simp only [Except.map, Except.ok.injEq, Prod.mk.injEq] at h
      rw [← h.1]
      rfl
  · simp only [Except.ok.injEq, Prod.mk.injEq] at h
    rw [← h.1]
    rfl

/-- A number is no object. -/
lemma isObject_of_number {cs : List Char} {value : Json} (h : number cs = .ok value) :
    value.isObject = false := by
  have hmagnitude {negative : Bool} {cs : List Char} (h : magnitude negative cs = .ok value) :
      value.isObject = false := by
    rw [magnitude] at h
    cases hlead : leadingNumber negative cs with
    | error e => exact absurd h (by simp [hlead, bind, Except.bind])
    | ok found =>
        obtain ⟨found, rest⟩ := found
        simp only [hlead, bind, Except.bind] at h
        split at h
        · cases h
          exact isObject_of_leadingNumber hlead
        · exact absurd h (by simp [throw, throwThe, MonadExceptOf.throw])
  unfold number at h
  split at h
  · exact hmagnitude h
  · exact hmagnitude h

lemma expect_eq_ok {α : Type} {found? : Option α} {found : α} (h : expect found? = .ok found) :
    found? = some found := by
  cases found? with
  | none => exact absurd h (by simp [expect])
  | some other =>
      cases h
      rfl

/-- **A character does to the scan what it does to the reader**, once a value has begun. -/
lemma behind_step {state r : Reader} {c : Char} (hsound : state.Sound)
    (hbegun : state.kinds ≠ []) (h : state.step c = .ok r) :
    Behind state.scan state.kinds c r := by
  obtain ⟨reading, containers⟩ := state
  cases reading
  case number written =>
    rw [scan_outside _ rfl rfl rfl]
    simp only [step] at h
    split at h
    · rename_i hc
      cases h
      exact behind_of_isPassed (isPassed_of_isNumberChar hc) (scan_outside _ rfl rfl rfl) rfl
        trivial
    split at h
    · rename_i hc
      rw [Bool.and_eq_true] at hc
      cases h
      refine behind_of_isPassed (by rw [beq_iff_eq.mp hc.1]; decide) (scan_outside _ rfl rfl rfl)
        rfl ⟨rfl, rfl⟩
    · cases hvalue : number written.reverse with
      | error e => exact absurd h (by simp [hvalue, bind, Except.bind])
      | ok value =>
          simp only [hvalue, bind, Except.bind] at h
          obtain ⟨hscan, hroot, hsound⟩ := behind_behindValue (sound_accept _ _) (expect_eq_ok h)
          rw [scan_accept] at hscan
          rw [getLast?_kinds_accept, isObject_of_number hvalue] at hroot
          exact ⟨hscan, hroot, hsound⟩
  all_goals exact behind_stepWithin hsound hbegun (expect_eq_ok h)

/-! ## Any piece of text -/

lemma step_feed_of_feed_cons {state r : Reader} {c : Char} {cs : List Char}
    (h : state.feed (c :: cs) = .ok r) :
    ∃ next, state.step c = .ok next ∧ next.feed cs = .ok r := by
  cases hstep : state.step c with
  | error e =>
      rw [feed, List.foldlM_cons, hstep] at h
      exact absurd h (by simp [bind, Except.bind])
  | ok next => exact ⟨next, rfl, (feed_cons_of_step hstep).symm.trans h⟩

lemma kinds_ne_nil_of_root {state : Reader} {kind : Bool} (h : state.kinds.getLast? = some kind) :
    state.kinds ≠ [] := by
  intro hnil
  rw [hnil] at h
  exact absurd h (by simp)

/-- The kind of the outermost value is settled by its first character. -/
lemma root_of_feed {state r : Reader} {cs : List Char} {kind : Bool} (hsound : state.Sound)
    (hroot : state.kinds.getLast? = some kind) (h : state.feed cs = .ok r) :
    r.Sound ∧ r.kinds.getLast? = some kind := by
  induction cs generalizing state with
  | nil =>
      obtain rfl := Except.ok.inj h
      exact ⟨hsound, hroot⟩
  | cons c cs ih =>
      obtain ⟨next, hstep, hnext⟩ := step_feed_of_feed_cons h
      have hbehind := behind_step hsound (kinds_ne_nil_of_root hroot) hstep
      exact ih hbehind.sound (hbehind.root.trans hroot) hnext

/-- A complete value leaves room for gaps alone. -/
lemma eq_of_feed_complete {value : Json} {cs : List Char} {r : Reader}
    (h : feed ⟨.complete value, []⟩ cs = .ok r) : r = ⟨.complete value, []⟩ := by
  induction cs with
  | nil => exact (Except.ok.inj h).symm
  | cons c cs ih =>
      obtain ⟨next, hstep, hnext⟩ := step_feed_of_feed_cons h
      have hbehind : (if isGap c then some ⟨.complete value, []⟩ else none) = some next :=
        expect_eq_ok hstep
      split at hbehind
      · obtain rfl := Option.some.inj hbehind
        exact ih hnext
      · exact absurd hbehind (by simp)

/-! ### The brace that closes the outermost object -/

lemma depth_step_eq_zero {scan : BraceScan} {c : Char} (h : scan.closes c = true) :
    (scan.step c).depth = 0 := by
  simp only [BraceScan.closes, Bool.and_eq_true, Bool.not_eq_true', beq_iff_eq] at h
  obtain ⟨⟨hstring, rfl⟩, hdepth⟩ := h
  simp [BraceScan.step, hstring, hdepth]

lemma depth_step_pos {scan : BraceScan} {c : Char} (hdepth : 0 < scan.depth)
    (h : scan.closes c = false) : 0 < (scan.step c).depth := by
  rw [BraceScan.step]
  split
  · split
    · exact hdepth
    split
    · exact hdepth
    split
    · exact hdepth
    · exact hdepth
  rename_i hstring
  split
  · exact hdepth
  split
  · exact Nat.succ_pos _
  split
  · rename_i hclose
    have hone : scan.depth ≠ 1 := by
      intro hone
      rw [BraceScan.closes, Bool.eq_false_iff.mpr hstring, hclose, hone] at h
      exact absurd h (by decide)
    exact Nat.sub_pos_of_lt (by omega)
  · exact hdepth

/-- If the outermost value is an object and no object is open, then that value is complete. -/
lemma complete_of_depth {r : Reader} (hsound : r.Sound) (hroot : r.kinds.getLast? = some true)
    (hdepth : r.scan.depth = 0) : ∃ value, r = ⟨.complete value, []⟩ := by
  obtain ⟨reading, containers⟩ := r
  obtain ⟨hfield, hnone⟩ := Nat.add_eq_zero_iff.mp hdepth
  rw [List.countP_eq_zero] at hnone
  have hempty : containers = [] := by
    by_contra hne
    have hmap : containers.map OpenContainer.isObject ≠ [] := by simpa using hne
    rw [kinds, List.getLast?_append_of_ne_nil _ hmap] at hroot
    obtain ⟨container, hmem, hobject⟩ := List.mem_map.mp (List.mem_of_getLast? hroot)
    exact hnone container hmem hobject
  subst hempty
  cases reading with
  | complete value => exact ⟨value, rfl⟩
  | name left value =>
      have hvalue : value.isObject = true := by simpa [kinds, Reading.kind?] using hroot
      rw [hsound.2] at hvalue
      exact absurd hvalue (by simp)
  | value _ => exact absurd hroot (by simp [kinds, Reading.kind?])
  | afterPart => exact absurd hroot (by simp [kinds, Reading.kind?])
  | fieldName _ _ => exact absurd hfield (by simp [Reading.isField])
  | colon _ _ => exact absurd hfield (by simp [Reading.isField])
  | number _ => exact absurd hroot (by simp [kinds, Reading.kind?, Reading.isField])
  | string role _ _ =>
      obtain hname : role.isName = true := Option.some.inj hroot
      exact absurd hfield (by simp [Reading.isField, hname])
  | escape role _ _ =>
      obtain hname : role.isName = true := Option.some.inj hroot
      exact absurd hfield (by simp [Reading.isField, hname])
  | hex role _ _ _ _ =>
      obtain hname : role.isName = true := Option.some.inj hroot
      exact absurd hfield (by simp [Reading.isField, hname])

/-- **The scan stops where the object ends.**  Where an object is being read and later is complete,
    the brace that the scan stops at completes it, whatever stands behind. -/
lemma exists_closingPiece {state r : Reader} {cs : List Char} (hsound : state.Sound)
    (hroot : state.kinds.getLast? = some true) (hdepth : 0 < state.scan.depth)
    (h : state.feed cs = .ok r) (hclosed : r.scan.depth = 0) :
    ∃ piece gap, cs = piece ++ gap ∧
      (∀ rest, closingPiece? state.scan (cs ++ rest) = some (piece, gap ++ rest)) ∧
        state.feed piece = .ok r := by
  induction cs generalizing state with
  | nil =>
      obtain rfl := Except.ok.inj h
      exact absurd hclosed hdepth.ne'
  | cons c cs ih =>
      obtain ⟨next, hstep, hnext⟩ := step_feed_of_feed_cons h
      have hbehind := behind_step hsound (kinds_ne_nil_of_root hroot) hstep
      cases hcloses : state.scan.closes c with
      | true =>
          obtain ⟨value, rfl⟩ := complete_of_depth hbehind.sound (hbehind.root.trans hroot)
            (by rw [hbehind.scan, depth_step_eq_zero hcloses])
          obtain rfl := eq_of_feed_complete hnext
          refine ⟨[c], cs, rfl, fun rest => ?_, feed_cons_of_step hstep⟩
          rw [List.cons_append, closingPiece?, hcloses, if_pos rfl]
      | false =>
          obtain ⟨piece, gap, hcs, hpiece, hfeed⟩ := ih hbehind.sound (hbehind.root.trans hroot)
            (by rw [hbehind.scan]; exact depth_step_pos hdepth hcloses) hnext
          refine ⟨c :: piece, gap, by rw [hcs, List.cons_append], fun rest => ?_, ?_⟩
          · rw [List.cons_append, closingPiece?, hcloses, ← hbehind.scan, hpiece]
            rfl
          · rw [feed_cons_of_step hstep, hfeed]

end Reader

/-! ## Texts that read as objects -/

/-- A text reads as an object. -/
def ReadsAsObject (cs : List Char) : Prop :=
  ∃ fields, read? cs = some (.obj fields)

lemma readsAsObject_iff {cs : List Char} :
    ReadsAsObject cs ↔ (read? cs).any isObject = true := by
  cases hread : read? cs with
  | none => simp [ReadsAsObject, hread]
  | some value => cases value <;> simp [ReadsAsObject, hread, isObject]

namespace Reader

lemma reading_of_finish {r : Reader} {fields : List (String × Json)}
    (h : r.finish = .ok (.obj fields)) : r.reading = .complete (.obj fields) := by
  unfold finish at h
  split at h
  · rename_i hreading
    rw [hreading, Except.ok.inj h]
  · rename_i written hreading
    cases hvalue : number written.reverse with
    | error e => exact absurd h (by simp [hvalue, bind, Except.bind])
    | ok value =>
        simp only [hvalue, bind, Except.bind] at h
        split at h
        · have hobject := isObject_of_number hvalue
          rw [Except.ok.inj h] at hobject
          exact absurd hobject (by simp [isObject])
        · exact absurd h (by simp [throw, throwThe, MonadExceptOf.throw])
  · exact absurd h (by simp)

lemma read_eq_of_feed {cs : List Char} {value : Json}
    (h : start.feed cs = .ok ⟨.complete value, []⟩) : read? cs = some value := by
  rw [read?, read, h]
  rfl

/-- What reads as an object is complete in the end. -/
lemma feed_of_read_obj {cs : List Char} {fields : List (String × Json)}
    (h : read? cs = some (.obj fields)) :
    ∃ r, start.feed cs = .ok r ∧ r.reading = .complete (.obj fields) := by
  rw [read?, read] at h
  cases hfeed : start.feed cs with
  | error e => exact absurd h (by simp [hfeed, bind, Except.bind, Except.toOption])
  | ok r =>
      cases hfinish : r.finish with
      | error e => exact absurd h (by simp [hfeed, hfinish, bind, Except.bind, Except.toOption])
      | ok value =>
          have hvalue : value = .obj fields := by
            simpa [hfeed, hfinish, bind, Except.bind, Except.toOption] using h
          exact ⟨r, rfl, reading_of_finish (hvalue ▸ hfinish)⟩

/-- The first character that is no gap settles what a text can read as. -/
lemma behind_start {c : Char} {r : Reader} (hgap : isGap c = false)
    (h : start.step c = .ok r) : Behind (outside []) [c == '\x7b'] c r := by
  have hstep : stepWithin ⟨.value false, []⟩ c = some r := expect_eq_ok h
  simp only [stepWithin, hgap] at hstep
  exact behind_startValue hstep

end Reader

namespace ReadsAsObject

open Diagram Reader

/-- **The leading object of a text that begins with one.**  It is found whatever stands behind, and
    it reads as an object itself. -/
lemma leadingObject? {cs : List Char} (h : ReadsAsObject cs)
    (hhead : ∀ c ∈ cs.head?, isGap c = false) :
    ∃ piece gap, cs = piece ++ gap ∧ ReadsAsObject piece ∧
      ∀ rest, Diagram.leadingObject? (cs ++ rest) = some (piece, gap ++ rest) := by
  obtain ⟨fields, hread⟩ := h
  obtain ⟨r, hfeed, hreading⟩ := feed_of_read_obj hread
  cases cs with
  | nil =>
      obtain rfl := Except.ok.inj hfeed
      exact absurd hreading (by simp [start])
  | cons c cs =>
      obtain ⟨first, hfirst, hrest⟩ := step_feed_of_feed_cons hfeed
      have hbehind := behind_start (hhead c rfl) hfirst
      obtain ⟨hsound, hroot⟩ := root_of_feed hbehind.sound hbehind.root hrest
      obtain ⟨reading, containers⟩ := r
      obtain rfl : reading = .complete (.obj fields) := hreading
      obtain rfl : containers = [] := hsound
      obtain rfl : c = '\x7b' := by simpa [kinds, Reading.kind?, isObject] using hroot.symm
      obtain ⟨piece, gap, hcs, hpiece, hcomplete⟩ := exists_closingPiece hbehind.sound hbehind.root
        (by rw [hbehind.scan]; decide) hrest rfl
      refine ⟨'\x7b' :: piece, gap, by rw [hcs, List.cons_append], ⟨fields, read_eq_of_feed ?_⟩,
        fun rest => ?_⟩
      · rw [feed_cons_of_step hfirst, hcomplete]
      · have hscan : first.scan = ⟨1, false, false⟩ := hbehind.scan
        rw [hscan] at hpiece
        rw [List.cons_append, Diagram.leadingObject?, closingPiece?, if_neg (by decide)]
        exact congrArg (Option.map _) (hpiece rest)

lemma ne_nil {cs : List Char} (h : ReadsAsObject cs) : cs ≠ [] := by
  rintro rfl
  obtain ⟨fields, hread⟩ := h
  exact absurd hread (by simp [show read? [] = none from rfl])

end ReadsAsObject
end Json

namespace Diagram

open Json

/-! ## The two parts of a note -/

/-- The shortest piece in front of a text that reads as an object, and what stands behind it. -/
structure ShortestObject (body piece rest : List Char) : Prop where
  split : piece ++ rest = body
  reads : ReadsAsObject piece
  shortest : ∀ other, other <+: body → ReadsAsObject other → piece.length ≤ other.length

lemma isBlank_of_isGap {c : Char} (h : Reader.isGap c = true) : Text.isBlank c = true := by
  simp only [Reader.isGap, Bool.or_eq_true, beq_iff_eq] at h
  rcases h with ((rfl | rfl) | rfl) | rfl <;> decide

/-- An object in front of a trimmed text is found at its closing brace. -/
lemma leadingObject?_of_prefix {text other : List Char} (hfront : other <+: Text.trim text)
    (hother : ReadsAsObject other) :
    ∃ piece rest, leadingObject? (Text.trim text) = some (piece, rest) ∧ ReadsAsObject piece ∧
      piece.length ≤ other.length := by
  obtain ⟨behind, hbody⟩ := hfront
  have hne : Text.trim text ≠ [] := by
    rw [← hbody]
    exact List.append_ne_nil_of_left_ne_nil hother.ne_nil _
  have htight := Text.tight_of_trim_eq hne (Text.trim_trim text)
  have hhead : ∀ c ∈ other.head?, Reader.isGap c = false := by
    intro c hc
    have hblank := htight.head c (by rwa [← hbody, List.head?_append_of_ne_nil _ hother.ne_nil])
    rw [Bool.eq_false_iff]
    intro hgap
    rw [isBlank_of_isGap hgap] at hblank
    exact absurd hblank (by simp)
  obtain ⟨piece, gap, hsplit, hpiece, hlead⟩ := hother.leadingObject? hhead
  refine ⟨piece, gap ++ behind, ?_, hpiece, ?_⟩
  · rw [← hbody, hlead]
  · rw [hsplit, List.length_append]
    exact Nat.le_add_right _ _

/-- **Splitting a note finds exactly the object in front of it.**  The metadata is there if some
    piece in front of the trimmed text reads as an object; it is the shortest such piece, and the
    prose is what stands behind, without blanks and without one separator.  Otherwise the whole
    trimmed text is prose. -/
theorem splitNote_leadingObject (text : String) :
    ((splitNote text).1.isSome = true ↔
        ∃ piece, piece <+: Text.trim text.toList ∧ ReadsAsObject piece) ∧
      ((∃ piece rest, ShortestObject (Text.trim text.toList) piece rest ∧
          splitNote text =
            (some (String.ofList piece), prose? (dropSeparator (Text.trim rest)))) ∨
        ((¬ ∃ piece, piece <+: Text.trim text.toList ∧ ReadsAsObject piece) ∧
          splitNote text = (none, prose? (Text.trim text.toList)))) := by
  by_cases hfound : ∃ piece rest,
      leadingObject? (Text.trim text.toList) = some (piece, rest) ∧ ReadsAsObject piece
  · obtain ⟨piece, rest, hlead, hpiece⟩ := hfound
    have hsplit := append_of_leadingObject? hlead
    have hnote : splitNote text =
        (some (String.ofList piece), prose? (dropSeparator (Text.trim rest))) := by
      simp only [splitNote, hlead, readsAsObject_iff.mp hpiece, if_true]
    refine ⟨?_, .inl ⟨piece, rest, ⟨hsplit, hpiece, fun other hfront hother => ?_⟩, hnote⟩⟩
    · rw [hnote]
      exact iff_of_true rfl ⟨piece, ⟨rest, hsplit⟩, hpiece⟩
    · obtain ⟨piece', rest', hlead', -, hlength⟩ := leadingObject?_of_prefix hfront hother
      rw [hlead] at hlead'
      obtain rfl : piece = piece' := congrArg Prod.fst (Option.some.inj hlead')
      exact hlength
  · have hnone : ¬ ∃ piece, piece <+: Text.trim text.toList ∧ ReadsAsObject piece := by
      rintro ⟨other, hfront, hother⟩
      obtain ⟨piece, rest, hlead, hpiece, -⟩ := leadingObject?_of_prefix hfront hother
      exact hfound ⟨piece, rest, hlead, hpiece⟩
    have hnote : splitNote text = (none, prose? (Text.trim text.toList)) := by
      cases hlead : leadingObject? (Text.trim text.toList) with
      | none => simp only [splitNote, hlead]
      | some found =>
          have hpiece : ¬ (read? found.1).any isObject = true := fun hobject =>
            hfound ⟨found.1, found.2, hlead, readsAsObject_iff.mpr hobject⟩
          simp [splitNote, hlead, hpiece]
    refine ⟨?_, .inr ⟨hnone, hnote⟩⟩
    rw [hnote]
    exact iff_of_false (by simp) hnone

end Diagram
end ActivityFlow
