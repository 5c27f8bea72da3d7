import ActivityFlow.Text.Blank

/-!
# Decimal numerals

Reading a whole number that a person typed.  Digits may be the decimal digits of any script, a sign
may stand in front, single underscores may stand between digits, and blanks around it do not
matter.  A numeral has at most `maxDigits` digits; that keeps reading one cheap.

* `decimalDigit?` — the value of a decimal digit.
* `readDigits?` — digits with single underscores between them.
* `readInt?` — a whole numeral.

Blanks around a numeral are passed over (`readInt?_strip`).
-/

namespace ActivityFlow.Text

/-- The zero of each run of ten decimal digits, script by script. -/
def digitZeros : List Nat := [
  0x30, 0x660, 0x6f0, 0x7c0, 0x966, 0x9e6, 0xa66, 0xae6, 0xb66, 0xbe6, 0xc66, 0xce6, 0xd66, 0xde6,
  0xe50, 0xed0, 0xf20, 0x1040, 0x1090, 0x17e0, 0x1810, 0x1946, 0x19d0, 0x1a80, 0x1a90, 0x1b50,
  0x1bb0, 0x1c40, 0x1c50, 0xa620, 0xa8d0, 0xa900, 0xa9d0, 0xa9f0, 0xaa50, 0xabf0, 0xff10,
  0x104a0, 0x10d30, 0x11066, 0x110f0, 0x11136, 0x111d0, 0x112f0, 0x11450, 0x114d0, 0x11650,
  0x116c0, 0x11730, 0x118e0, 0x11950, 0x11c50, 0x11d50, 0x11da0, 0x16a60, 0x16ac0, 0x16b50,
  0x1d7ce, 0x1d7d8, 0x1d7e2, 0x1d7ec, 0x1d7f6, 0x1e140, 0x1e2f0, 0x1e950, 0x1fbf0]

/-- The value of a decimal digit of any script. -/
def decimalDigit? (c : Char) : Option Nat :=
  digitZeros.findSome? fun first =>
    if first ≤ c.toNat && c.toNat < first + 10 then some (c.toNat - first) else none

/-- The value of at least one digit, continuing the value read so far.  One underscore may stand
between two digits. -/
def readDigits? : (value : Nat) → List Char → Option Nat
  | _, [] => none
  | value, [c] => (decimalDigit? c).map (value * 10 + ·)
  | value, c :: d :: cs => match decimalDigit? c with
    | none => none
    | some digit =>
      if d == '_' then readDigits? (value * 10 + digit) cs
      else readDigits? (value * 10 + digit) (d :: cs)

/-- The value of a numeral with an optional sign and no blanks around it. -/
def readSigned? : List Char → Option Int
  | '-' :: cs => (readDigits? 0 cs).map fun n => -(n : Int)
  | '+' :: cs => (readDigits? 0 cs).map Int.ofNat
  | cs => (readDigits? 0 cs).map Int.ofNat

/-- The most digits that a numeral may have. -/
def maxDigits : Nat := 4300

/-- How many characters of a text are decimal digits. -/
def countDigits (cs : List Char) : Nat :=
  cs.countP fun c => (decimalDigit? c).isSome

/-- The value of a whole numeral, blanks around it set aside.  Leading zeros count as digits. -/
def readInt? (s : String) : Option Int :=
  if maxDigits < countDigits (trim s.toList) then none else readSigned? (trim s.toList)

/-- Blanks around a numeral do not change what it reads as. -/
theorem readInt?_strip (s : String) : readInt? (strip s) = readInt? s := by
  simp [readInt?, trim_trim]

end ActivityFlow.Text
