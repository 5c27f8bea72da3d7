import ActivityFlow.Json.Basic
import ActivityFlow.Number.Layout
import ActivityFlow.Text.Quoted

/-!
# Writing JSON text

The one written form of a value.

* Fields stand in their own order, `": "` between name and value and `", "` between parts.
* The text is ASCII: every other character is escaped by its UTF-16 units, as are the quote, the
  backslash and the control characters.
* Numbers are written as `Binary64.layout` lays them out, the special values by the names that the
  reader knows.

`Json.write` gives the text of a value and `Json.render` the same as a string.
-/

namespace ActivityFlow

namespace Json

/-! ## Strings -/

/-- A UTF-16 unit as an escape. -/
def unitEscape (n : Nat) : List Char :=
  '\x5c' :: 'u' :: Text.hexDigits 4 n

/-- A character as it stands inside a written string. -/
def writeChar (c : Char) : List Char :=
  if c == '\x22' then ['\x5c', '\x22']
  else if c == '\x5c' then ['\x5c', '\x5c']
  else if c == '\n' then ['\x5c', 'n']
  else if c == '\r' then ['\x5c', 'r']
  else if c == '\t' then ['\x5c', 't']
  else if c == '\x08' then ['\x5c', 'b']
  else if c == '\x0c' then ['\x5c', 'f']
  else if 32 ≤ c.toNat && c.toNat < 127 then [c]
  else if c.toNat < 0x10000 then unitEscape c.toNat
  else
    let above := c.toNat - 0x10000
    unitEscape (0xd800 + above / 0x400) ++ unitEscape (0xdc00 + above % 0x400)

/-- A string between its quotes. -/
def writeString (s : String) : List Char :=
  '\x22' :: s.toList.flatMap writeChar ++ ['\x22']

/-! ## Numbers -/

/-- The decimal text of a whole number. -/
def writeInt (n : Int) : List Char :=
  if n < 0 then '-' :: Nat.toDigits 10 n.natAbs else Nat.toDigits 10 n.natAbs

/-- What the special numbers are called in JSON text. -/
def numberNames : Binary64.SpecialNames where
  nan := ['N', 'a', 'N']
  infinite := ['I', 'n', 'f', 'i', 'n', 'i', 't', 'y']

/-! ## Values -/

mutual

/-- The text of a value. -/
def write : Json → List Char
  | null => ['n', 'u', 'l', 'l']
  | bool true => ['t', 'r', 'u', 'e']
  | bool false => ['f', 'a', 'l', 's', 'e']
  | int n => writeInt n
  | real x => x.layout numberNames
  | str s => writeString s
  | arr [] => ['[', ']']
  | arr (item :: items) => '[' :: (write item ++ writeItems items)
  | obj [] => ['\x7b', '\x7d']
  | obj ((name, value) :: fields) =>
    '\x7b' :: (writeString name ++ ':' :: ' ' :: (write value ++ writeFields fields))

/-- The text of an array behind its first item. -/
def writeItems : List Json → List Char
  | [] => [']']
  | item :: items => ',' :: ' ' :: (write item ++ writeItems items)

/-- The text of an object behind its first field. -/
def writeFields : List (String × Json) → List Char
  | [] => ['\x7d']
  | (name, value) :: fields =>
    ',' :: ' ' :: (writeString name ++ ':' :: ' ' :: (write value ++ writeFields fields))

end

/-- The text of a value as a string. -/
def render (value : Json) : String :=
  String.ofList value.write

@[simp] theorem toList_render (value : Json) : value.render.toList = value.write := by
  simp [render]

end Json

end ActivityFlow
