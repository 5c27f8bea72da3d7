import ActivityFlow.Json.Basic
import ActivityFlow.Text.Numeral

/-!
# Reading JSON text

The reader takes the text one character at a time.  Its state is what is being read right now
together with the containers that are still open, innermost first, so reading is a fold over the
characters and any way of cutting the text in two reads the same (`read_append`, `feed_append`).

**What is accepted.**  The grammar of JSON, and besides it the names `NaN`, `Infinity` and
`-Infinity`.  Blanks between tokens are the four of the grammar.  A control character inside a
string is refused.  Escaped surrogates are joined to one character when they follow one another as
a pair; a lone one reads as the replacement character U+FFFD.  Of fields with the same name the
last one counts, at the place of the first.

**Limits.**  A whole number may have no more digits than a numeral may have; numbers with a fraction
or an exponent have no such limit.

* `Reader` — the state between two characters.
* `Reader.step` — the effect of one character.
* `Json.read` — the value of a whole text.
-/

namespace ActivityFlow

namespace Json

/-- Why a text cannot be read. -/
inductive ReadError where
  | notJson
  /-- A whole number has more digits than a numeral may have. -/
  | tooManyDigits (count : Nat)
  deriving DecidableEq, Repr

/-- The message of an error; a text that is not JSON needs no further words. -/
def ReadError.message : ReadError → String
  | notJson => ""
  | tooManyDigits count =>
    "Exceeds the limit (" ++ toString Text.maxDigits ++
      " digits) for integer string conversion: value has " ++ toString count ++
      " digits; use sys.set_int_max_str_digits() to increase the limit"

/-! ## Numbers -/

/-- The value of a text of ASCII digits. -/
def digitsValue (cs : List Char) : Nat :=
  cs.foldl (fun n c => n * 10 + (c.toNat - 48)) 0

/-- The digits in front of a text, and the rest. -/
def digits (cs : List Char) : List Char × List Char :=
  (cs.takeWhile Char.isDigit, cs.dropWhile Char.isDigit)

/-- The whole part in front of a text, and the rest.  Nothing stands behind a leading zero. -/
def whole : List Char → List Char × List Char
  | '0' :: cs => (['0'], cs)
  | cs => digits cs

/-- The digits of the fraction in front of a text, and the rest.  A point without digits behind it
opens no fraction. -/
def fraction : List Char → List Char × List Char
  | '.' :: cs => if (digits cs).1.isEmpty then ([], '.' :: cs) else digits cs
  | cs => ([], cs)

/-- The digits in front of a text as a whole number, if there are any, and the rest. -/
def naturalPower? (cs : List Char) : Option (Nat × List Char) :=
  if (digits cs).1.isEmpty then none else some (digitsValue (digits cs).1, (digits cs).2)

/-- A power with an optional sign in front of a text, and the rest. -/
def signedPower? : List Char → Option (Int × List Char)
  | '-' :: cs => (naturalPower? cs).map fun found => (-(found.1 : Int), found.2)
  | '+' :: cs => (naturalPower? cs).map fun found => ((found.1 : Int), found.2)
  | cs => (naturalPower? cs).map fun found => ((found.1 : Int), found.2)

/-- The exponent in front of a text, if there is one, and the rest. -/
def exponent (cs : List Char) : Option Int × List Char :=
  match cs with
  | c :: rest =>
    if c == 'e' || c == 'E' then
      match signedPower? rest with
      | some (power, rest) => (some power, rest)
      | none => (none, cs)
    else (none, cs)
  | [] => (none, [])

/-- A whole number by its digits. -/
def wholeNumber (negative : Bool) (cs : List Char) : Except ReadError Json :=
  if Text.maxDigits < cs.length then .error (.tooManyDigits cs.length)
  else .ok (.int (if negative then -(digitsValue cs : Int) else digitsValue cs))

/-- A number with a fraction or an exponent. -/
def realNumber (negative : Bool) (whole places : List Char) (power : Int) : Json :=
  let significant := (whole ++ places).dropWhile (· == '0')
  .real (Binary64.ofDecimal negative (digitsValue significant) significant.length
    (power - places.length))

/-- The number in front of a text, and the rest. -/
def leadingNumber (negative : Bool) (cs : List Char) : Except ReadError (Json × List Char) :=
  let (front, rest) := whole cs
  let (places, rest) := fraction rest
  let (power, rest) := exponent rest
  if front.isEmpty then .error .notJson
  else if places.isEmpty && power.isNone then
    (wholeNumber negative front).map fun value => (value, rest)
  else .ok (realNumber negative front places (power.getD 0), rest)

/-- The value of an unsigned number, which has to be the whole text.  The number in front is read
first, so a number with too many digits is reported before what follows it. -/
def magnitude (negative : Bool) (cs : List Char) : Except ReadError Json := do
  let (value, rest) ← leadingNumber negative cs
  if rest.isEmpty then return value else throw .notJson

/-- The value of a number. -/
def number : List Char → Except ReadError Json
  | '-' :: cs => magnitude true cs
  | cs => magnitude false cs

/-! ## The state of the reader -/

/-- A container that is still open, with its parts read so far, the last one first for an array. -/
inductive OpenContainer where
  | array (items : List Json)
  /-- An object, with the name of the field whose value is awaited. -/
  | object (fields : List (String × Json)) (name : String)

/-- What a string being read will be. -/
inductive StringRole where
  | value
  /-- The name of the next field of an object with these fields. -/
  | name (fields : List (String × Json))

/-- What the reader is in the middle of. -/
inductive Reading where
  /-- A value is awaited; directly behind `[` the array may also close. -/
  | value (mayClose : Bool)
  /-- A field name is awaited; directly behind `{` the object may also close. -/
  | fieldName (fields : List (String × Json)) (mayClose : Bool)
  /-- The colon behind a field name is awaited. -/
  | colon (fields : List (String × Json)) (name : String)
  /-- A part of the innermost container is complete. -/
  | afterPart
  /-- A string: its characters so far, the last one first, and an unpaired high surrogate. -/
  | string (role : StringRole) (written : List Char) (high : Option Nat)
  | escape (role : StringRole) (written : List Char) (high : Option Nat)
  /-- A hexadecimal escape: digits still to come, and the value so far. -/
  | hex (role : StringRole) (written : List Char) (high : Option Nat) (left value : Nat)
  /-- A number: its characters so far, the last one first. -/
  | number (written : List Char)
  /-- One of the names, with the characters still to come. -/
  | name (left : List Char) (value : Json)
  /-- The whole value is complete. -/
  | complete (value : Json)

/-- The state of the reader between two characters. -/
structure Reader where
  reading : Reading
  /-- The containers still open, innermost first. -/
  containers : List OpenContainer

namespace Reader

/-- The state before the first character. -/
def start : Reader := ⟨.value false, []⟩

/-- Blanks between tokens. -/
def isGap (c : Char) : Bool :=
  c == ' ' || c == '\t' || c == '\n' || c == '\r'

/-- A value is complete: it joins the innermost container, or it is the whole value. -/
def accept (value : Json) : List OpenContainer → Reader
  | [] => ⟨.complete value, []⟩
  | .array items :: rest => ⟨.afterPart, .array (value :: items) :: rest⟩
  | .object fields name :: rest => ⟨.afterPart, .object (putField name value fields) name :: rest⟩

/-- The characters of a string, a surrogate that found no partner replaced. -/
def flush (written : List Char) : Option Nat → List Char
  | none => written
  | some _ => '\ufffd' :: written

/-- The end of a string. -/
def endString (role : StringRole) (written : List Char) (containers : List OpenContainer) :
    Reader :=
  let s := String.ofList written.reverse
  match role with
  | .value => accept (.str s) containers
  | .name fields => ⟨.colon fields s, containers⟩

/-- A code read from a hexadecimal escape joins a string. -/
def addCode (role : StringRole) (written : List Char) (high : Option Nat) (code : Nat) : Reading :=
  let isHigh := 0xd800 ≤ code && code < 0xdc00
  let isLow := 0xdc00 ≤ code && code < 0xe000
  match high with
  | some h =>
    if isLow then
      .string role (Char.ofNat (0x10000 + (h - 0xd800) * 0x400 + (code - 0xdc00)) :: written) none
    else if isHigh then .string role ('\ufffd' :: written) (some code)
    else .string role (Char.ofNat code :: '\ufffd' :: written) none
  | none =>
    if isHigh then .string role written (some code)
    else if isLow then .string role ('\ufffd' :: written) none
    else .string role (Char.ofNat code :: written) none

/-- The value of a hexadecimal digit. -/
def hexValue? (c : Char) : Option Nat :=
  if c.isDigit then some (c.toNat - 48)
  else if 'a' ≤ c && c ≤ 'f' then some (c.toNat - 87)
  else if 'A' ≤ c && c ≤ 'F' then some (c.toNat - 55)
  else none

/-- The character that a short escape stands for. -/
def shortEscape? : Char → Option Char
  | '\x22' => some '\x22'
  | '\x5c' => some '\x5c'
  | '/' => some '/'
  | 'b' => some '\x08'
  | 'f' => some '\x0c'
  | 'n' => some '\n'
  | 'r' => some '\r'
  | 't' => some '\t'
  | _ => none

/-- Whether a character can belong to a number. -/
def isNumberChar (c : Char) : Bool :=
  c.isDigit || c == '.' || c == '-' || c == '+' || c == 'e' || c == 'E'

/-- The first character of a value. -/
def startValue (containers : List OpenContainer) (c : Char) : Option Reader :=
  if c == '\x22' then some ⟨.string .value [] none, containers⟩
  else if c == '[' then some ⟨.value true, .array [] :: containers⟩
  else if c == '\x7b' then some ⟨.fieldName [] true, containers⟩
  else if c == '-' || c.isDigit then some ⟨.number [c], containers⟩
  else if c == 'n' then some ⟨.name ['u', 'l', 'l'] .null, containers⟩
  else if c == 't' then some ⟨.name ['r', 'u', 'e'] (.bool true), containers⟩
  else if c == 'f' then some ⟨.name ['a', 'l', 's', 'e'] (.bool false), containers⟩
  else if c == 'N' then some ⟨.name ['a', 'N'] (.real .nan), containers⟩
  else if c == 'I' then
    some ⟨.name ['n', 'f', 'i', 'n', 'i', 't', 'y'] (.real (.infinite false)), containers⟩
  else none

/-- A character behind a complete part of a container. -/
def afterPart (containers : List OpenContainer) (c : Char) : Option Reader :=
  if isGap c then some ⟨.afterPart, containers⟩
  else match containers with
    | .array items :: rest =>
      if c == ',' then some ⟨.value false, .array items :: rest⟩
      else if c == ']' then some (accept (.arr items.reverse) rest)
      else none
    | .object fields _ :: rest =>
      if c == ',' then some ⟨.fieldName fields false, rest⟩
      else if c == '\x7d' then some (accept (.obj fields) rest)
      else none
    | [] => none

/-- A character behind a complete value, wherever that value stands. -/
def behindValue (state : Reader) (c : Char) : Option Reader :=
  match state.reading with
  | .complete value => if isGap c then some ⟨.complete value, state.containers⟩ else none
  | .afterPart => afterPart state.containers c
  | _ => none

/-- The effect of one character outside numbers. -/
def stepWithin (state : Reader) (c : Char) : Option Reader :=
  let containers := state.containers
  match state.reading with
  | .value mayClose =>
    if isGap c then some state
    else match mayClose && c == ']', containers with
      | true, .array _ :: rest => some (accept (.arr []) rest)
      | _, _ => startValue containers c
  | .fieldName fields mayClose =>
    if isGap c then some state
    else if c == '\x22' then some ⟨.string (.name fields) [] none, containers⟩
    else if mayClose && c == '\x7d' then some (accept (.obj []) containers)
    else none
  | .colon fields name =>
    if isGap c then some state
    else if c == ':' then some ⟨.value false, .object fields name :: containers⟩
    else none
  | .afterPart => behindValue state c
  | .string role written high =>
    if c == '\x22' then some (endString role (flush written high) containers)
    else if c == '\x5c' then some ⟨.escape role written high, containers⟩
    else if c.toNat < 32 then none
    else some ⟨.string role (c :: flush written high) none, containers⟩
  | .escape role written high =>
    if c == 'u' then some ⟨.hex role written high 4 0, containers⟩
    else (shortEscape? c).map fun meant =>
      ⟨.string role (meant :: flush written high) none, containers⟩
  | .hex role written high left value =>
    (hexValue? c).map fun digit =>
      let value := value * 16 + digit
      if left ≤ 1 then ⟨addCode role written high value, containers⟩
      else ⟨.hex role written high (left - 1) value, containers⟩
  | .number _ => none
  | .name left value =>
    match left with
    | [] => none
    | [last] => if c == last then some (accept value containers) else none
    | next :: more => if c == next then some ⟨.name more value, containers⟩ else none
  | .complete _ => behindValue state c

/-- What is missing is no JSON. -/
def expect {α : Type} : Option α → Except ReadError α
  | some found => .ok found
  | none => .error .notJson

/-- **The effect of one character.** -/
def step (state : Reader) (c : Char) : Except ReadError Reader :=
  match state.reading with
  | .number written =>
    if isNumberChar c then .ok ⟨.number (c :: written), state.containers⟩
    else if c == 'I' && written == ['-'] then
      .ok ⟨.name ['n', 'f', 'i', 'n', 'i', 't', 'y'] (.real (.infinite true)), state.containers⟩
    else do
      let value ← number written.reverse
      expect (behindValue (accept value state.containers) c)
  | _ => expect (stepWithin state c)

/-- The state after a piece of text, or why a character was refused. -/
def feed (state : Reader) (cs : List Char) : Except ReadError Reader :=
  cs.foldlM step state

/-- The value, if the text may end here. -/
def finish (state : Reader) : Except ReadError Json :=
  match state.reading with
  | .complete value => .ok value
  | .number written => do
    let value ← number written.reverse
    if state.containers.isEmpty then return value else throw .notJson
  | _ => .error .notJson

/-- **Reading in two pieces is reading the whole.** -/
theorem feed_append (state : Reader) (cs ds : List Char) :
    state.feed (cs ++ ds) = state.feed cs >>= (·.feed ds) := by
  simp [feed, List.foldlM_append]

end Reader

/-- The value of a text. -/
def read (cs : List Char) : Except ReadError Json :=
  Reader.start.feed cs >>= Reader.finish

/-- The value of a text, if it can be read. -/
def read? (cs : List Char) : Option Json :=
  (read cs).toOption

/-- The value of a string. -/
def parse (s : String) : Except ReadError Json :=
  read s.toList

/-- The value of a string, if it can be read. -/
def parse? (s : String) : Option Json :=
  (parse s).toOption

theorem read_append (cs ds : List Char) :
    read (cs ++ ds) = (Reader.start.feed cs >>= (·.feed ds)) >>= Reader.finish := by
  rw [read, Reader.feed_append]

end Json

end ActivityFlow
