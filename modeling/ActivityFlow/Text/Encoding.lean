/-!
# Encodings

A text that arrives as bytes may be in one of five encodings.  For a text that begins with two ASCII
characters, which every JSON text does, the zeros among the first bytes tell them apart.

* `Encoding.ofBytes` — the encoding that the first bytes suggest.
* `Encoding.decode` — the characters of bytes in an encoding of two or four bytes a unit.

**Surrogates.**  Two surrogates that belong together stand for one character.  A surrogate that
stands alone is let through as the replacement character U+FFFD, so only an incomplete unit and a
number beyond the last character are errors.
-/

namespace ActivityFlow.Text

/-- The byte order of units. -/
inductive ByteOrder where
  | big
  | little
  deriving DecidableEq, Repr

/-- An encoding of characters. -/
inductive Encoding where
  | utf8
  | utf16 (order : ByteOrder)
  | utf32 (order : ByteOrder)
  deriving DecidableEq, Repr

/-- Why bytes cannot be decoded: the bytes at these places are no character. -/
structure DecodeError where
  encoding : Encoding
  first : Nat
  last : Nat
  /-- The first of the bytes. -/
  byte : Nat
  /-- Whether they are all that is left, and too few for a unit. -/
  truncated : Bool
  deriving DecidableEq, Repr

namespace Encoding

/-- The name of an encoding. -/
def name : Encoding → String
  | utf8 => "utf-8"
  | utf16 .big => "utf-16-be"
  | utf16 .little => "utf-16-le"
  | utf32 .big => "utf-32-be"
  | utf32 .little => "utf-32-le"

/-- **The encoding that the first bytes suggest.**  Three bytes and single ones are too few to say
anything. -/
def ofBytes : List Nat → Encoding
  | 0 :: 0 :: _ :: _ :: _ => utf32 .big
  | 0 :: _ :: _ :: _ :: _ => utf16 .big
  | _ :: 0 :: 0 :: 0 :: _ => utf32 .little
  | _ :: 0 :: _ :: _ :: _ => utf16 .little
  | [0, _] => utf16 .big
  | [_, 0] => utf16 .little
  | _ => utf8

/-- The value of the bytes of a unit. -/
def unit (order : ByteOrder) (bytes : List Nat) : Nat :=
  match order with
  | .big => bytes.foldl (fun n b => n * 256 + b) 0
  | .little => bytes.foldr (fun b n => n * 256 + b) 0

/-- The units of bytes, two bytes a unit; what is left in the end is too short for one. -/
def pairs (order : ByteOrder) : (place : Nat) → List Nat → Except DecodeError (List Nat)
  | _, [] => .ok []
  | place, [b] => .error ⟨utf16 order, place, place, b, true⟩
  | place, b :: c :: bytes => do
    let units ← pairs order (place + 2) bytes
    return unit order [b, c] :: units

/-- The character with a number; a surrogate is none. -/
def charOf (code : Nat) : Char :=
  if 0xd800 ≤ code && code < 0xe000 then '\ufffd' else Char.ofNat code

/-- Whether two units are surrogates that belong together. -/
def isPair (u v : Nat) : Bool :=
  0xd800 ≤ u && u < 0xdc00 && 0xdc00 ≤ v && v < 0xe000

/-- The characters of units of two bytes. -/
def joinSurrogates : List Nat → List Char
  | [] => []
  | [u] => [charOf u]
  | u :: v :: units =>
    if isPair u v then
      Char.ofNat (0x10000 + (u - 0xd800) * 0x400 + (v - 0xdc00)) :: joinSurrogates units
    else charOf u :: joinSurrogates (v :: units)

/-- The characters of bytes, four bytes a unit. -/
def quads (order : ByteOrder) : (place : Nat) → List Nat → Except DecodeError (List Char)
  | _, [] => .ok []
  | place, b :: c :: d :: e :: bytes =>
    let code := unit order [b, c, d, e]
    if 0x110000 ≤ code then .error ⟨utf32 order, place, place + 3, b, false⟩
    else do
      let cs ← quads order (place + 4) bytes
      return charOf code :: cs
  | place, b :: bytes => .error ⟨utf32 order, place, place + bytes.length, b, true⟩

/-- A text without the byte order mark in front. -/
def dropMark : List Char → List Char
  | '\ufeff' :: cs => cs
  | cs => cs

/-- The bytes of a string. -/
def bytesOf (s : String) : List Nat :=
  s.toUTF8.toList.map UInt8.toNat

/-- **The characters that the bytes of a string stand for**, in the encoding that the first bytes
suggest.  The byte order mark in front belongs to the encoding and not to the text. -/
def reread (s : String) : Except DecodeError (List Char) :=
  match ofBytes (bytesOf s) with
  | utf8 => .ok (dropMark s.toList)
  | utf16 order => (pairs order 0 (bytesOf s)).map joinSurrogates
  | utf32 order => quads order 0 (bytesOf s)

end Encoding

/-- A byte in two hexadecimal digits. -/
def hexByte (b : Nat) : String :=
  String.ofList [Nat.digitChar (b / 16), Nat.digitChar (b % 16)]

/-- The message of an error. -/
def DecodeError.message (e : DecodeError) : String :=
  let place :=
    if e.first = e.last then
      "byte 0x" ++ hexByte e.byte ++ " in position " ++ toString e.first
    else "bytes in position " ++ toString e.first ++ "-" ++ toString e.last
  let reason := if e.truncated then "truncated data" else "code point not in range(0x110000)"
  "'" ++ e.encoding.name ++ "' codec can't decode " ++ place ++ ": " ++ reason

end ActivityFlow.Text
