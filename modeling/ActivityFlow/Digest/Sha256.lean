import ActivityFlow.Text.Quoted

/-!
# The SHA-256 digest

The digest that fingerprints are cut from.  The message is padded to blocks of sixteen words; each
block drives sixty-four rounds over eight working words.  The message schedule is kept as a window
of sixteen words that moves along by one word a round, so a round needs no index into the message.

* `Sha256.pad` — the padded message, a whole number of blocks (`length_pad`).
* `Sha256.compress` — the effect of one block.
* `Sha256.digest` — the eight words of the digest; `Sha256.hex` writes them out.
-/

namespace ActivityFlow

namespace Sha256

/-! ## Constants -/

/-- The constant of each round. -/
def roundConstants : List UInt32 := [
  0x428a2f98, 0x71374491, 0xb5c0fbcf, 0xe9b5dba5, 0x3956c25b, 0x59f111f1, 0x923f82a4, 0xab1c5ed5,
  0xd807aa98, 0x12835b01, 0x243185be, 0x550c7dc3, 0x72be5d74, 0x80deb1fe, 0x9bdc06a7, 0xc19bf174,
  0xe49b69c1, 0xefbe4786, 0x0fc19dc6, 0x240ca1cc, 0x2de92c6f, 0x4a7484aa, 0x5cb0a9dc, 0x76f988da,
  0x983e5152, 0xa831c66d, 0xb00327c8, 0xbf597fc7, 0xc6e00bf3, 0xd5a79147, 0x06ca6351, 0x14292967,
  0x27b70a85, 0x2e1b2138, 0x4d2c6dfc, 0x53380d13, 0x650a7354, 0x766a0abb, 0x81c2c92e, 0x92722c85,
  0xa2bfe8a1, 0xa81a664b, 0xc24b8b70, 0xc76c51a3, 0xd192e819, 0xd6990624, 0xf40e3585, 0x106aa070,
  0x19a4c116, 0x1e376c08, 0x2748774c, 0x34b0bcb5, 0x391c0cb3, 0x4ed8aa4a, 0x5b9cca4f, 0x682e6ff3,
  0x748f82ee, 0x78a5636f, 0x84c87814, 0x8cc70208, 0x90befffa, 0xa4506ceb, 0xbef9a3f7, 0xc67178f2]

/-- The eight working words. -/
structure Words where
  a : UInt32
  b : UInt32
  c : UInt32
  d : UInt32
  e : UInt32
  f : UInt32
  g : UInt32
  h : UInt32

/-- The working words before the first block. -/
def initial : Words where
  a := 0x6a09e667
  b := 0xbb67ae85
  c := 0x3c6ef372
  d := 0xa54ff53a
  e := 0x510e527f
  f := 0x9b05688c
  g := 0x1f83d9ab
  h := 0x5be0cd19

/-! ## Rounds -/

/-- Rotation to the right. -/
def rotate (n x : UInt32) : UInt32 :=
  (x >>> n) ||| (x <<< (32 - n))

/-- The word that enters the window of the message schedule. -/
def nextWord (window : List UInt32) : UInt32 :=
  let word (i : Nat) : UInt32 := window.getD i 0
  let s0 := rotate 7 (word 1) ^^^ rotate 18 (word 1) ^^^ (word 1 >>> 3)
  let s1 := rotate 17 (word 14) ^^^ rotate 19 (word 14) ^^^ (word 14 >>> 10)
  word 0 + s0 + word 9 + s1

/-- One round, with the constant of the round and the first word of the window. -/
def round (w : Words) (constant word : UInt32) : Words :=
  let s1 := rotate 6 w.e ^^^ rotate 11 w.e ^^^ rotate 25 w.e
  let choice := (w.e &&& w.f) ^^^ (~~~w.e &&& w.g)
  let t1 := w.h + s1 + choice + constant + word
  let s0 := rotate 2 w.a ^^^ rotate 13 w.a ^^^ rotate 22 w.a
  let majority := (w.a &&& w.b) ^^^ (w.a &&& w.c) ^^^ (w.b &&& w.c)
  { a := t1 + (s0 + majority), b := w.a, c := w.b, d := w.c,
    e := w.d + t1, f := w.e, g := w.f, h := w.g }

/-- The effect of one block of sixteen words. -/
def compress (before : Words) (block : List UInt32) : Words :=
  let after := (roundConstants.foldl
    (fun (state : Words × List UInt32) constant =>
      (round state.1 constant (state.2.headD 0), state.2.tail ++ [nextWord state.2]))
    (before, block)).1
  { a := before.a + after.a, b := before.b + after.b, c := before.c + after.c,
    d := before.d + after.d, e := before.e + after.e, f := before.f + after.f,
    g := before.g + after.g, h := before.h + after.h }

/-! ## The message -/

/-- The bytes of a number, most significant first. -/
def bigEndian : (width : Nat) → Nat → List Nat
  | 0, _ => []
  | width + 1, n => n / Nat.pow 256 width % 256 :: bigEndian width n

theorem length_bigEndian (width n : Nat) : (bigEndian width n).length = width := by
  induction width with
  | zero => rfl
  | succ width ih => simp [bigEndian, ih]

/-- How many zero bytes stand between the marker byte and the length. -/
def zeroCount (length : Nat) : Nat :=
  (119 - length % 64) % 64

/-- The padded message: the bytes, a marker, zeros, and the length in bits. -/
def pad (bytes : List Nat) : List Nat :=
  bytes ++ 0x80 :: (List.replicate (zeroCount bytes.length) 0 ++ bigEndian 8 (8 * bytes.length))

/-- **The padded message is a whole number of blocks.** -/
theorem length_pad (bytes : List Nat) : (pad bytes).length % 64 = 0 := by
  simp only [pad, List.length_append, List.length_cons, List.length_replicate, length_bigEndian,
    zeroCount]
  omega

/-- The words of four bytes each. -/
def wordsOfBytes : List Nat → List UInt32
  | a :: b :: c :: d :: rest =>
    UInt32.ofNat (((a * 256 + b) * 256 + c) * 256 + d) :: wordsOfBytes rest
  | _ => []

/-- The working words after so many blocks. -/
def compressBlocks : (blocks : Nat) → Words → List UInt32 → Words
  | 0, w, _ => w
  | blocks + 1, w, words => compressBlocks blocks (compress w (words.take 16)) (words.drop 16)

/-- The digest of a message of bytes. -/
def digest (bytes : List Nat) : List UInt32 :=
  let padded := pad bytes
  let w := compressBlocks (padded.length / 64) initial (wordsOfBytes padded)
  [w.a, w.b, w.c, w.d, w.e, w.f, w.g, w.h]

/-- The digest in hexadecimal. -/
def hex (bytes : List Nat) : List Char :=
  (digest bytes).flatMap fun word => Text.hexDigits 8 word.toNat

end Sha256

end ActivityFlow
