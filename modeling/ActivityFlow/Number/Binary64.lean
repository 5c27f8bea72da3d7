/-!
# Numbers of double precision

A number with a fraction or an exponent is kept as a number of double precision: 53 bits of
mantissa, and an exponent that stops at -1074 below and at 971 above.  The values are held exactly,
as a mantissa times a power of two, so nothing here depends on a machine's arithmetic.

* `Binary64` — finite values, the two infinities, and the value that is not a number.
* `Binary64.ofRatio` — the value nearest to a ratio; a tie goes to the even mantissa.
* `Binary64.ofDecimal` — the value nearest to a decimal with a power of ten.
-/

namespace ActivityFlow

/-- A number of double precision. -/
inductive Binary64 where
  /-- The value `mantissa * 2 ^ exponent`, or its negative. -/
  | finite (negative : Bool) (mantissa : Nat) (exponent : Int)
  | infinite (negative : Bool)
  | nan
  deriving DecidableEq, Repr, Inhabited

namespace Binary64

/-- The smallest exponent of a finite value. -/
def minExponent : Int := -1074

/-- The largest exponent of a finite value. -/
def maxExponent : Int := 971

/-- The ratio multiplied by two to a power, as numerator and denominator. -/
def scaleByTwo (numerator denominator : Nat) (power : Int) : Nat × Nat :=
  if 0 ≤ power then (numerator * Nat.pow 2 power.toNat, denominator)
  else (numerator, denominator * Nat.pow 2 (-power).toNat)

/-- The whole number nearest to a ratio; a tie goes to the even one. -/
def roundRatio (numerator denominator : Nat) : Nat :=
  let quotient := numerator / denominator
  let twice := 2 * (numerator % denominator)
  if denominator < twice || (twice == denominator && quotient % 2 == 1) then quotient + 1
  else quotient

/-- The exponent at which a positive ratio has a mantissa of 53 bits, or the smallest exponent. -/
def exponentFor (numerator denominator : Nat) : Int :=
  let guess : Int := (Nat.log2 numerator : Int) - (Nat.log2 denominator : Int) - 52
  let (n, d) := scaleByTwo numerator denominator (-guess)
  let exponent := if n < d * Nat.pow 2 52 then guess - 1 else guess
  max exponent minExponent

/-- The value nearest to a ratio of natural numbers, with a sign.  A ratio beyond the largest
finite value gives an infinity. -/
def ofRatio (negative : Bool) (numerator denominator : Nat) : Binary64 :=
  if numerator = 0 then .finite negative 0 minExponent
  else
    let exponent := exponentFor numerator denominator
    let (n, d) := scaleByTwo numerator denominator (-exponent)
    let mantissa := roundRatio n d
    let carried := if mantissa = Nat.pow 2 53 then Nat.pow 2 52 else mantissa
    let exponent := if mantissa = Nat.pow 2 53 then exponent + 1 else exponent
    if maxExponent < exponent then .infinite negative else .finite negative carried exponent

/-- The value nearest to `digits * 10 ^ power`, with a sign.  `length` is the number of decimal
digits, leading zeros left out; it settles hopelessly large and small powers without computing
them. -/
def ofDecimal (negative : Bool) (digits length : Nat) (power : Int) : Binary64 :=
  if digits = 0 || (length : Int) + power < -400 then .finite negative 0 minExponent
  else if 400 < (length : Int) + power then .infinite negative
  else if 0 ≤ power then ofRatio negative (digits * Nat.pow 10 power.toNat) 1
  else ofRatio negative digits (Nat.pow 10 (-power).toNat)

end Binary64

end ActivityFlow
