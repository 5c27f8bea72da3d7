import ActivityFlow.Number.Shortest

/-!
# How a number is written

The decimal layout of numbers of double precision.  A number whose decimal point stands at most
sixteen places to the right and at most four places to the left of its first digit is written out
in full and always shows a fraction, so `1.0` and `0.0001`.  Every other number is written with an
exponent of at least two digits and a sign, so `1e+16` and `1e-05`.  Negative zero keeps its sign.
-/

namespace ActivityFlow

namespace Binary64

/-- The decimal digits of a natural number. -/
def decimalDigits (n : Nat) : List Char :=
  Nat.toDigits 10 n

/-- The digits without trailing zeros. -/
def significantDigits (n : Nat) : List Char :=
  ((decimalDigits n).reverse.dropWhile (· == '0')).reverse

/-- The exponent part: the letter, the sign, and at least two digits. -/
def exponentPart (power : Int) : List Char :=
  let digits := decimalDigits power.natAbs
  let padded := if digits.length < 2 then '0' :: digits else digits
  'e' :: (if power < 0 then '-' else '+') :: padded

/-- The text of significant digits whose decimal point stands `point` places to the right of the
front of the digits. -/
def layoutDigits (digits : List Char) (point : Int) : List Char :=
  let length : Int := digits.length
  if -4 < point && point ≤ 16 then
    if point ≤ 0 then
      '0' :: '.' :: (List.replicate (-point).toNat '0' ++ digits)
    else if length ≤ point then
      digits ++ List.replicate (point - length).toNat '0' ++ ['.', '0']
    else
      digits.take point.toNat ++ '.' :: digits.drop point.toNat
  else
    match digits with
    | [] => []
    | [d] => d :: exponentPart (point - 1)
    | d :: ds => d :: '.' :: ds ++ exponentPart (point - 1)

/-- The text of a finite magnitude. -/
def layoutMagnitude (mantissa : Nat) (exponent : Int) : List Char :=
  if mantissa = 0 then ['0', '.', '0']
  else
    let decimal := shortest mantissa exponent
    let point := (decimalDigits decimal.digits).length + decimal.power
    layoutDigits (significantDigits decimal.digits) point

/-- What the three special values are called. -/
structure SpecialNames where
  nan : List Char
  infinite : List Char

/-- The text of a number, given the names of the special values. -/
def layout (names : SpecialNames) : Binary64 → List Char
  | .nan => names.nan
  | .infinite negative => if negative then '-' :: names.infinite else names.infinite
  | .finite negative mantissa exponent =>
    let text := layoutMagnitude mantissa exponent
    if negative then '-' :: text else text

end Binary64

end ActivityFlow
