import ActivityFlow.Json.Basic

/-!
# Comparing values

Values as members of a set, and in an order.

* `Json.alike` — whether two values count as the same member.  Numbers count by their value, whole
  or not, and the two constants count as one and zero.
* `Json.atMost` — the order in which values are listed: numbers by their value, texts by their
  characters.
-/

namespace ActivityFlow

namespace Json

/-- The value of a number, or of one of the two constants, as a ratio with a positive
denominator. -/
def ratio? : Json → Option (Int × Nat)
  | bool value => some (if value then 1 else 0, 1)
  | int n => some (n, 1)
  | real (.finite negative mantissa exponent) =>
    let scaled := Binary64.scaleByTwo mantissa 1 exponent
    some (if negative then -(scaled.1 : Int) else scaled.1, scaled.2)
  | _ => none

/-- Whether two values count as the same member of a set. -/
def alike (a b : Json) : Bool :=
  match ratio? a, ratio? b with
  | some (n, d), some (m, e) => n * e == m * d
  | none, none => a == b
  | _, _ => false

/-- The order in which values are listed. -/
def atMost (a b : Json) : Bool :=
  match a, b with
  | str s, str t => decide (s ≤ t)
  | _, _ => match ratio? a, ratio? b with
    | some (n, d), some (m, e) => n * e ≤ m * d
    | _, _ => false

end Json

end ActivityFlow
