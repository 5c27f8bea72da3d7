import ActivityFlow.Number.Binary64

/-!
# The shortest decimal of a number

A finite number of double precision is written with the fewest decimal digits that still read back
as the same number, and of two decimals of that length with the nearer one.

**How they are found.**  The reals that round to the number form an interval around it, whose ends
belong to it exactly when the mantissa is even.  For one digit, two digits, and so on, the two
neighbours of the number on that decimal grid are tested against the interval in exact arithmetic.
The first grid with a hit has the fewest digits, because a grid point in the interval has one of the
two neighbours between itself and the number.  Seventeen digits always suffice.
-/

namespace ActivityFlow

namespace Binary64

/-- A decimal `digits * 10 ^ power`. -/
structure Decimal where
  digits : Nat
  power : Int
  deriving DecidableEq, Repr

/-- The number of decimal digits of a natural number; none for zero. -/
def digitCount (n : Nat) : Nat :=
  if n = 0 then 0 else (Nat.toDigits 10 n).length

/-- The power of ten of the leading digit of a positive ratio. -/
def leadingPower (numerator denominator : Nat) : Int :=
  if denominator ≤ numerator then (digitCount (numerator / denominator) : Int) - 1
  else -((digitCount ((denominator + numerator - 1) / numerator - 1) : Nat) : Int)

/-- The ratio divided by a power of ten, as numerator and denominator. -/
def unscaleByTen (numerator denominator : Nat) (power : Int) : Nat × Nat :=
  if 0 ≤ power then (numerator, denominator * Nat.pow 10 power.toNat)
  else (numerator * Nat.pow 10 (-power).toNat, denominator)

/-- The interval of reals that round to a number, in quarters of its last place. -/
structure Quarters where
  low : Nat
  value : Nat
  high : Nat
  /-- Whether the two ends belong to the interval. -/
  closed : Bool

/-- The rounding interval of `mantissa * 2 ^ exponent`.  Below a power of two the numbers lie twice
as close, so there the lower half of the interval is half as wide. -/
def quarters (mantissa : Nat) (exponent : Int) : Quarters where
  low := if mantissa = Nat.pow 2 52 && minExponent < exponent then 4 * mantissa - 1
    else 4 * mantissa - 2
  value := 4 * mantissa
  high := 4 * mantissa + 2
  closed := mantissa % 2 == 0

/-- Whether `digits * 10 ^ power` lies in the rounding interval. -/
def Quarters.contains (q : Quarters) (exponent : Int) (d : Decimal) : Bool :=
  let (top, bottom) := scaleByTwo 1 1 (2 - exponent)
  let (n, m) := unscaleByTen (d.digits * top) bottom (-d.power)
  let low := q.low * m
  let high := q.high * m
  if q.closed then low ≤ n && n ≤ high else low < n && n < high

/-- The two neighbours of the number on the grid of a power of ten that lie in its interval, the
nearer one first; a tie puts the lower one first when it is even. -/
def Quarters.neighbours (q : Quarters) (exponent power : Int) : List Decimal :=
  let (n, d) := scaleByTwo q.value 1 (exponent - 2)
  let (n, d) := unscaleByTen n d power
  let below := n / d
  let twice := 2 * (n % d)
  let order :=
    if twice < d || (twice == d && below % 2 == 0) then [below, below + 1] else [below + 1, below]
  (order.map fun digits => ⟨digits, power⟩).filter (q.contains exponent)

/-- The shortest decimal that reads back as `mantissa * 2 ^ exponent`. -/
def shortest (mantissa : Nat) (exponent : Int) : Decimal :=
  if mantissa = 0 then ⟨0, 0⟩
  else
    let q := quarters mantissa exponent
    let (n, d) := scaleByTwo mantissa 1 exponent
    let leading := leadingPower n d
    let grids := (List.range 17).map fun (k : Nat) => leading - k
    match grids.findSome? fun power => (q.neighbours exponent power).head? with
    | some decimal => decimal
    | none => ⟨0, 0⟩

end Binary64

end ActivityFlow
