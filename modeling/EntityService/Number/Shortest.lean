import EntityService.Number.Binary64

/-!
# Shortest decimals

The decimal with the fewest digits that reads back as a given binary number, and among those the
one nearest to it.

The decimals that read back as `significand * 2 ^ exponent` fill an interval around it, which
reaches half way to either neighbour and includes its ends if the significand is even.  For
1, 2, … 17 digits the two decimals next to the number are tried; the first count of digits with a
hit wins.  Seventeen digits always suffice.

## What is here

* `Interval` — the numbers that read back as a given one, over a common unit.
* `decimalExponent` — the exponent of the leading digit.
* `shortest` — the digits and the exponent of the last one.
-/

set_option autoImplicit false

namespace EntityService.Number

/-- A positive number and the interval that reads back as it, as multiples of `2 ^ unit`. -/
structure Interval where
  low : Nat
  value : Nat
  high : Nat
  unit : Int
  closed : Bool

/-- The interval around `significand * 2 ^ exponent`.  Below a power of two the neighbour is at half
the distance, unless the exponent is the least one. -/
def Interval.around (significand : Nat) (exponent : Int) : Interval :=
  { low := if significand = Nat.pow 2 52 ∧ -1074 < exponent then 4 * significand - 1
      else 4 * significand - 2
    value := 4 * significand
    high := 4 * significand + 2
    unit := exponent - 2
    closed := significand % 2 = 0 }

/-- Factors `(a, b)` such that `x * 2 ^ unit` compares with `t * 10 ^ place` as `x * a` with
`t * b`. -/
def commonFactors (unit place : Int) : Nat × Nat :=
  (Nat.pow 2 unit.toNat * Nat.pow 10 (-place).toNat,
    Nat.pow 2 (-unit).toNat * Nat.pow 10 place.toNat)

/-- The exponent of the leading decimal digit of `significand * 2 ^ exponent`.  An estimate from the
binary logarithm is off by one at most. -/
def decimalExponent (significand : Nat) (exponent : Int) : Int :=
  let estimate := Int.fdiv ((significand.log2 + exponent) * 30103) 100000
  let reaches (place : Int) : Bool :=
    let (a, b) := commonFactors exponent place
    b ≤ significand * a
  if reaches (estimate + 1) then estimate + 1
  else if reaches estimate then estimate
  else estimate - 1

/-- Of the two multiples of `10 ^ place` next to the number, the nearer one that reads back; of two
that are equally near, the even one. -/
def Interval.hit? (i : Interval) (place : Int) : Option Nat :=
  let (a, b) := commonFactors i.unit place
  let below := i.value * a / b
  let inside (t : Nat) : Bool :=
    if i.closed then i.low * a ≤ t * b && t * b ≤ i.high * a
    else i.low * a < t * b && t * b < i.high * a
  let down := i.value * a - below * b
  let up := (below + 1) * b - i.value * a
  match inside below, inside (below + 1) with
  | true, true =>
    some (if down < up then below else if up < down then below + 1 else below + below % 2)
  | true, false => some below
  | false, true => some (below + 1)
  | false, false => none

/-- Tries one place after the other, each a tenth of the last. -/
def Interval.search (i : Interval) : Nat → Int → Nat × Int
  | 0, place => (0, place)
  | tries + 1, place =>
    match i.hit? place with
    | some t => (t, place)
    | none => i.search tries (place - 1)

/-- The shortest decimal `t * 10 ^ place` that reads back as `significand * 2 ^ exponent`, which is
not zero. -/
def shortest (significand : Nat) (exponent : Int) : Nat × Int :=
  (Interval.around significand exponent).search 17 (decimalExponent significand exponent)

end EntityService.Number
