/-!
# Binary floating-point numbers

Numbers in the 64-bit binary format.  A finite number is `significand * 2 ^ exponent` with
`significand < 2 ^ 53` and `-1074 ≤ exponent ≤ 971`; it is written with the least exponent that
keeps the significand in bounds, so that each number has one form for each sign.

## What is here

* `Binary64` — the values of the format.
* `Binary64.nearest` — the number nearest to a fraction; of two that are equally near, the one with
  the even significand.
* `Binary64.ofDecimal` — the number nearest to a decimal.
-/

set_option autoImplicit false

namespace EntityService.Number

/-- A number in the 64-bit binary format. -/
inductive Binary64
  | nan
  | infinite (negative : Bool)
  | finite (negative : Bool) (significand : Nat) (exponent : Int)
deriving DecidableEq, Repr

namespace Binary64

/-- Zero of a given sign. -/
def zero (negative : Bool) : Binary64 := .finite negative 0 (-1074)

/-- The quotient of two numbers, rounded to the nearest whole number, a half to the even one. -/
def roundHalfEven (num den : Nat) : Nat :=
  let q := num / den
  let twice := 2 * (num % den)
  if twice < den then q
  else if twice = den then q + q % 2
  else q + 1

/-- The fraction `num / den` divided by `2 ^ exponent`, again as a fraction. -/
def unscale (num den : Nat) (exponent : Int) : Nat × Nat :=
  if exponent < 0 then (num * Nat.pow 2 (-exponent).toNat, den)
  else (num, den * Nat.pow 2 exponent.toNat)

/-- The least exponent at which the whole part of a positive fraction stays below `2 ^ 53`. -/
def exponentFor (num den : Nat) : Int :=
  let guess := max ((num.log2 : Int) - den.log2 - 53) (-1074)
  let (n, d) := unscale num den guess
  if n / d < Nat.pow 2 53 then guess else guess + 1

/-- The number nearest to `num / den`. -/
def nearest (negative : Bool) (num den : Nat) : Binary64 :=
  if num = 0 then zero negative
  else
    let exponent := exponentFor num den
    let (n, d) := unscale num den exponent
    let rounded := roundHalfEven n d
    let (significand, exponent) :=
      if rounded = Nat.pow 2 53 then (Nat.pow 2 52, exponent + 1) else (rounded, exponent)
    if 971 < exponent then .infinite negative else .finite negative significand exponent

/-- The number nearest to `digits * 10 ^ exponent`.  A decimal far beyond the range of the format is
settled by its count of digits alone. -/
def ofDecimal (negative : Bool) (digits : Nat) (exponent : Int) : Binary64 :=
  let magnitude := ((Nat.toDigits 10 digits).length : Int) + exponent
  if digits = 0 ∨ magnitude < -400 then zero negative
  else if 400 < magnitude then .infinite negative
  else if exponent < 0 then nearest negative digits (Nat.pow 10 (-exponent).toNat)
  else nearest negative (digits * Nat.pow 10 exponent.toNat) 1

end Binary64

end EntityService.Number
