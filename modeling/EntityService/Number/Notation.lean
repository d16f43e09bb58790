import EntityService.Number.Shortest

/-!
# Decimal notation

How a floating-point number is written: its shortest decimal, with a point and at least one digit
on either side of it, or, for very large and very small numbers, with an exponent.

## What is here

* `Style` — the choices of a notation: which numbers are written without an exponent, and the words
  for the values that are not numbers.
* `Style.positional`, `Style.scientific`, `Style.text` — the notation.
-/

set_option autoImplicit false

namespace EntityService.Number

/-- Choices of a decimal notation. -/
structure Style where
  /-- The least exponent of the leading digit that is written without an exponent. -/
  leastPositional : Int
  /-- From this exponent of the leading digit on, an exponent is written. -/
  firstScientific : Int
  nan : String
  infinity : String

namespace Style

/-- Digits with a point after the first `point` of them, zeros filling up on either side. -/
def positional (digits : List Char) (point : Int) : List Char :=
  if point ≤ 0 then '0' :: '.' :: (List.replicate (-point).toNat '0' ++ digits)
  else
    let whole := point.toNat
    let fraction := digits.drop whole
    digits.take whole ++ List.replicate (whole - digits.length) '0'
      ++ '.' :: (if fraction = [] then ['0'] else fraction)

/-- Digits with a point after the first of them, if there are more, and an exponent of at least two
digits. -/
def scientific (digits : List Char) (exponent : Int) : List Char :=
  let fraction := digits.drop 1
  let power := Nat.toDigits 10 exponent.natAbs
  digits.take 1 ++ (if fraction = [] then [] else '.' :: fraction)
    ++ 'e' :: (if exponent < 0 then '-' else '+')
    :: (List.replicate (2 - power.length) '0' ++ power)

/-- A number without its sign. -/
def magnitude (style : Style) (significand : Nat) (exponent : Int) : List Char :=
  if significand = 0 then ['0', '.', '0']
  else
    let (t, place) := shortest significand exponent
    let digits := Nat.toDigits 10 t
    let leading := place + digits.length - 1
    let digits := (digits.reverse.dropWhile (· == '0')).reverse
    if style.leastPositional ≤ leading ∧ leading < style.firstScientific then
      positional digits (leading + 1)
    else scientific digits leading

/-- A number in a given notation. -/
def text (style : Style) : Binary64 → String
  | .nan => style.nan
  | .infinite negative => if negative then "-" ++ style.infinity else style.infinity
  | .finite negative significand exponent =>
    String.ofList ((if negative then ['-'] else []) ++ style.magnitude significand exponent)

end Style

end EntityService.Number
