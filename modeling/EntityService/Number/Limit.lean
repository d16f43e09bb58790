/-!
# Long numbers

A whole number of very many digits takes long to read and to write.  Such numbers are refused.

## What is here

* `maxDigits` — the most digits that are accepted; the sign does not count.
* `isWritable` — whether a number can be written, with `isWritable_iff` and `isWritable_of_lt`.
* `leastLong` — the least number that cannot, with `isWritable_leastLong`.
* `firstLong?` — the first of some numbers that cannot be written.
* `limitText` — the complaint about a number that cannot.
-/

set_option autoImplicit false

namespace EntityService.Number

/-- The most digits that a whole number may have. -/
def maxDigits : Nat := 4300

/-- Whether a whole number can be written. -/
@[irreducible]
def isWritable (n : Int) : Bool := n.natAbs < Nat.pow 10 maxDigits

theorem isWritable_iff {n : Int} : isWritable n = true ↔ n.natAbs < Nat.pow 10 maxDigits := by
  unfold isWritable
  exact decide_eq_true_iff

theorem isWritable_of_lt {n : Int} {digits : Nat} (hdigits : digits ≤ maxDigits)
    (h : n.natAbs < Nat.pow 10 digits) : isWritable n = true := by
  rw [isWritable_iff]
  generalize maxDigits = most at hdigits
  exact Nat.lt_of_lt_of_le h (Nat.pow_le_pow_right (by decide) hdigits)

/-- The least number with one digit too many. -/
def leastLong : Int := (Nat.pow 10 maxDigits : Nat)

theorem isWritable_leastLong : isWritable leastLong = false := by
  rw [Bool.eq_false_iff, Ne, isWritable_iff, leastLong, Int.natAbs_natCast]
  exact Nat.lt_irrefl _

/-- The first of some numbers that cannot be written, if there is one. -/
def firstLong? (numbers : List Int) : Option Int := numbers.find? fun n => !isWritable n

/-- The complaint about a whole number that cannot be written. -/
def limitText : String :=
  "Exceeds the limit (" ++ toString maxDigits ++ " digits) for integer string conversion; "
    ++ "use sys.set_int_max_str_digits() to increase the limit"

end EntityService.Number
