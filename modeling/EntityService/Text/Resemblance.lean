/-!
# Resemblance of texts

How much two texts have in common.  The longest block of characters that stands in both is matched
first; of blocks of one length it is the one that starts earliest in the first text, and then in the
second.  What stands before the block in both texts is matched in the same way, and so is what stands
after it.

Two texts resemble each other if the characters matched are three fifths of their mean length.

## What is here

* `Block`, `longestBlock` — the block that is matched first.
* `matched` — the number of characters matched.
* `resemble` — whether two texts resemble each other.
-/

set_option autoImplicit false

namespace EntityService.Text

/-- Characters that stand in two texts: where they start in each of them, and how many they are. -/
structure Block where
  inFirst : Nat
  inSecond : Nat
  size : Nat
deriving DecidableEq, Repr

/-- The number of characters that two texts start with in common. -/
def commonStart : List Char → List Char → Nat
  | a :: as, b :: bs => if a = b then commonStart as bs + 1 else 0
  | _, _ => 0

/-- The larger of two blocks, the first one if they are of one size. -/
def Block.larger (b c : Block) : Block := if b.size < c.size then c else b

/-- The largest of a block and those that start at `i` in the first text, where `as` is ahead, and
from `j` on in the second text, where the last argument is ahead. -/
def largestAt (i : Nat) (as : List Char) : Nat → Block → List Char → Block
  | _, best, [] => best
  | j, best, b :: bs =>
    largestAt i as (j + 1) (best.larger ⟨i, j, commonStart as (b :: bs)⟩) bs

/-- The largest of a block and those that start from `i` on in the first text. -/
def largestFrom (second : List Char) : Nat → Block → List Char → Block
  | _, best, [] => best
  | i, best, a :: as =>
    largestFrom second (i + 1) (largestAt i (a :: as) 0 best second) as

/-- The longest block that stands in two texts. -/
def longestBlock (first second : List Char) : Block := largestFrom second 0 ⟨0, 0, 0⟩ first

/-- The number of characters matched, in at most as many rounds as the first argument says. -/
def matchedIn : Nat → List Char → List Char → Nat
  | 0, _, _ => 0
  | rounds + 1, first, second =>
    let block := longestBlock first second
    if block.size = 0 then 0
    else
      matchedIn rounds (first.take block.inFirst) (second.take block.inSecond)
        + block.size
        + matchedIn rounds (first.drop (block.inFirst + block.size))
          (second.drop (block.inSecond + block.size))

/-- The number of characters matched.  Each round matches a character of the first text. -/
def matched (first second : List Char) : Nat := matchedIn first.length first second

/-- Whether two texts resemble each other. -/
def resemble (first second : List Char) : Bool :=
  3 * (first.length + second.length) ≤ 10 * matched first second

end EntityService.Text
