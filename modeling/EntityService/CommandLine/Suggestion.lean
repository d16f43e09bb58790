import EntityService.CommandLine.Words
import EntityService.Text.Quoted
import EntityService.Text.Resemblance

/-!
# Suggestions

A word that looks like a long option, but is none, may be a slip of the pen.  The long options that
resemble it are suggested: the three that have most in common with it, by the share of characters
matched, and by name if the shares are equal.

## What is here

* `Candidate`, `Candidate.ahead` — an option with what it has in common with a word, and the order.
* `suggestions` — the options to suggest for a word, in the order of their names.
* `suggestionText` — a suggestion in words.
-/

set_option autoImplicit false

namespace EntityService.CommandLine

/-- An option, how many of its characters are matched in a word, and how many characters the two
have together. -/
structure Candidate where
  name : String
  matched : Nat
  total : Nat
deriving DecidableEq, Repr

/-- An option beside a word. -/
def Candidate.of (word : List Char) (name : String) : Candidate :=
  ⟨name, Text.matched name.toList word, name.length + word.length⟩

/-- Whether one option is suggested ahead of another one. -/
def Candidate.ahead (a b : Candidate) : Bool :=
  b.matched * a.total < a.matched * b.total
    || (a.matched * b.total == b.matched * a.total && decide (b.name ≤ a.name))

/-- The most options that are suggested. -/
def maxSuggestions : Nat := 3

/-- The options that are suggested for a word. -/
def suggestions (word : String) : List String :=
  let alike := (longOptions.map (·.1)).filter fun name => Text.resemble name.toList word.toList
  let ranked := (alike.map (Candidate.of word.toList)).mergeSort Candidate.ahead
  ((ranked.take maxSuggestions).map (·.name)).mergeSort fun a b => decide (a ≤ b)

/-- A suggestion in words, with a blank before it if there is one. -/
def suggestionText : List String → String
  | [] => ""
  | [name] => " Did you mean " ++ Text.literal name ++ "?"
  | names =>
    " (Did you mean one of: "
      ++ ", ".intercalate (names.map fun name : String => Text.literal name) ++ "?)"

end EntityService.CommandLine
