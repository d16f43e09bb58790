/-!
# Words of a command line

A command is split into words by the rules of the POSIX shell, without expansions and comments.

* Blanks (space, tab, carriage return, line feed) separate words.
* Between single quotes every character stands for itself.
* Between double quotes a backslash makes a double quote or a backslash stand for itself; before
  any other character the backslash is kept.
* Elsewhere a backslash makes any character stand for itself.
* Quotes may begin and end inside a word, and an empty pair of quotes is an empty word.

## What is here

* `ShellWords.Problem` — the two ways in which a command can be left open.
* `ShellWords.split` — the words of a command.
-/

set_option autoImplicit false

namespace EntityService.Text.ShellWords

/-- Why a command cannot be split. -/
inductive Problem
  | noClosingQuotation
  | noEscapedCharacter
deriving DecidableEq, Repr

/-- Where the reader stands. -/
inductive Mode
  /-- Between words. -/
  | blank
  /-- Inside a word, outside quotes. -/
  | word
  | singleQuoted
  | doubleQuoted
  /-- After a backslash outside quotes. -/
  | escaped
  /-- After a backslash between double quotes. -/
  | doubleQuotedEscaped
deriving DecidableEq, Repr

/-- Whether a character separates words. -/
def isBlank (c : Char) : Bool := c == ' ' || c == '\t' || c == '\r' || c == '\n'

/-- Reads on from a mode, given the characters of the current word and the earlier words, last one
first. -/
def splitFrom (words : List String) (word : List Char) :
    Mode → List Char → Except Problem (List String)
  | .blank, [] => .ok words.reverse
  | .word, [] => .ok (String.ofList word.reverse :: words).reverse
  | .singleQuoted, [] => .error .noClosingQuotation
  | .doubleQuoted, [] => .error .noClosingQuotation
  | .escaped, [] => .error .noEscapedCharacter
  | .doubleQuotedEscaped, [] => .error .noEscapedCharacter
  | .blank, c :: rest =>
    if isBlank c then splitFrom words [] .blank rest
    else if c = '\'' then splitFrom words [] .singleQuoted rest
    else if c = '"' then splitFrom words [] .doubleQuoted rest
    else if c = '\\' then splitFrom words [] .escaped rest
    else splitFrom words [c] .word rest
  | .word, c :: rest =>
    if isBlank c then splitFrom (String.ofList word.reverse :: words) [] .blank rest
    else if c = '\'' then splitFrom words word .singleQuoted rest
    else if c = '"' then splitFrom words word .doubleQuoted rest
    else if c = '\\' then splitFrom words word .escaped rest
    else splitFrom words (c :: word) .word rest
  | .singleQuoted, c :: rest =>
    if c = '\'' then splitFrom words word .word rest
    else splitFrom words (c :: word) .singleQuoted rest
  | .doubleQuoted, c :: rest =>
    if c = '"' then splitFrom words word .word rest
    else if c = '\\' then splitFrom words word .doubleQuotedEscaped rest
    else splitFrom words (c :: word) .doubleQuoted rest
  | .escaped, c :: rest => splitFrom words (c :: word) .word rest
  | .doubleQuotedEscaped, c :: rest =>
    if c = '"' ∨ c = '\\' then splitFrom words (c :: word) .doubleQuoted rest
    else splitFrom words (c :: '\\' :: word) .doubleQuoted rest

/-- The words of a command. -/
def split (command : String) : Except Problem (List String) :=
  splitFrom [] [] .blank command.toList

/-- What is reported about a command that is left open. -/
def Problem.message : Problem → String
  | .noClosingQuotation => "No closing quotation"
  | .noEscapedCharacter => "No escaped character"

end EntityService.Text.ShellWords
