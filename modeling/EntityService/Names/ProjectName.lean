/-!
# Project names

A project name is a non-empty run of letters, digits, points, underscores and hyphens that starts
and ends with a letter or a digit.  The letters are those of ASCII and the four characters whose
case variants are ASCII letters; the digits are those of ASCII.  One line feed may follow the name.

## What is here

* `isProjectLetter` — the letters and digits.
* `isProjectStem` — the names without the line feed.
* `isProjectName` — the project names.
-/

set_option autoImplicit false

namespace EntityService.Names

/-- A letter or a digit of a project name. -/
def isProjectLetter (c : Char) : Bool :=
  ('0' ≤ c && c ≤ '9') || ('A' ≤ c && c ≤ 'Z') || ('a' ≤ c && c ≤ 'z')
    || c == '\u0130' || c == '\u0131' || c == '\u017f' || c == '\u212a'

/-- A character that may stand inside a project name. -/
def isProjectChar (c : Char) : Bool :=
  isProjectLetter c || c == '.' || c == '_' || c == '-'

/-- Whether characters start and end with a letter or a digit and are all allowed in between. -/
def isProjectStem (cs : List Char) : Bool :=
  cs.head?.any isProjectLetter && cs.getLast?.any isProjectLetter && cs.all isProjectChar

/-- Whether a text is a project name, possibly with a line feed after it. -/
def isProjectName (name : String) : Bool :=
  let cs := name.toList
  isProjectStem (if cs.getLast? = some '\n' then cs.dropLast else cs)

end EntityService.Names
