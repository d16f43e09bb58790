import EntityService.Text.Quoted

/-!
# Source text

The text of a generated program, line by line.  A line is made of fixed code, names and literals; a
literal is kept as the text it denotes and is quoted when the line is written.

## What is here

* `Part`, `Line` — lines and what they are made of.
* `Line.text`, `Line.program` — the text of a line, and of a list of lines, each ended by a line
  feed.
-/

set_option autoImplicit false

namespace EntityService.Source

/-- A part of a line. -/
inductive Part
  /-- Code as it stands. -/
  | code (text : String)
  /-- A literal that denotes a text. -/
  | literal (value : Text)
deriving DecidableEq, Repr

/-- A line without its end. -/
abbrev Line := List Part

/-- The text of a part. -/
def Part.text : Part → String
  | code text => text
  | literal value => Text.literal value

namespace Line

/-- The text of a line. -/
def text (line : Line) : String := String.join (line.map Part.text)

/-- A line of code without literals. -/
def code (text : String) : Line := [.code text]

/-- The line without text. -/
def blank : Line := []

/-- The text of lines, each ended by a line feed. -/
def program (lines : List Line) : String := String.join (lines.map fun line => line.text ++ "\n")

end Line

end EntityService.Source
