import EntityService.Json.Value
import EntityService.Number.Notation

/-!
# Printing documents

The text of a document, on one line and in printable ASCII.

* Items and members are separated by a comma and a space, a key and its value by a colon and a
  space.
* In a text, the double quote and the backslash are written after a backslash; newline, carriage
  return, tab, backspace and form feed have short escapes.  Any other character outside
  U+0020 … U+007E is written as one or two UTF-16 units of four lower-case hexadecimal digits, and
  half of a surrogate pair as its unit.
* A floating-point number has a point or an exponent, so that it is told from a whole number.

## What is here

* `escapeChar`, `escapePoint`, `quote` — texts.
* `floatStyle` — the notation of floating-point numbers.
* `print` — any document.
-/

set_option autoImplicit false

namespace EntityService.Json

open EntityService.Number EntityService.Text

/-- One UTF-16 unit as an escape. -/
def escapeUnit (unit : Nat) : List Char := '\\' :: 'u' :: hex 4 unit

/-- How a character is written inside a text. -/
def escapeChar (c : Char) : List Char :=
  if c = '"' ∨ c = '\\' then ['\\', c]
  else if c = '\n' then ['\\', 'n']
  else if c = '\r' then ['\\', 'r']
  else if c = '\t' then ['\\', 't']
  else if c = '\x08' then ['\\', 'b']
  else if c = '\x0c' then ['\\', 'f']
  else if ' ' ≤ c ∧ c ≤ '~' then [c]
  else if c.toNat < 0x10000 then escapeUnit c.toNat
  else
    escapeUnit (0xd800 + (c.toNat - 0x10000) / 0x400)
      ++ escapeUnit (0xdc00 + (c.toNat - 0x10000) % 0x400)

/-- How a code point is written inside a text. -/
def escapePoint : CodePoint → List Char
  | .char c => escapeChar c
  | .half index => escapeUnit (0xd800 + index)

/-- A text between double quotes. -/
def quote (t : Text) : String :=
  String.ofList ('"' :: (t.flatMap escapePoint ++ ['"']))

/-- Exponents are written from 10 to the 16 on and below 10 to the -4. -/
def floatStyle : Style :=
  { leastPositional := -4, firstScientific := 16, nan := "NaN", infinity := "Infinity" }

mutual

/-- The text of a document. -/
def print : Value → String
  | .null => "null"
  | .bool true => "true"
  | .bool false => "false"
  | .int n => toString n
  | .float x => floatStyle.text x
  | .string t => quote t
  | .array items => "[" ++ (", ".intercalate (printItems items) ++ "]")
  | .object members => "\x7b" ++ (", ".intercalate (printMembers members) ++ "\x7d")

/-- The texts of the items of an array. -/
def printItems : List Value → List String
  | [] => []
  | v :: rest => print v :: printItems rest

/-- The texts of the members of an object. -/
def printMembers : List (Text × Value) → List String
  | [] => []
  | (k, v) :: rest => (quote k ++ (": " ++ print v)) :: printMembers rest

end

end EntityService.Json
