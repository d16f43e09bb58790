import EntityService.Text.CodePoint
import EntityService.Text.Printable

/-!
# Quoted literals

A text or a sequence of bytes as a literal of the generated language.

* The quote mark is the single one, unless the content holds a single quote and no double quote.
* The quote mark and the backslash are written with a backslash before them; newline, carriage
  return and tab have the short escapes `\n`, `\r` and `\t`.
* Another character that is not printable is written by its code in two, four or eight hexadecimal
  digits, whichever is the least that holds it.  So is half of a surrogate pair.  All other
  characters stand for themselves.

## What is here

* `quoteMark`, `escapeChar`, `escapePoint`, `literalChars` and `literal` — the literal of a text.
* `bytesLiteral` — the literal of a sequence of bytes, in which only printable ASCII stands for
  itself.
-/

set_option autoImplicit false

namespace EntityService.Text

/-- The quote mark around a content. -/
def quoteMark (content : Text) : Char :=
  if .char '\'' ∈ content ∧ .char '"' ∉ content then '"' else '\''

/-- The escape of a character by its code. -/
def escapeCode (c : Char) : List Char :=
  if c.toNat < 0x100 then '\\' :: 'x' :: hex 2 c.toNat
  else if c.toNat < 0x10000 then '\\' :: 'u' :: hex 4 c.toNat
  else '\\' :: 'U' :: hex 8 c.toNat

/-- How a character is written inside a literal with a given quote mark. -/
def escapeChar (mark c : Char) : List Char :=
  if c = mark ∨ c = '\\' then ['\\', c]
  else if c = '\n' then ['\\', 'n']
  else if c = '\r' then ['\\', 'r']
  else if c = '\t' then ['\\', 't']
  else if isPrintable c then [c]
  else escapeCode c

/-- How a code point is written inside a literal. -/
def escapePoint (mark : Char) : CodePoint → List Char
  | .char c => escapeChar mark c
  | .half index => '\\' :: 'u' :: hex 4 (0xd800 + index)

/-- The characters of the literal of a text. -/
def literalChars (content : Text) : List Char :=
  let mark := quoteMark content
  mark :: (content.flatMap (escapePoint mark) ++ [mark])

/-- A text as a literal. -/
def literal (text : Text) : String := String.ofList (literalChars text)

/-! ## Bytes -/

/-- How a byte, given as a character below U+0100, is written inside a literal of bytes. -/
def escapeByte (mark c : Char) : List Char :=
  if c = mark ∨ c = '\\' then ['\\', c]
  else if c = '\n' then ['\\', 'n']
  else if c = '\r' then ['\\', 'r']
  else if c = '\t' then ['\\', 't']
  else if ' ' ≤ c ∧ c ≤ '~' then [c]
  else '\\' :: 'x' :: hex 2 c.toNat

/-- A sequence of bytes as a literal. -/
def bytesLiteral (bytes : List UInt8) : String :=
  let content := bytes.map fun b => Char.ofNat b.toNat
  let mark := quoteMark (ofChars content)
  String.ofList ('b' :: mark :: (content.flatMap (escapeByte mark) ++ [mark]))

end EntityService.Text
