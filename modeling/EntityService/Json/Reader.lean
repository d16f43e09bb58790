import EntityService.Json.Value
import EntityService.Number.Limit
import EntityService.Text.Hex

/-!
# Reading documents

The document that a text holds, or the first place where the text goes wrong.

Each reader takes the characters ahead and returns what it read with the characters that are left.
A fault carries the number of characters that were left where it was found; `Location.at` turns
that into an offset, a line and a column.

The grammar is the usual one, with four particulars.

* `NaN`, `Infinity` and `-Infinity` are numbers.
* A number ends where it stops being one: a point or an exponent without digits is not part of it.
* A whole number has at most `maxDigits` digits.
* Of members with one key the last one counts, in the place of the first.

Values are read however deep they are nested.  A machine whose stack is too small for a document stops
at it instead; that is not modelled.

A `\u` escape needs four digits and a further character after them.  Two escapes that form a
surrogate pair are one character; half of a pair on its own is a code point of its own.

## What is here

* `Cause`, `Location`, `Fault` — what can be wrong, and where.
* `readUnit`, `readContent` — texts; `readNumber`, `readAtom` — numbers and words.
* `readValue`, `readItems`, `readMembers` — values.  Their first argument bounds the depth of the
  recursion; two for each character and one more are always enough.
* `read` — a whole text.
-/

set_option autoImplicit false

namespace EntityService.Json

open EntityService.Number EntityService.Text

/-! ## Faults -/

/-- What is wrong with a text that holds no document. -/
inductive Cause
  | expectingValue
  | expectingName
  | expectingColon
  | expectingComma
  | extraData
  | unterminatedString
  | controlCharacter
  | invalidEscape
  | invalidUnitEscape
  | byteOrderMark
deriving DecidableEq, Repr

/-- A place in a text: the characters before it, and its line and column, both counted from one. -/
structure Location where
  offset : Nat
  line : Nat
  column : Nat
deriving DecidableEq, Repr

/-- Why a text could not be read. -/
inductive Fault
  | malformed (cause : Cause) (location : Location)
  /-- A whole number has more digits than are accepted. -/
  | tooManyDigits (count : Nat)
deriving DecidableEq, Repr

/-- A fault while reading, located by the number of characters left. -/
inductive Stop
  | malformed (cause : Cause) (left : Nat)
  | tooManyDigits (count : Nat)
deriving DecidableEq, Repr

/-- The place in a text that has a number of characters before it. -/
def Location.at (text : List Char) (offset : Nat) : Location :=
  let before := text.take offset
  { offset
    line := before.count '\n' + 1
    column := (before.reverse.takeWhile (· != '\n')).length + 1 }

/-- Locates a fault in the text it was found in. -/
def Stop.locate (text : List Char) : Stop → Fault
  | .malformed cause left => .malformed cause (Location.at text (text.length - left))
  | .tooManyDigits count => .tooManyDigits count

/-- What a reader gives: a result and the characters left, or a fault. -/
abbrev Reading (α : Type) := Except Stop (α × List Char)

/-- A fault at the first of the characters left. -/
def stop {α : Type} (cause : Cause) (left : List Char) : Reading α :=
  .error (.malformed cause left.length)

/-! ## Blanks and words -/

/-- Space, tab, line feed and carriage return may stand between tokens. -/
def isBlank (c : Char) : Bool := c == ' ' || c == '\t' || c == '\n' || c == '\r'

/-- Passes over blanks. -/
def skipBlanks (cs : List Char) : List Char := cs.dropWhile isBlank

/-- The characters after a word, if it stands ahead. -/
def after? : List Char → List Char → Option (List Char)
  | [], cs => some cs
  | _ :: _, [] => none
  | w :: word, c :: cs => if w = c then after? word cs else none

/-! ## Texts -/

/-- Reads the four digits of a UTF-16 unit, of which the `\u` has been read. -/
def readUnit : List Char → Reading Nat
  | cs@(a :: b :: c :: d :: rest) =>
    match hexValue? a, hexValue? b, hexValue? c, hexValue? d, rest with
    | some a, some b, some c, some d, _ :: _ => .ok (((a * 16 + b) * 16 + c) * 16 + d, rest)
    | _, _, _, _, _ => .error (.malformed .invalidUnitEscape (cs.length + 1))
  | cs => .error (.malformed .invalidUnitEscape (cs.length + 1))

/-- Whether a unit is the first of a surrogate pair. -/
def isHighSurrogate (unit : Nat) : Bool := 0xd800 ≤ unit && unit ≤ 0xdbff

/-- Whether a unit is the second of a surrogate pair. -/
def isLowSurrogate (unit : Nat) : Bool := 0xdc00 ≤ unit && unit ≤ 0xdfff

/-- The character of a surrogate pair. -/
def pairChar (high low : Nat) : Char :=
  Char.ofNat (0x10000 + (high - 0xd800) * 0x400 + (low - 0xdc00))

/-- Reads a code point written by its units, of which the first `\u` has been read. -/
def readUnits (cs : List Char) : Except Stop (CodePoint × List Char) := do
  let (unit, rest) ← readUnit cs
  if isHighSurrogate unit then
    match rest with
    | '\\' :: 'u' :: more =>
      let (second, rest') ← readUnit more
      if isLowSurrogate second then .ok (.char (pairChar unit second), rest')
      else .ok (.ofUnit unit, rest)
    | _ => .ok (.ofUnit unit, rest)
  else .ok (.ofUnit unit, rest)

/-- The character that a one-letter escape stands for. -/
def shortEscape? : Char → Option Char
  | '"' => some '"'
  | '\\' => some '\\'
  | '/' => some '/'
  | 'b' => some '\x08'
  | 'f' => some '\x0c'
  | 'n' => some '\n'
  | 'r' => some '\r'
  | 't' => some '\t'
  | _ => none

/-- Reads the content of a text up to its closing quote.  `opening` is the number of characters
left at the opening quote, `content` what has been read, last code point first. -/
def readContent (opening : Nat) :
    Nat → Text → List Char → Except Stop (Text × List Char)
  | 0, _, _ => .error (.malformed .unterminatedString opening)
  | _, _, [] => .error (.malformed .unterminatedString opening)
  | fuel + 1, content, c :: rest =>
    if c = '"' then .ok (content.reverse, rest)
    else if c = '\\' then
      match rest with
      | [] => .error (.malformed .unterminatedString opening)
      | e :: more =>
        if e = 'u' then do
          let (d, left) ← readUnits more
          readContent opening fuel (d :: content) left
        else match shortEscape? e with
          | some d => readContent opening fuel (.char d :: content) more
          | none => stop .invalidEscape (c :: rest)
    else if c ≤ '\x1f' then stop .controlCharacter (c :: rest)
    else readContent opening fuel (.char c :: content) rest

/-- Reads a text of which the opening quote has been read. -/
def readString (cs : List Char) : Reading Text :=
  readContent (cs.length + 1) (cs.length + 1) [] cs

/-! ## Numbers and words -/

/-- The longest run of digits ahead, and what is left after it. -/
def readDigits (cs : List Char) : List Char × List Char :=
  (cs.takeWhile Char.isDigit, cs.dropWhile Char.isDigit)

/-- The digits of the whole part: a zero on its own, or a run of digits that starts with another
one. -/
def readWhole : List Char → List Char × List Char
  | '0' :: rest => (['0'], rest)
  | cs => readDigits cs

/-- The digits of the fraction, if a point with a digit after it stands ahead. -/
def readFraction? : List Char → Option (List Char × List Char)
  | '.' :: cs => if (readDigits cs).1 = [] then none else some (readDigits cs)
  | _ => none

/-- The exponent, if an exponent mark with a digit after it stands ahead. -/
def readExponent? : List Char → Option (Int × List Char)
  | mark :: cs =>
    if mark = 'e' ∨ mark = 'E' then
      let (negative, cs) := match cs with
        | '-' :: cs => (true, cs)
        | '+' :: cs => (false, cs)
        | cs => (false, cs)
      let (digits, rest) := readDigits cs
      if digits = [] then none
      else
        let n : Int := Nat.ofDigitChars 10 digits 0
        some (if negative then -n else n, rest)
    else none
  | [] => none

/-- Reads a number, of which a sign may have been read; `start` is what stood ahead before. -/
def readNumber (start : List Char) (negative : Bool) (cs : List Char) : Reading Value :=
  let (whole, rest) := readWhole cs
  if whole = [] then stop .expectingValue start
  else
    let fraction? := readFraction? rest
    let (fraction, rest) := fraction?.getD ([], rest)
    let exponent? := readExponent? rest
    let (exponent, rest) := exponent?.getD (0, rest)
    if fraction?.isSome || exponent?.isSome then
      .ok (.float (Binary64.ofDecimal negative (Nat.ofDigitChars 10 (whole ++ fraction) 0)
        (exponent - fraction.length)), rest)
    else if maxDigits < whole.length then .error (.tooManyDigits whole.length)
    else
      let n : Int := Nat.ofDigitChars 10 whole 0
      .ok (.int (if negative then -n else n), rest)

/-- The words that stand for values. -/
def words : List (List Char × Value) :=
  [("null".toList, .null), ("true".toList, .bool true), ("false".toList, .bool false),
    ("NaN".toList, .float .nan), ("Infinity".toList, .float (.infinite false)),
    ("-Infinity".toList, .float (.infinite true))]

/-- Reads a word or a number. -/
def readAtom (cs : List Char) : Reading Value :=
  match words.findSome? fun (word, value) => (after? word cs).map (value, ·) with
  | some found => .ok found
  | none =>
    match cs with
    | '-' :: rest => readNumber cs true rest
    | _ => readNumber cs false cs

/-! ## Values -/

mutual

/-- Reads a value. -/
def readValue : Nat → List Char → Except Stop (Value × List Char)
  | 0, cs => stop .expectingValue cs
  | fuel + 1, cs =>
    match cs with
    | '"' :: rest => do
      let (s, left) ← readString rest
      .ok (.string s, left)
    | '[' :: rest =>
      match skipBlanks rest with
      | ']' :: left => .ok (.array [], left)
      | left => readItems fuel [] left
    | '\x7b' :: rest =>
      match skipBlanks rest with
      | '\x7d' :: left => .ok (.object [], left)
      | left => readMembers fuel [] left
    | _ => readAtom cs

/-- Reads the items of an array from one item on.  `items` are the earlier ones, last one first. -/
def readItems : Nat → List Value → List Char → Except Stop (Value × List Char)
  | 0, _, cs => stop .expectingValue cs
  | fuel + 1, items, cs => do
    let (v, rest) ← readValue fuel cs
    match skipBlanks rest with
    | ']' :: left => .ok (.array (v :: items).reverse, left)
    | ',' :: left => readItems fuel (v :: items) (skipBlanks left)
    | left => stop .expectingComma left

/-- Reads the members of an object from one key on.  `members` are the earlier ones. -/
def readMembers : Nat → Mapping Text Value → List Char → Except Stop (Value × List Char)
  | 0, _, cs => stop .expectingName cs
  | fuel + 1, members, cs =>
    match cs with
    | '"' :: rest => do
      let (key, rest) ← readString rest
      match skipBlanks rest with
      | ':' :: rest =>
        let (v, rest) ← readValue fuel (skipBlanks rest)
        let members := members.insert key v
        match skipBlanks rest with
        | '\x7d' :: left => .ok (.object members, left)
        | ',' :: left => readMembers fuel members (skipBlanks left)
        | left => stop .expectingComma left
      | left => stop .expectingColon left
    | _ => stop .expectingName cs

end

/-- Reads a text that holds one value and blanks around it. -/
def readAll (cs : List Char) : Except Stop Value := do
  if cs.head? = some '\ufeff' then .error (.malformed .byteOrderMark cs.length)
  let (v, rest) ← readValue (2 * cs.length + 1) (skipBlanks cs)
  match skipBlanks rest with
  | [] => .ok v
  | left => .error (.malformed .extraData left.length)

/-- The document that a text holds. -/
def read (text : String) : Except Fault Value :=
  match readAll text.toList with
  | .ok v => .ok v
  | .error s => .error (s.locate text.toList)

/-! ## Reports -/

/-- What is wrong, in words. -/
def Cause.message : Cause → String
  | .expectingValue => "Expecting value"
  | .expectingName => "Expecting property name enclosed in double quotes"
  | .expectingColon => "Expecting ':' delimiter"
  | .expectingComma => "Expecting ',' delimiter"
  | .extraData => "Extra data"
  | .unterminatedString => "Unterminated string starting at"
  | .controlCharacter => "Invalid control character at"
  | .invalidEscape => "Invalid \\escape"
  | .invalidUnitEscape => "Invalid \\uXXXX escape"
  | .byteOrderMark => "Unexpected UTF-8 BOM (decode using utf-8-sig)"

/-- A place, in words. -/
def Location.text (l : Location) : String :=
  "line " ++ toString l.line ++ " column " ++ toString l.column
    ++ " (char " ++ toString l.offset ++ ")"

/-- A fault, in words. -/
def Fault.message : Fault → String
  | .malformed cause location => cause.message ++ ": " ++ location.text
  | .tooManyDigits count =>
    "Exceeds the limit (" ++ toString maxDigits ++ " digits) for integer string conversion: "
      ++ "value has " ++ toString count
      ++ " digits; use sys.set_int_max_str_digits() to increase the limit"

end EntityService.Json
