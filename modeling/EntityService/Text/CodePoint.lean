import EntityService.Text.Hex

/-!
# Text from documents

A document writes a text by UTF-16 units, so it can write half of a surrogate pair without the other
half.  Such a half is no character.  It stays in the text as a code point of its own: two texts that
differ in it are different, and every printed form writes it by its number.

## What is here

* `CodePoint`, `Text` — a character or half a pair, and a list of them.
* `Text.ofString`, `Text.toString?` — the text that a string holds, and back; every string is a text
  (`Text.toString?_ofString`), and a text is a string if it has no halves.
* `Text.shown` — a text with its halves written out.
-/

set_option autoImplicit false

namespace EntityService

/-- A character, or half of a surrogate pair on its own. -/
inductive CodePoint
  | char (c : Char)
  /-- The half whose number is U+D800 and the index. -/
  | half (index : Fin 0x800)
deriving DecidableEq, Repr

/-- The code point of a UTF-16 unit that is not part of a pair. -/
def CodePoint.ofUnit (unit : Nat) : CodePoint :=
  if h : 0xd800 ≤ unit ∧ unit < 0xe000 then half ⟨unit - 0xd800, by omega⟩
  else char (Char.ofNat unit)

/-- A text that a document can hold. -/
abbrev Text := List CodePoint

namespace Text

/-- Characters as a text. -/
def ofChars (cs : List Char) : Text := cs.map .char

/-- A string as a text. -/
def ofString (s : String) : Text := ofChars s.toList

instance : Coe String Text := ⟨ofString⟩

/-- The characters of a text, if it has no halves. -/
def chars? : Text → Option (List Char)
  | [] => some []
  | .char c :: rest => (chars? rest).map (c :: ·)
  | .half _ :: _ => none

/-- The string that a text is, if it has no halves. -/
def toString? (t : Text) : Option String := t.chars?.map String.ofList

theorem chars?_ofChars (cs : List Char) : chars? (ofChars cs) = some cs := by
  induction cs with
  | nil => rfl
  | cons c rest ih =>
    rw [ofChars, List.map_cons, chars?, ← ofChars, ih]
    rfl

theorem toString?_ofString (s : String) : (ofString s).toString? = some s := by
  rw [toString?, ofString, chars?_ofChars, Option.map_some, String.ofList_toList]

theorem ofString_inj {s t : String} : ofString s = ofString t ↔ s = t := by
  constructor
  · intro h
    have := congrArg toString? h
    rw [toString?_ofString, toString?_ofString] at this
    exact Option.some.inj this
  · exact congrArg ofString

/-- Texts one after the other with a separator between them. -/
def join (separator : Text) (texts : List Text) : Text := separator.intercalate texts

/-- How a code point is shown: a character as it stands, half a pair by its number. -/
def showPoint : CodePoint → List Char
  | .char c => [c]
  | .half index => '\\' :: 'u' :: hex 4 (0xd800 + index)

/-- A text as it is shown. -/
def shown (t : Text) : String := String.ofList (t.flatMap showPoint)

theorem shown_ofString (s : String) : (ofString s).shown = s := by
  have h : ∀ cs : List Char, (ofChars cs).flatMap showPoint = cs := by
    intro cs
    induction cs with
    | nil => rfl
    | cons c rest ih =>
      rw [ofChars, List.map_cons, List.flatMap_cons, ← ofChars, ih]
      rfl
  rw [shown, ofString, h, String.ofList_toList]

end Text

end EntityService
