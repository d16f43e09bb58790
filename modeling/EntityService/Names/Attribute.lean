import EntityService.Names.Reserved
import EntityService.Text.CodePoint
import EntityService.Text.Digit
import EntityService.Text.Word

/-!
# Attribute names

A property becomes an attribute of a generated model.  Its name is made fit for that in two steps.

* **On its own.**  Characters that are not word characters become underscores, leading underscores
  go, `f_` is put before a name that is empty or starts with a digit, and an underscore is put after
  a name that is a keyword, is needed by the model, or starts with `model_`.
* **Among the others.**  A property whose name is fit as it is keeps it.  The others take
  underscores at the end until their names are free: different from the names that are kept and
  from those given before.

## What is here

* `sanitize`, `baseAttribute` — the first step.
* `isKept` — whether a name is fit as it is.
* `firstFree`, `assign`, `attributeNames` — the second step.
-/

set_option autoImplicit false

namespace EntityService.Names

open EntityService.Text

/-! ## A name on its own -/

/-- A word character, or an underscore in the place of anything else. -/
def wordChar : CodePoint → Char
  | .char c => if isWord c then c else '_'
  | .half _ => '_'

/-- The word characters of a name, with underscores for the others, from the first character on
that is not an underscore. -/
def sanitize (name : Text) : List Char := (name.map wordChar).dropWhile (· == '_')

/-- Puts `f_` before a name that cannot stand at the start of an attribute. -/
def withLetter : List Char → List Char
  | [] => ['f', '_']
  | c :: rest => if isDigit c then 'f' :: '_' :: c :: rest else c :: rest

/-- Whether a name is refused as an attribute although its characters are fine. -/
def isModelReserved (name : List Char) : Bool :=
  String.ofList name ∈ keywords || String.ofList name ∈ modelNames
    || "model_".toList.isPrefixOf name

/-- Puts an underscore after a name that is refused as it is. -/
def withUnderscore (name : List Char) : List Char :=
  if isModelReserved name then name ++ ['_'] else name

/-- The attribute name for a property, its neighbours left aside. -/
def baseAttribute (property : Text) : String :=
  String.ofList (withUnderscore (withLetter (sanitize property)))

/-- Whether the name of a property is fit as it is. -/
def isKept (property : Text) : Bool := property == ofString (baseAttribute property)

/-! ## Names among others -/

/-- The first of a name, the name with one underscore after it, the name with two, … that is not
taken.  Among `taken.length + 1` of them there is one. -/
def firstFree (taken : List String) : Nat → String → String
  | 0, name => name
  | tries + 1, name => if name ∈ taken then firstFree taken tries (name ++ "_") else name

/-- Attribute names for properties one after the other, given the names that are taken. -/
def assign (taken : List String) : List Text → List String
  | [] => []
  | property :: rest =>
    let base := baseAttribute property
    let chosen := if isKept property then base else firstFree taken taken.length base
    chosen :: assign (chosen :: taken) rest

/-- The properties whose names are fit as they are. -/
def keptNames (properties : List Text) : List String :=
  (properties.filter isKept).map baseAttribute

/-- The attribute name of each property, in order. -/
def attributeNames (properties : List Text) : List String :=
  assign (keptNames properties) properties

end EntityService.Names
