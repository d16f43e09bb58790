import EntityService.Json.Printer
import EntityService.Number.Limit
import EntityService.Text.Quoted

/-!
# Data in reports

What a report quotes.  A datum is a document value, or one of two things that no document can
express: a sequence of bytes, and a list that is its own only item.

A report quotes a datum as a document if it can.  If there are bytes or such a list anywhere in it,
the whole datum is quoted as an expression of the generated language.  A datum with a whole number of
too many digits anywhere in it cannot be quoted in either form.

## What is here

* `Datum` — the data.
* `Datum.ofJson`, `Datum.toJson?` — document values as data, and back.
* `Datum.literal` — a datum as an expression.
* `Datum.display` — the same, except that a text is shown without quotes.
* `Datum.report` — the form in which a report quotes a datum.
* `Datum.longNumber?`, `Json.Value.longNumber?` — the number that keeps a datum from being quoted.
-/

set_option autoImplicit false

namespace EntityService

open EntityService.Number EntityService.Text

/-- Something that a report can quote. -/
inductive Datum
  | null
  | bool (b : Bool)
  | int (n : Int)
  | float (x : Binary64)
  | string (t : Text)
  | bytes (content : List UInt8)
  | array (items : List Datum)
  | object (members : List (Text × Datum))
  /-- The list whose only item is the list itself. -/
  | selfList

namespace Datum

/-! ## Document values as data -/

mutual

/-- A document value as a datum. -/
def ofJson : Json.Value → Datum
  | .null => .null
  | .bool b => .bool b
  | .int n => .int n
  | .float x => .float x
  | .string t => .string t
  | .array items => .array (ofJsonItems items)
  | .object members => .object (ofJsonMembers members)

/-- The items of an array as data. -/
def ofJsonItems : List Json.Value → List Datum
  | [] => []
  | v :: rest => ofJson v :: ofJsonItems rest

/-- The members of an object as data. -/
def ofJsonMembers : List (Text × Json.Value) → List (Text × Datum)
  | [] => []
  | (k, v) :: rest => (k, ofJson v) :: ofJsonMembers rest

end

mutual

/-- The document value that a datum is, if it is one. -/
def toJson? : Datum → Option Json.Value
  | .null => some .null
  | .bool b => some (.bool b)
  | .int n => some (.int n)
  | .float x => some (.float x)
  | .string t => some (.string t)
  | .bytes _ => none
  | .array items => (toJsonItems? items).map .array
  | .object members => (toJsonMembers? members).map .object
  | .selfList => none

/-- The document values that data are, if all of them are. -/
def toJsonItems? : List Datum → Option (List Json.Value)
  | [] => some []
  | d :: rest =>
    match toJson? d, toJsonItems? rest with
    | some v, some vs => some (v :: vs)
    | _, _ => none

/-- The document values under keys that data are, if all of them are. -/
def toJsonMembers? : List (Text × Datum) → Option (List (Text × Json.Value))
  | [] => some []
  | (k, d) :: rest =>
    match toJson? d, toJsonMembers? rest with
    | some v, some vs => some ((k, v) :: vs)
    | _, _ => none

end

mutual

theorem toJson?_ofJson (v : Json.Value) : toJson? (ofJson v) = some v := by
  cases v with
  | array items => simp [ofJson, toJson?, toJsonItems?_ofJsonItems items]
  | object members => simp [ofJson, toJson?, toJsonMembers?_ofJsonMembers members]
  | _ => rfl

theorem toJsonItems?_ofJsonItems (items : List Json.Value) :
    toJsonItems? (ofJsonItems items) = some items := by
  cases items with
  | nil => rfl
  | cons v rest =>
    simp [ofJsonItems, toJsonItems?, toJson?_ofJson v, toJsonItems?_ofJsonItems rest]

theorem toJsonMembers?_ofJsonMembers (members : List (Text × Json.Value)) :
    toJsonMembers? (ofJsonMembers members) = some members := by
  match members with
  | [] => rfl
  | (k, v) :: rest =>
    simp [ofJsonMembers, toJsonMembers?, toJson?_ofJson v, toJsonMembers?_ofJsonMembers rest]

end

/-! ## Expressions -/

/-- Floating-point numbers in expressions: as in documents, but with lower-case words. -/
def floatStyle : Style :=
  { leastPositional := -4, firstScientific := 16, nan := "nan", infinity := "inf" }

mutual

/-- A datum as an expression. -/
def literal : Datum → String
  | .null => "None"
  | .bool true => "True"
  | .bool false => "False"
  | .int n => toString n
  | .float x => floatStyle.text x
  | .string t => Text.literal t
  | .bytes content => bytesLiteral content
  | .array items => "[" ++ (", ".intercalate (literalItems items) ++ "]")
  | .object members => "\x7b" ++ (", ".intercalate (literalMembers members) ++ "\x7d")
  | .selfList => "[[...]]"

/-- The items of a list as expressions. -/
def literalItems : List Datum → List String
  | [] => []
  | d :: rest => literal d :: literalItems rest

/-- The members of a mapping as expressions. -/
def literalMembers : List (Text × Datum) → List String
  | [] => []
  | (k, d) :: rest => (Text.literal k ++ (": " ++ literal d)) :: literalMembers rest

end

/-- A text as it is shown, anything else as an expression. -/
def display : Datum → String
  | .string t => t.shown
  | d => d.literal

/-- How a report quotes a datum. -/
def report (d : Datum) : String :=
  match d.toJson? with
  | some v => Json.print v
  | none => d.literal

/-- A document value is quoted as a document. -/
theorem report_ofJson (v : Json.Value) : (ofJson v).report = Json.print v := by
  simp [report, toJson?_ofJson]

/-! ## Long numbers -/

mutual

/-- The first whole number in a datum that has too many digits to be written, if there is one. -/
def longNumber? : Datum → Option Int
  | .int n => if isWritable n then none else some n
  | .array items => longNumberOfItems? items
  | .object members => longNumberOfMembers? members
  | _ => none

/-- The first such number in the items of a list. -/
def longNumberOfItems? : List Datum → Option Int
  | [] => none
  | d :: rest => (longNumber? d).or (longNumberOfItems? rest)

/-- The first such number under the keys of a mapping. -/
def longNumberOfMembers? : List (Text × Datum) → Option Int
  | [] => none
  | (_, d) :: rest => (longNumber? d).or (longNumberOfMembers? rest)

end

end Datum

/-- The first whole number in a document value that has too many digits, if there is one. -/
def Json.Value.longNumber? (v : Json.Value) : Option Int := (Datum.ofJson v).longNumber?

theorem Json.Value.longNumber?_int_of {n : Int} (h : isWritable n = false) :
    (int n).longNumber? = some n := by
  rw [longNumber?, Datum.ofJson, Datum.longNumber?, h]
  rfl

@[simp]
theorem Json.Value.longNumber?_array (items : List Json.Value) :
    (array items).longNumber? = items.findSome? longNumber? := by
  rw [longNumber?, Datum.ofJson, Datum.longNumber?]
  induction items with
  | nil => rfl
  | cons v rest ih =>
    rw [Datum.ofJsonItems, Datum.longNumberOfItems?, ih, List.findSome?_cons]
    cases h : (Datum.ofJson v).longNumber? <;> simp [longNumber?, h]

@[simp]
theorem Json.Value.longNumber?_object (members : Mapping Text Json.Value) :
    (object members).longNumber? = members.findSome? fun m => m.2.longNumber? := by
  rw [longNumber?, Datum.ofJson, Datum.longNumber?]
  induction members with
  | nil => rfl
  | cons member rest ih =>
    obtain ⟨key, v⟩ := member
    rw [Datum.ofJsonMembers, Datum.longNumberOfMembers?, ih, List.findSome?_cons]
    cases h : (Datum.ofJson v).longNumber? <;> simp [longNumber?, h]

end EntityService
