import EntityService.Datum
import EntityService.Names.Fault

/-!
# Refusals

Why a schema document is not turned into a service.

The schema can be at fault, and then the refusal says so.  There are two other ways to stop.  A whole
number of too many digits cannot be written, neither into the program nor into a complaint: where a
complaint would have to quote such a number, the number is what is complained about.  And a template
can ask for something that is not there.

How deep a value is nested makes no difference here.  What a machine does whose stack is too small
for a value is not modelled.

## What is here

* `Refusal` — the reasons.
* `Refusal.message` — a reason in words, on top of `Refusal.shapeText`, `Refusal.nameText` and
  `Refusal.emptyText`, which word the same complaints about any datum.
* `Refusal.isReported` — whether a refusal is about the schema.
* `Refusal.quoting`, `Refusal.complaint` — complaints that quote data, with
  `Refusal.complaint_of_none` and `Refusal.complaint_of_some`.
* `writing`, `require` — steps that can stop: one that writes numbers, and one that looks up a value.
* `Scalar.unknownText` — the complaint about a datum that names no scalar kind.
-/

set_option autoImplicit false

namespace EntityService

/-- Why no service is generated. -/
inductive Refusal
  /-- A value should be an object, or an object with a text or nothing under `type` and `format`. -/
  | shape (value : Json.Value)
  /-- A name cannot be used. -/
  | unusableName (name : Text) (fault : NameFault)
  /-- An entity without fields cannot be updated. -/
  | emptyEntity (entity : String)
  /-- A whole number has too many digits to be written. -/
  | longNumber (n : Int)
  /-- A template asks for a value that is not there. -/
  | missing (key : String)

namespace Refusal

def shapeText (value : Datum) : String := "Could not convert value to object: " ++ value.report

def nameText (name reason : Datum) : String :=
  "Invalid name " ++ name.literal ++ ": " ++ reason.display

def emptyText (entity : Datum) : String :=
  "Entity " ++ entity.literal ++ " has no properties to update"

/-- A refusal in words. -/
def message : Refusal → String
  | shape value => shapeText (.ofJson value)
  | unusableName name fault => nameText (.string name) (.string fault.text)
  | emptyEntity entity => emptyText (.string entity)
  | longNumber _ => Number.limitText
  | missing key => "'dict object' has no attribute '" ++ key ++ "'"

/-- Whether a refusal is about the schema or a name in it, and not about what the program does with
them. -/
def isReported : Refusal → Bool
  | shape _ | unusableName _ _ | emptyEntity _ => true
  | longNumber _ | missing _ => false

/-- A complaint that quotes data.  The first long number in them stops it. -/
def quoting {α : Type} (data : List Datum) (complaint : α) : Except Refusal α :=
  match data.findSome? Datum.longNumber? with
  | none => .ok complaint
  | some n => .error (.longNumber n)

/-- The refusal of a value for its shape, or for a number in it that the complaint cannot quote. -/
def complaint (value : Json.Value) : Refusal :=
  match quoting [.ofJson value] (shape value) with
  | .ok refusal | .error refusal => refusal

theorem complaint_of_none {value : Json.Value} (h : value.longNumber? = none) :
    complaint value = shape value := by
  have hdata : [Datum.ofJson value].findSome? Datum.longNumber? = none := by
    rw [List.findSome?_singleton]
    exact h
  rw [complaint, quoting, hdata]

theorem complaint_of_some {value : Json.Value} {n : Int} (h : value.longNumber? = some n) :
    complaint value = longNumber n := by
  have hdata : [Datum.ofJson value].findSome? Datum.longNumber? = some n := by
    rw [List.findSome?_singleton]
    exact h
  rw [complaint, quoting, hdata]

end Refusal

/-! ## Steps that can stop -/

section Steps

variable {α : Type}

/-- What is made with some numbers in it.  The first of them that cannot be written stops it. -/
def writing (numbers : List Int) (a : α) : Except Refusal α :=
  match Number.firstLong? numbers with
  | none => .ok a
  | some n => .error (.longNumber n)

/-- A value that has to be there. -/
def require (key : String) : Option α → Except Refusal α
  | some a => .ok a
  | none => .error (.missing key)

end Steps

def Scalar.unknownText (value : Datum) : String := value.literal ++ " is not a valid ScalarType"

end EntityService
