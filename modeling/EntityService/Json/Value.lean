import EntityService.Mapping
import EntityService.Number.Binary64
import EntityService.Text.CodePoint

/-!
# Document values

A document is null, a truth value, a whole number of any size, a floating-point number, a text, an
array, or an object.  Whole numbers and floating-point numbers are different values, and an object
keeps the order of its members.

## What is here

* `Value` — the values.
-/

set_option autoImplicit false

namespace EntityService.Json

/-- A document value. -/
inductive Value
  | null
  | bool (b : Bool)
  | int (n : Int)
  | float (x : Number.Binary64)
  | string (t : Text)
  | array (items : List Value)
  | object (members : List (Text × Value))

end EntityService.Json
