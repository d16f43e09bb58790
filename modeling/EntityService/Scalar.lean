/-!
# Scalar kinds

The closed set of kinds that a property can have, and what each kind is called: in a schema
document, in the generated model, and in a database column.

## What is here

* `Scalar` — the kinds.
* `Scalar.name`, `Scalar.ofName?` — the name of a kind, and back.
* `Scalar.annotation` — the type of an attribute of a generated model.
* `Scalar.columnType` — the type of a database column.
* `Scalar.ofFormat?`, `Scalar.ofType?` — the kind that a `format` or a `type` in a schema document
  asks for.
-/

set_option autoImplicit false

namespace EntityService

/-- The kind of a property. -/
inductive Scalar
  | u8 | i32 | i64 | f32 | f64 | string | bool | date | datetime
deriving DecidableEq, Repr

namespace Scalar

/-- All kinds. -/
def all : List Scalar := [u8, i32, i64, f32, f64, string, bool, date, datetime]

/-- The name of a kind. -/
def name : Scalar → String
  | u8 => "u8"
  | i32 => "i32"
  | i64 => "i64"
  | f32 => "f32"
  | f64 => "f64"
  | string => "string"
  | bool => "bool"
  | date => "date"
  | datetime => "datetime"

/-- The kind of a given name. -/
def ofName? (name : String) : Option Scalar := all.find? (·.name == name)

theorem ofName?_name (s : Scalar) : ofName? s.name = some s := by
  cases s <;> decide

/-- The type of an attribute that holds a value of the kind. -/
def annotation : Scalar → String
  | u8 | i32 | i64 => "int"
  | f32 | f64 => "float"
  | string => "str"
  | bool => "bool"
  | date => "datetime.date"
  | datetime => "datetime.datetime"

/-- The type of a column that holds values of the kind. -/
def columnType : Scalar → String
  | u8 => "smallint"
  | i32 => "integer"
  | i64 => "bigint"
  | f32 => "real"
  | f64 => "double precision"
  | string => "text"
  | bool => "boolean"
  | date => "date"
  | datetime => "timestamp"

/-- The kind that a `format` asks for. -/
def ofFormat? : String → Option Scalar
  | "int32" => some i32
  | "int64" => some i64
  | "float" => some f32
  | "double" => some f64
  | "byte" => some u8
  | "password" => some string
  | "date" => some date
  | "date-time" => some datetime
  | _ => none

/-- The kind that a `type` asks for. -/
def ofType? : String → Option Scalar
  | "integer" => some i64
  | "number" => some f64
  | "string" => some string
  | "boolean" => some bool
  | _ => none

/-- The kind of a property with a given `type` and `format`: a format that is known decides, else a
type that is known, else the property is a text. -/
def resolve (type? format? : Option String) : Scalar :=
  ((format?.bind ofFormat?).or (type?.bind ofType?)).getD string

end Scalar

end EntityService
