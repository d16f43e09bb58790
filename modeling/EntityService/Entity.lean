import EntityService.Mapping
import EntityService.Scalar
import EntityService.Text.CodePoint
import EntityService.Text.Lowercase

/-!
# Entities

An entity has a name and a sequence of fields.  Its name has no halves of surrogate pairs, which no
name of a class has; the names of its fields may have them.  A field's position is at once the index
of its value in a row and, counted from one, the number of the parameter that its value is bound to.

## What is here

* `Field`, `Entity` — the model.
* `Entity.ofProperties` — the entity whose fields are the properties of a mapping, numbered in
  order.
* `Entity.columns`, `Entity.properties`, `Entity.field?`, `Entity.lowerName` — views of an entity.
-/

set_option autoImplicit false

namespace EntityService

/-- One property of an entity. -/
structure Field where
  name : Text
  scalar : Scalar
  position : Int
deriving DecidableEq, Repr

/-- The number of the parameter that the value of a field is bound to. -/
def Field.parameter (f : Field) : Int := f.position + 1

/-- A name and a sequence of fields. -/
structure Entity where
  name : String
  fields : List Field
deriving DecidableEq, Repr

namespace Entity

/-- Fields for properties, numbered from a given position on. -/
def fieldsFrom (position : Nat) : Mapping Text Scalar → List Field
  | [] => []
  | (name, scalar) :: rest => ⟨name, scalar, position⟩ :: fieldsFrom (position + 1) rest

/-- The entity with the properties of a mapping, in the order of the mapping. -/
def ofProperties (name : String) (properties : Mapping Text Scalar) : Entity :=
  ⟨name, fieldsFrom 0 properties⟩

/-- The names of the fields, in order. -/
def columns (e : Entity) : List Text := e.fields.map (·.name)

/-- The scalar kind of each property. -/
def properties (e : Entity) : Mapping Text Scalar :=
  Mapping.ofPairs (e.fields.map fun f => (f.name, f.scalar))

/-- The first field of a given name. -/
def field? (e : Entity) (name : Text) : Option Field := e.fields.find? (·.name == name)

/-- The name in lower case, which tables, handlers and routes are named after. -/
def lowerName (e : Entity) : String := Text.lower e.name

end Entity

end EntityService
