import EntityService.Entity
import EntityService.Verb

/-!
# Names derived from an entity

The class of a generated model has the entity's own name; its table, its handlers and its routes are
named after the name in lower case.

## What is here

* `Entity.tableName`, `Entity.handlerName`, `Entity.routePath`.
* `Entity.claimedNames` — the names that an entity claims for itself in the generated program.
-/

set_option autoImplicit false

namespace EntityService

/-- The column that identifies a row, and the parameter of a route that does. -/
def identifierName : String := "id"

/-- The parameter of a handler that holds the body of the request. -/
def bodyName : String := "body"

namespace Entity

/-- The table of an entity in a database schema. -/
def tableName (e : Entity) (schema : Text) : Text := schema ++ "." ++ e.lowerName

/-- The handler for a verb. -/
def handlerName (e : Entity) (verb : String) : String := verb ++ "_" ++ e.lowerName

/-- The route to all rows of an entity, or to one row. -/
def routePath (e : Entity) (addressesRow : Bool) : String :=
  "/api/" ++ e.lowerName
    ++ if addressesRow then "/\x7b" ++ identifierName ++ "\x7d" else ""

/-- The names that an entity claims: those of its class, its table and its handlers. -/
def claimedNames (e : Entity) : List String :=
  e.name :: e.lowerName :: Verb.all.map fun v => e.handlerName v.name

end Entity

end EntityService
