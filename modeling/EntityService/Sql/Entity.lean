import EntityService.Names.Derived
import EntityService.Refusal
import EntityService.Sql.Statement

/-!
# Statements for an entity

Every statement lists the columns in the order of the fields and binds a field to the parameter that
its position gives.  An update has one parameter more, for the row identifier, numbered after the
fields; it is there also if one of the fields is the identifier.

## What is here

* `Entity.creation`, `Entity.selection`, `Entity.insertion`, `Entity.deletion`, `Entity.update` —
  the statements.  An entity without fields has no update.
* `Entity.identifierParameter` — the parameter of an update that the row identifier is bound to.
* `Purpose` — what a statement is for: making the table, or one of the verbs.
* `Entity.statements` — all statements of an entity by purpose.
* `Statement.attempt`, `Entity.attemptUpdate`, `Entity.attemptStatements` — the same step by step,
  where a parameter may be too long to be written.
-/

set_option autoImplicit false

namespace EntityService

open EntityService.Sql

/-- What a statement is for. -/
inductive Purpose
  | table
  | rows (verb : Verb)
deriving DecidableEq, Repr

/-- The name of a purpose. -/
def Purpose.name : Purpose → String
  | table => "create_table"
  | rows verb => verb.name

namespace Entity

/-- The table for the rows of an entity. -/
def creation (e : Entity) (schema : Text) : Statement :=
  .createTable (e.tableName schema) (e.fields.map fun f => (f.name, f.scalar.columnType))

/-- All rows. -/
def selection (e : Entity) (schema : Text) : Statement :=
  .select (e.tableName schema) e.columns

/-- Each column with the parameter of its field. -/
def boundColumns (e : Entity) : List (Text × Int) :=
  e.fields.map fun f => (f.name, f.parameter)

/-- A new row. -/
def insertion (e : Entity) (schema : Text) : Statement :=
  .insert (e.tableName schema) e.boundColumns

/-- The parameter after those of the fields. -/
def identifierParameter (e : Entity) : Int := e.fields.length + 1

/-- New values for the row with a given identifier. -/
def update (e : Entity) (schema : Text) : Except Refusal Statement :=
  if e.fields = [] then .error (.emptyEntity e.name)
  else
    .ok (.update (e.tableName schema) e.boundColumns (identifierName, e.identifierParameter))

/-- Removal of the row with a given identifier. -/
def deletion (e : Entity) (schema : Text) : Statement :=
  .delete (e.tableName schema) (identifierName, 1)

/-- The statements of an entity.  An update is among them if there is one. -/
def statements (e : Entity) (schema : Text) : List (Purpose × Statement) :=
  [(.table, e.creation schema), (.rows .list, e.selection schema),
    (.rows .create, e.insertion schema), (.rows .delete, e.deletion schema)]
  ++ match e.update schema with
    | .ok statement => [(.rows .update, statement)]
    | .error _ => []

end Entity

/-! ## Step by step -/

/-- A statement, if its parameters can be written. -/
def Sql.Statement.attempt (s : Statement) : Except Refusal Statement := writing s.parameters s

/-- The placeholder of a field, if its parameter can be written. -/
def Field.attemptPlaceholder (f : Field) : Except Refusal String :=
  writing [f.parameter] (placeholder f.parameter)

namespace Entity

/-- The update of an entity.  One that there is not stops everything. -/
def attemptUpdate (e : Entity) (schema : Text) : Except Refusal Statement := do
  let statement ← e.update schema
  statement.attempt

/-- The statements of an entity.  The update is asked for if there are fields. -/
def attemptStatements (e : Entity) (schema : Text) :
    Except Refusal (List (Purpose × Statement)) := do
  let creation ← (e.creation schema).attempt
  let selection ← (e.selection schema).attempt
  let insertion ← (e.insertion schema).attempt
  let deletion ← (e.deletion schema).attempt
  let fixed := [(.table, creation), (.rows .list, selection), (.rows .create, insertion),
    (.rows .delete, deletion)]
  if e.fields = [] then
    pure fixed
  else
    let update ← e.attemptUpdate schema
    pure (fixed ++ [(.rows .update, update)])

end Entity

end EntityService
