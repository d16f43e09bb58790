import EntityService.Names.Attribute
import EntityService.Sql.Entity

/-!
# Resources

All that the generated service needs to know about one entity: the members of its model, its
statements, its handlers, and how values travel between a model, a row and the parameters of a
statement.

## What is here

* `Member` — an attribute of a model: the column it stands for, its own name, its kind and its
  place in a row.
* `Argument` — a value that a handler binds to a parameter.
* `Resource`, `Entity.resource` — a resource, and the one of an entity, which
  `Entity.attemptResource` makes step by step.
* `Resource.rowArguments` — which value of a row each attribute is read from.
* `Resource.bindArguments`, `Resource.updateArguments` — what the parameters of an insertion and of
  an update are bound to, in order.
* `Route`, `Resource.routes` — the requests that the handlers answer.
-/

set_option autoImplicit false

namespace EntityService

/-- An attribute of a generated model. -/
structure Member where
  column : Text
  name : String
  scalar : Scalar
  position : Int
deriving DecidableEq, Repr

/-- The column, where it has another name than the attribute. -/
def Member.alias? (m : Member) : Option Text :=
  if m.column = .ofString m.name then none else some m.column

/-- A value that a handler binds to a parameter. -/
inductive Argument
  /-- An attribute of the body of the request. -/
  | member (name : String)
  /-- The row identifier from the route. -/
  | identifier
deriving DecidableEq, Repr

/-- An argument as an expression. -/
def Argument.text : Argument → String
  | member name => bodyName ++ "." ++ name
  | identifier => identifierName

/-- All that is generated for one entity. -/
structure Resource where
  entity : Entity
  members : List Member
  statements : List (Purpose × Sql.Statement)
  handlers : List (Verb × String)
deriving DecidableEq, Repr

namespace Entity

/-- The attributes of the model of an entity. -/
def members (e : Entity) : List Member :=
  (e.fields.zip (Names.attributeNames e.columns)).map fun (f, name) =>
    ⟨f.name, name, f.scalar, f.position⟩

/-- The type of the row identifier in routes: that of the field of this name, if there is one. -/
def identifierType (e : Entity) : String :=
  match e.field? identifierName with
  | some f => f.scalar.annotation
  | none => Scalar.annotation .string

/-- The resource of an entity with given statements.  There is a handler for each verb that there is
a statement for. -/
def resourceOf (e : Entity) (statements : List (Purpose × Sql.Statement)) : Resource :=
  { entity := e
    members := e.members
    statements
    handlers :=
      (Verb.all.filter fun v => statements.any (·.1 == .rows v)).map fun v =>
        (v, e.handlerName v.name) }

/-- The resource of an entity with its table in a database schema. -/
def resource (e : Entity) (schema : Text) : Resource := e.resourceOf (e.statements schema)

/-- The resource of an entity, made step by step: the statements, then the indices of the values in
a row. -/
def attemptResource (e : Entity) (schema : Text) : Except Refusal Resource := do
  let statements ← e.attemptStatements schema
  writing (e.fields.map (·.position)) (e.resourceOf statements)

end Entity

/-- A request that a handler answers. -/
structure Route where
  path : String
  method : String
  handler : String
deriving DecidableEq, Repr

namespace Resource

/-- The statement for a purpose, if there is one. -/
def statement? (r : Resource) (purpose : Purpose) : Option Sql.Statement :=
  r.statements.lookup purpose

/-- The handler for a verb, if there is one. -/
def handler? (r : Resource) (verb : Verb) : Option String := r.handlers.lookup verb

/-- Whether rows can be updated. -/
def hasUpdate (r : Resource) : Bool := (r.statement? (.rows .update)).isSome

/-- Each attribute with the index of its value in a row. -/
def rowArguments (r : Resource) : List (String × Int) :=
  r.members.map fun m => (m.name, m.position)

/-- The arguments that make a model from a row. -/
def rowArgumentsText (r : Resource) : String :=
  ", ".intercalate (r.rowArguments.map fun a => a.1 ++ "=row[" ++ toString a.2 ++ "]")

/-- What the parameters of an insertion are bound to. -/
def bindArguments (r : Resource) : List Argument := r.members.map fun m => .member m.name

/-- What the parameters of an update are bound to. -/
def updateArguments (r : Resource) : List Argument :=
  if r.hasUpdate then r.bindArguments ++ [.identifier] else []

/-- The requests that the handlers answer. -/
def routes (r : Resource) : List Route :=
  r.handlers.map fun (verb, handler) =>
    ⟨r.entity.routePath verb.addressesRow, verb.method, handler⟩

end Resource

end EntityService
