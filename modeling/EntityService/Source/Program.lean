import EntityService.Service.Basic
import EntityService.Source.Frame
import EntityService.Source.Line

/-!
# Generated programs

The program for a service: the models, then the handlers, resource by resource, then the statements
that make the tables and the routes, in the frame that all programs share.

Whatever comes from a schema stands in a line either as a name, as part of an expression, or as a
literal; statements, column names and paths are always literals.

## What is here

* `modelLines` — the model of a resource.
* `listLines`, `createLines`, `updateLines`, `deleteLines` — the handlers of a resource.
* `attemptHandlers` — the same handlers, whose names and statements have to be there.
* `assembled`, `program` — the lines of a program.
* `sourceText` — its text, and `attemptText`, which gives it step by step.
-/

set_option autoImplicit false

namespace EntityService.Source

open Line

/-! ## Models -/

/-- The line of a model for one attribute. -/
def memberLine (m : Member) : Line :=
  let declared := "    " ++ m.name ++ ": " ++ m.scalar.annotation
  match m.alias? with
  | some column => [.code (declared ++ " = Field(alias="), .literal column, .code ")"]
  | none => code declared

/-- The lines of the model of a resource. -/
def modelLines (r : Resource) : List Line :=
  [blank, code ("class " ++ r.entity.name ++ "(BaseModel):"),
    code "    model_config = ConfigDict(populate_by_name=True)"]
  ++ (if r.entity.fields = [] then [] else [blank])
  ++ r.members.map memberLine

/-! ## Handlers -/

/-- The lines that bind arguments, one each. -/
def argumentLines (arguments : List Argument) : List Line :=
  arguments.map fun a => code ("        " ++ a.text ++ ",")

/-- The parameter of a handler that identifies a row. -/
def identifierDeclaration (r : Resource) : String :=
  identifierName ++ ": " ++ r.entity.identifierType

/-- The parameter of a handler that holds a model. -/
def bodyDeclaration (r : Resource) : String := bodyName ++ ": " ++ r.entity.name

/-- The lines that refuse a request for a row that is not there. -/
def missingLines (r : Resource) (status : String) : List Line :=
  [code ("    if status == \"" ++ status ++ " 0\":"),
    code ("        raise AppError(f\"" ++ r.entity.name ++ " \x7b" ++ identifierName
      ++ "\x7d not found\", status_code=404)")]

/-- The handler that gives all rows. -/
def listLines (r : Resource) (handler : String) (statement : Sql.Statement) : List Line :=
  [blank,
    code ("async def " ++ handler ++ "(request: Request) -> list[" ++ r.entity.name ++ "]:"),
    [.code "    rows = await request.app.state.pool.fetch(", .literal statement.text, .code ")"],
    code ("    return [" ++ r.entity.name ++ "(" ++ r.rowArgumentsText ++ ") for row in rows]"),
    blank]

/-- The handler that adds a row. -/
def createLines (r : Resource) (handler : String) (statement : Sql.Statement) : List Line :=
  [blank,
    code ("async def " ++ handler ++ "(" ++ bodyDeclaration r ++ ", request: Request) -> "
      ++ r.entity.name ++ ":"),
    code "    await request.app.state.pool.execute(",
    [.code "        ", .literal statement.text, .code ","]]
  ++ argumentLines r.bindArguments
  ++ [code "    )", code ("    return " ++ bodyName), blank]

/-- The handler that changes a row. -/
def updateLines (r : Resource) (handler : String) (statement : Sql.Statement) : List Line :=
  [blank,
    code ("async def " ++ handler ++ "("),
    code ("    " ++ identifierDeclaration r ++ ", " ++ bodyDeclaration r ++ ", request: Request"),
    code (") -> " ++ r.entity.name ++ ":"),
    code "    status = await request.app.state.pool.execute(",
    [.code "        ", .literal statement.text, .code ","]]
  ++ argumentLines r.updateArguments
  ++ [code "    )"] ++ missingLines r "UPDATE" ++ [code ("    return " ++ bodyName), blank]

/-- The handler that removes a row. -/
def deleteLines (r : Resource) (handler : String) (statement : Sql.Statement) : List Line :=
  [blank,
    code ("async def " ++ handler ++ "(" ++ identifierDeclaration r
      ++ ", request: Request) -> dict:"),
    [.code "    status = await request.app.state.pool.execute(", .literal statement.text,
      .code (", " ++ identifierName ++ ")")]]
  ++ missingLines r "DELETE"
  ++ [code ("    return \x7b\"deleted\": " ++ identifierName ++ "\x7d"), blank]

/-- The lines of the handler for a verb. -/
def verbLines (r : Resource) (handler : String) (statement : Sql.Statement) : Verb → List Line
  | .list => listLines r handler statement
  | .create => createLines r handler statement
  | .update => updateLines r handler statement
  | .delete => deleteLines r handler statement

/-- The handler of a resource for a verb, if the resource has a handler and a statement for it. -/
def handlerLines (r : Resource) (verb : Verb) : List Line :=
  match r.handler? verb, r.statement? (.rows verb) with
  | some handler, some statement => verbLines r handler statement verb
  | _, _ => []

/-- The handlers of a resource. -/
def handlersLines (r : Resource) : List Line := Verb.all.flatMap (handlerLines r)

/-- The handler of a resource for a verb, whose name and statement have to be there. -/
def attemptHandler (r : Resource) (v : Verb) : Except Refusal (List Line) := do
  let handler ← require v.name (r.handler? v)
  let statement ← require v.name (r.statement? (.rows v))
  pure (verbLines r handler statement v)

/-- The handler of a resource for updates, which is asked for if rows can be updated. -/
def attemptUpdateHandler (r : Resource) : Except Refusal (List Line) :=
  if r.hasUpdate then attemptHandler r .update else pure []

/-- The handlers of a resource, one after the other. -/
def attemptHandlers (r : Resource) : Except Refusal (List Line) := do
  let list ← attemptHandler r .list
  let create ← attemptHandler r .create
  let update ← attemptUpdateHandler r
  let delete ← attemptHandler r .delete
  pure (list ++ create ++ update ++ delete)

/-! ## Programs -/

/-- The line for a statement that makes a table. -/
def creationLine (statement : Sql.Statement) : Line :=
  [.code "    ", .literal statement.text, .code ","]

/-- The line for a route. -/
def routeLine (route : Route) : Line :=
  [.code "    app.add_api_route(", .literal route.path,
    .code (", " ++ route.handler ++ ", methods=["), .literal route.method, .code "])"]

/-- The lines of a program around given handlers and statements that make tables. -/
def assembled (s : Service) (handlers : List Line) (creations : List Sql.Statement) : List Line :=
  preamble.map code
  ++ s.resources.flatMap modelLines
  ++ [blank]
  ++ handlers
  ++ [blank, code "CREATE_TABLE_STATEMENTS = ["]
  ++ creations.map creationLine
  ++ startup.map code
  ++ s.routes.map routeLine
  ++ ending.map code

/-- The lines of the program for a service. -/
def program (s : Service) : List Line :=
  assembled s (s.resources.flatMap handlersLines) s.creations

/-- The text of the program for a service. -/
def sourceText (s : Service) : String := Line.program (program s)

/-- The text of the program for a service, step by step. -/
def attemptText (s : Service) (creations : List Sql.Statement) : Except Refusal String := do
  let handlers ← s.resources.mapM attemptHandlers
  pure (Line.program (assembled s handlers.flatten creations))

end EntityService.Source
