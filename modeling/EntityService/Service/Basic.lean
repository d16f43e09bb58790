import EntityService.Service.Resource

/-!
# Services

The service for a list of entities: a resource for each of them.

## What is here

* `Service`, `Service.ofEntities` — a service, and the one for given entities.
* `Service.routes` — the routes of all resources.
* `Service.creations` — the statements that make the tables.
* `attemptService` — a service made step by step.
-/

set_option autoImplicit false

namespace EntityService

/-- A service. -/
structure Service where
  resources : List Resource
deriving DecidableEq, Repr

namespace Service

/-- The service for entities with their tables in a database schema. -/
def ofEntities (entities : List Entity) (schema : Text) : Service :=
  ⟨entities.map (·.resource schema)⟩

/-- The routes of all resources. -/
def routes (s : Service) : List Route := s.resources.flatMap (·.routes)

/-- The statements that make the tables. -/
def creations (s : Service) : List Sql.Statement :=
  s.resources.filterMap (·.statement? .table)

end Service

/-- The service for entities, made step by step, and the statements that make its tables. -/
def attemptService (entities : List Entity) (schema : Text) :
    Except Refusal (Service × List Sql.Statement) := do
  let resources ← entities.mapM fun e => e.attemptResource schema
  let creations ← resources.mapM fun r => require Purpose.table.name (r.statement? .table)
  pure (⟨resources⟩, creations)

end EntityService
