import EntityService.Manifest
import EntityService.Names.ProjectName
import EntityService.Schema
import EntityService.Source.Program

/-!
# Artifacts

What is generated for a schema document and a project name, without touching any file.

## What is here

* `renderService` — the text of a program, with the event that reports it, and `render`, which gives
  it step by step.
* `Artifacts`, `Artifacts.generate` — the model, the manifest and the program of a project.
-/

set_option autoImplicit false

namespace EntityService

/-- The text of the program for entities, and the event that reports it. -/
def renderService (entities : List Entity) (schema : Text) : Reported String :=
  let service := Service.ofEntities entities schema
  ⟨[.sourceRendered service.resources.length service.routes.length], Source.sourceText service⟩

/-- The text of the program for entities, made step by step, and the event that reports it. -/
def render (entities : List Entity) (schema : Text) : Except Refusal (Reported String) := do
  let (service, creations) ← attemptService entities schema
  let text ← Source.attemptText service creations
  pure ⟨[.sourceRendered service.resources.length service.routes.length], text⟩

/-- Everything generated for one project. -/
structure Artifacts where
  project : String
  manifest : String
  source : String
  entities : List Entity
deriving DecidableEq, Repr

/-- Generates a project: the name is checked first, then the document. -/
def Artifacts.generate (document : Json.Value) (project : String) (schema : Text) :
    Reported (Except Refusal Artifacts) :=
  if Names.isProjectName project then
    let built := Schema.build document
    match built.result with
    | .error refusal => ⟨built.events, .error refusal⟩
    | .ok entities =>
      match render entities schema with
      | .error refusal => ⟨built.events, .error refusal⟩
      | .ok rendered =>
        ⟨built.events ++ rendered.events,
          .ok ⟨project, manifestText project, rendered.result, entities⟩⟩
  else ⟨[], .error (.unusableName project .notProjectName)⟩

/-- The database schema that holds the tables if no other one is asked for. -/
def defaultSchema : String := "public"

end EntityService
