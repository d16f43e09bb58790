import EntityService.Entity

/-!
# Events

What is reported on the way from a schema document to a project.

## What is here

* `Level`, `Topic`, `Event` — how much an event matters, what it is about, and what happened.
* `Event.message` — an event in words.
-/

set_option autoImplicit false

namespace EntityService

/-- How much an event matters: detail for the curious, or a step that was taken. -/
inductive Level
  | debug | info
deriving DecidableEq, Repr

/-- What an event is about. -/
inductive Topic
  /-- Reading a schema document. -/
  | schema
  /-- Rendering, writing and formatting a project. -/
  | project
  /-- A run as a whole. -/
  | run
deriving DecidableEq, Repr

/-- Something that happened. -/
inductive Event
  | entityRead (entity : Entity)
  | schemaRead (entities : Nat)
  | sourceRendered (entities routes : Nat)
  | loading (path : String)
  | projectWritten (path : String)
  | formatting (path tool : String)
  | finished (project : String) (entities : Nat)
deriving DecidableEq, Repr

namespace Event

def level : Event → Level
  | entityRead _ | sourceRendered _ _ => .debug
  | _ => .info

def topic : Event → Topic
  | entityRead _ | schemaRead _ => .schema
  | sourceRendered _ _ | projectWritten _ | formatting _ _ => .project
  | loading _ | finished _ _ => .run

/-- The fields of an entity with their scalar kinds. -/
def fieldsText (fields : List Field) : Text :=
  if fields = [] then "(no properties)"
  else Text.join ", " (fields.map fun f => f.name ++ ":" ++ f.scalar.name)

/-- An event in words. -/
def message : Event → Text
  | entityRead entity => "entity " ++ entity.name ++ ": " ++ fieldsText entity.fields
  | schemaRead entities => "Parsed " ++ toString entities ++ " entities"
  | sourceRendered entities routes =>
    "Rendered main.py.j2 (" ++ toString entities ++ " entities, " ++ toString routes ++ " routes)"
  | loading path => "Loading schema from " ++ path
  | projectWritten path => "Generated " ++ path
  | formatting path tool => "Formatting " ++ path ++ " with " ++ tool
  | finished project entities =>
    "Generated project " ++ project ++ " (" ++ toString entities ++ " entities)"

end Event

/-- What a computation gives, with the events on the way to it. -/
structure Reported (α : Type) where
  events : List Event
  result : α

end EntityService
