import EntityService.Event
import EntityService.Names.Fault
import Mathlib.Data.List.Forall2

/-!
# Words

What the program says is kept as data and worded where it is printed.  This file says which words
belong to which datum: the types of a scalar kind, the reason why a name is refused, and the record
of an event.  Each is a relation that names all its cases, and the function that words the data is
shown to be this relation.

## What is here

* `Scalar.Typed` — the types of a kind in the model and in the database, with `Scalar.typed_iff`.
* `NameFault.Reason` — the reasons, with `NameFault.reason_iff`.
* `Record`, `Event.Recorded` — the records of events, with `Event.recorded_iff` and, for all events
  of a log, `forall₂_recorded_iff`.
-/

set_option autoImplicit false

namespace EntityService

/-! ## Types -/

/-- The type of an attribute and the type of a column that belong to a scalar kind. -/
inductive Scalar.Typed : Scalar → String → String → Prop
  | u8 : Typed .u8 "int" "smallint"
  | i32 : Typed .i32 "int" "integer"
  | i64 : Typed .i64 "int" "bigint"
  | f32 : Typed .f32 "float" "real"
  | f64 : Typed .f64 "float" "double precision"
  | string : Typed .string "str" "text"
  | bool : Typed .bool "bool" "boolean"
  | date : Typed .date "datetime.date" "date"
  | datetime : Typed .datetime "datetime.datetime" "timestamp"

/-- **Every kind has its two types.** -/
theorem Scalar.typed_iff {s : Scalar} { annotation columnType : String} :
    s.Typed annotation columnType ↔ s.annotation = annotation ∧ s.columnType = columnType := by
  constructor
  · intro h
    cases h <;> exact ⟨rfl, rfl⟩
  · rintro ⟨rfl, rfl⟩
    cases s <;> constructor

/-! ## Reasons -/

/-- The reason that is given for a fault of a name. -/
inductive NameFault.Reason : NameFault → String → Prop
  | notIdentifier : Reason .notIdentifier "is not a valid Python identifier"
  | leadingUnderscore : Reason .leadingUnderscore "must not start with an underscore"
  | reserved : Reason .reserved "clashes with a name the generated service defines or uses"
  /-- The name that is taken, and the entity that has taken it, both as literals. -/
  | claimed (generated owner : String) : Reason (.claimed generated owner)
      ("generates " ++ Text.literal generated ++ ", already used by entity " ++ Text.literal owner)
  | notProjectName :
      Reason .notProjectName "is not a valid project name (letters, digits, ., _, -)"

/-- **Every fault has its reason.** -/
theorem NameFault.reason_iff {fault : NameFault} {reason : String} :
    fault.Reason reason ↔ fault.text = reason := by
  constructor
  · intro h
    cases h <;> rfl
  · rintro rfl
    cases fault <;> constructor

/-! ## Records -/

/-- A record of a log. -/
structure Record where
  level : Level
  topic : Topic
  text : Text

/-- Fields with their kinds, if there are any. -/
def listing (fields : List Field) : Text :=
  if fields = [] then "(no properties)"
  else Text.join ", " (fields.map fun f => f.name ++ ":" ++ f.scalar.name)

/-- The record of an entity. -/
def entityRecord (e : Entity) : Record :=
  ⟨.debug, .schema, "entity " ++ e.name ++ ": " ++ listing e.fields⟩

/-- The record that is left of an event. -/
inductive Event.Recorded : Event → Record → Prop
  | entityRead (e : Entity) : Recorded (.entityRead e) (entityRecord e)
  | schemaRead (entities : Nat) : Recorded (.schemaRead entities)
      ⟨.info, .schema, "Parsed " ++ toString entities ++ " entities"⟩
  | sourceRendered (entities routes : Nat) : Recorded (.sourceRendered entities routes)
      ⟨.debug, .project, "Rendered main.py.j2 (" ++ toString entities ++ " entities, "
        ++ toString routes ++ " routes)"⟩
  | loading (path : String) : Recorded (.loading path) ⟨.info, .run, "Loading schema from " ++ path⟩
  | projectWritten (path : String) :
      Recorded (.projectWritten path) ⟨.info, .project, "Generated " ++ path⟩
  | formatting (path tool : String) : Recorded (.formatting path tool)
      ⟨.info, .project, "Formatting " ++ path ++ " with " ++ tool⟩
  | finished (project : String) (entities : Nat) : Recorded (.finished project entities)
      ⟨.info, .run, "Generated project " ++ project ++ " (" ++ toString entities ++ " entities)"⟩

/-- The record that an event is printed as. -/
def Event.record (event : Event) : Record := ⟨event.level, event.topic, event.message⟩

/-- **Every event has its record.** -/
theorem Event.recorded_iff {event : Event} {record : Record} :
    event.Recorded record ↔ event.record = record := by
  constructor
  · intro h
    cases h <;> rfl
  · rintro rfl
    cases event <;> constructor

theorem forall₂_recorded_iff {events : List Event} {records : List Record} :
    List.Forall₂ Event.Recorded events records ↔ events.map Event.record = records := by
  have hsame : Event.Recorded = fun event record => event.record = record := by
    funext event record
    exact propext Event.recorded_iff
  rw [hsame, ← List.forall₂_map_left_iff, List.forall₂_eq_eq_eq]

end EntityService
