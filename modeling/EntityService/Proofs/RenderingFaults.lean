import EntityService.Artifacts
import EntityService.Proofs.Resources

/-!
# Rendering that may stop

A service and its program are made step by step, and there are three ways to stop on the way: an
update is asked for although there is none, a template looks up a value that is not there, or a
number has too many digits to be written.  Beside the steps stand the functions that make the same
things at once and leave out what is not there.

This file takes the steps one by one and compares.  The update is asked for in one place and looked
up in four, so what has to be shown is that all of these agree on when it is there.  Then only the
third way is left, and it depends on the numbers alone.

## What is here

* `writing_bind`, `mapM_writing` — how steps that write numbers are put together.
* `Entity.numbers`, `Entity.Fits` — the numbers that are written for an entity.
* `Entity.attemptStatements_eq`, `Entity.attemptResource_eq`, `attemptService_eq`, `render_eq` — what
  the steps give.
-/

set_option autoImplicit false

namespace EntityService

open EntityService.Sql

/-! ## Steps that write numbers -/

section Writing

variable {α β : Type}

theorem writing_eq_ok {numbers : List Int} (h : ∀ n ∈ numbers, Number.isWritable n = true) (a : α) :
    writing numbers a = .ok a := by
  have hnone : Number.firstLong? numbers = none := by
    simpa [Number.firstLong?, List.find?_eq_none] using h
  rw [writing, hnone]

theorem eq_of_writing_ok {numbers : List Int} {a b : α} (h : writing numbers a = .ok b) :
    (∀ n ∈ numbers, Number.isWritable n = true) ∧ b = a := by
  rw [writing] at h
  split at h
  · rename_i hnone
    cases h
    exact ⟨by simpa [Number.firstLong?, List.find?_eq_none] using hnone, rfl⟩
  · cases h

theorem writing_cons_error {n : Int} (h : Number.isWritable n = false) (numbers : List Int) (a : α) :
    writing (n :: numbers) a = .error (.longNumber n) := by
  have hfound : Number.firstLong? (n :: numbers) = some n :=
    List.find?_cons_of_pos (by rw [h]; rfl)
  rw [writing, hfound]

theorem writing_eq_error {numbers : List Int} {a : α} {refusal : Refusal}
    (h : writing numbers a = .error refusal) :
    ∃ n ∈ numbers, Number.isWritable n = false ∧ refusal = .longNumber n := by
  rw [writing] at h
  split at h
  · cases h
  · rename_i n hfound
    cases h
    have hlong : Number.isWritable n = false := by
      simpa using List.find?_some hfound
    exact ⟨n, List.mem_of_find?_eq_some hfound, hlong, rfl⟩

/-- **One step after the other.** -/
theorem writing_bind (numbers numbers' : List Int) (a : α) (b : β)
    {next : α → Except Refusal β} (h : next a = writing numbers' b) :
    writing numbers a >>= next = writing (numbers ++ numbers') b := by
  rw [writing, writing, Number.firstLong?, Number.firstLong?, List.find?_append]
  cases numbers.find? fun n => !Number.isWritable n with
  | none => exact h
  | some n => rfl

/-- A step after which nothing is written any more. -/
theorem writing_bind_ok (numbers : List Int) (a : α) (b : β) {next : α → Except Refusal β}
    (h : next a = .ok b) : writing numbers a >>= next = writing numbers b := by
  rw [writing_bind numbers [] a b h, List.append_nil]

/-- **One step for each item of a list,** by induction on the list. -/
theorem mapM_writing {step : α → Except Refusal β} {numbers : α → List Int} {result : α → β}
    {items : List α} (h : ∀ a ∈ items, step a = writing (numbers a) (result a)) :
    items.mapM step = writing (items.flatMap numbers) (items.map result) := by
  induction items with
  | nil => rfl
  | cons a items ih =>
    rw [List.forall_mem_cons] at h
    rw [List.mapM_cons, h.1, ih h.2, List.flatMap_cons, List.map_cons]
    exact writing_bind _ _ _ _ (writing_bind_ok _ _ _ rfl)

/-- Steps that write nothing. -/
theorem mapM_eq_ok {step : α → Except Refusal β} {result : α → β} {items : List α}
    (h : ∀ a ∈ items, step a = .ok (result a)) : items.mapM step = .ok (items.map result) := by
  have hsteps : items.mapM step = writing (items.flatMap fun _ => []) (items.map result) :=
    mapM_writing h
  rwa [List.flatMap_eq_nil_iff.2 fun _ _ => rfl] at hsteps

end Writing

/-! ## What the steps give -/

namespace Entity

/-- The parameters of all fields, in order. -/
def fieldParameters (e : Entity) : List Int := e.fields.map (·.parameter)

/-- The numbers in the update of an entity. -/
def updateNumbers (e : Entity) : List Int := e.fieldParameters ++ [e.identifierParameter]

/-- The numbers in the statements of an entity. -/
def statementNumbers (e : Entity) : List Int :=
  e.fieldParameters ++ [1] ++ if e.fields = [] then [] else e.updateNumbers

/-- All numbers that are written for an entity. -/
def numbers (e : Entity) : List Int := e.statementNumbers ++ e.fields.map (·.position)

/-- The numbers of all fields can be written. -/
def isWritable (e : Entity) : Bool :=
  e.fields.all fun f => Number.isWritable f.position && Number.isWritable f.parameter

/-- All numbers that are written for an entity can be written. -/
def Fits (e : Entity) : Prop := ∀ n ∈ e.numbers, Number.isWritable n = true

/-- **Entities that fit:** the numbers of their fields can be written, and the number after the last
one. -/
theorem fits_iff (e : Entity) :
    e.Fits ↔ e.isWritable = true ∧ Number.isWritable e.identifierParameter = true := by
  have hone : Number.isWritable 1 = true :=
    Number.isWritable_of_lt (show 1 ≤ Number.maxDigits by decide) (by decide)
  by_cases h : e.fields = []
  · simp [Fits, numbers, statementNumbers, fieldParameters, isWritable, identifierParameter, h, hone]
  · simp only [Fits, numbers, statementNumbers, updateNumbers, fieldParameters, isWritable, if_neg h,
      List.forall_mem_append, List.forall_mem_singleton, List.forall_mem_map, List.all_eq_true,
      Bool.and_eq_true, hone, and_true, forall_and]
    constructor
    · rintro ⟨⟨hparameters, -, hidentifier⟩, hpositions⟩
      exact ⟨⟨hpositions, hparameters⟩, hidentifier⟩
    · rintro ⟨⟨hpositions, hparameters⟩, hidentifier⟩
      exact ⟨⟨hparameters, hparameters, hidentifier⟩, hpositions⟩

variable (e : Entity) (schema : Text)

theorem attemptUpdate_of_empty (h : e.fields = []) :
    e.attemptUpdate schema = .error (.emptyEntity e.name) := by
  rw [attemptUpdate, e.update_eq_error schema h]
  rfl

theorem attemptUpdate_eq (h : e.fields ≠ []) :
    e.attemptUpdate schema = writing e.updateNumbers
      (.update (e.tableName schema) e.boundColumns (identifierName, e.identifierParameter)) := by
  have hparameters : e.boundColumns.map (·.2) ++ [e.identifierParameter] = e.updateNumbers := by
    rw [boundColumns, List.map_map]
    rfl
  rw [attemptUpdate, e.update_eq_ok schema h, ← hparameters]
  rfl

/-- **An update is refused to an entity without fields, and to no other.** -/
theorem attemptUpdate_refused_iff :
    e.attemptUpdate schema = .error (.emptyEntity e.name) ↔ e.fields = [] := by
  refine ⟨fun hrefused => Decidable.byContradiction fun h => ?_, e.attemptUpdate_of_empty schema⟩
  rw [e.attemptUpdate_eq schema h] at hrefused
  obtain ⟨n, -, -, hfault⟩ := writing_eq_error hrefused
  cases hfault

theorem parameters_insertion : (e.insertion schema).parameters = e.fieldParameters := by
  rw [insertion, Statement.parameters, boundColumns, List.map_map]
  rfl

theorem attemptStatements_eq :
    e.attemptStatements schema = writing e.statementNumbers (e.statements schema) := by
  have hinsertion : (e.insertion schema).attempt
      = writing e.fieldParameters (e.insertion schema) := by
    rw [Statement.attempt, parameters_insertion]
  have hdeletion : (e.deletion schema).attempt = writing [1] (e.deletion schema) := rfl
  rw [attemptStatements, statementNumbers, List.append_assoc, hinsertion, hdeletion]
  refine writing_bind [] _ _ _ (writing_bind [] _ _ _ ?_)
  refine writing_bind _ _ _ _ (writing_bind _ _ _ _ ?_)
  by_cases h : e.fields = []
  · simp only [if_pos h, statements, e.update_eq_error schema h]
    rfl
  · simp only [if_neg h, statements, e.update_eq_ok schema h, e.attemptUpdate_eq schema h]
    exact writing_bind_ok _ _ _ rfl

theorem attemptResource_eq :
    e.attemptResource schema = writing e.numbers (e.resource schema) := by
  rw [attemptResource, attemptStatements_eq]
  exact writing_bind _ _ _ _ rfl

theorem attemptStatements_of_fits (h : e.Fits) :
    e.attemptStatements schema = .ok (e.statements schema) := by
  rw [attemptStatements_eq]
  exact writing_eq_ok (fun n hn => h n (List.mem_append_left _ hn)) _

theorem attemptResource_of_fits (h : e.Fits) :
    e.attemptResource schema = .ok (e.resource schema) := by
  rw [attemptResource_eq]
  exact writing_eq_ok h _

/-- Only for an entity that fits a resource is made, and there is only one. -/
theorem fits_of_attemptResource {r : Resource} (h : e.attemptResource schema = .ok r) :
    e.Fits ∧ r = e.resource schema := by
  rw [attemptResource_eq] at h
  exact eq_of_writing_ok h

end Entity

theorem attemptService_eq (entities : List Entity) (schema : Text) :
    attemptService entities schema = writing (entities.flatMap Entity.numbers)
      (.ofEntities entities schema, entities.map (·.creation schema)) := by
  have hresources : entities.mapM (fun e => e.attemptResource schema)
      = writing (entities.flatMap Entity.numbers) (entities.map (·.resource schema)) :=
    mapM_writing fun e _ => e.attemptResource_eq schema
  have hcreations : (entities.map (·.resource schema)).mapM (fun r =>
      require Purpose.table.name (r.statement? .table)) = .ok (entities.map (·.creation schema)) := by
    rw [List.mapM_map]
    exact mapM_eq_ok fun e _ => congrArg (require Purpose.table.name) (e.statement?_table schema)
  rw [attemptService, hresources]
  refine writing_bind_ok _ _ _ ?_
  rw [hcreations]
  rfl

namespace Source

variable (e : Entity) (schema : Text)

theorem attemptHandler_eq {v : Verb} (h : v ∈ e.verbs) :
    attemptHandler (e.resource schema) v = .ok (handlerLines (e.resource schema) v) := by
  obtain ⟨statement, hstatement⟩ :=
    Option.isSome_iff_exists.1 ((e.statement?_isSome schema v).2 h)
  rw [attemptHandler, handlerLines, e.handler?_eq, if_pos h, hstatement]
  rfl

theorem mem_verbs_of_ne {v : Verb} (h : v ≠ .update) : v ∈ e.verbs :=
  List.mem_filter.2 ⟨v.mem_all, decide_eq_true (.inl h)⟩

/-- The condition for the update is the one under which there is a handler and a statement for
it. -/
theorem attemptUpdateHandler_eq :
    attemptUpdateHandler (e.resource schema) = .ok (handlerLines (e.resource schema) .update) := by
  rw [attemptUpdateHandler]
  split
  · rename_i h
    exact attemptHandler_eq e schema ((e.statement?_isSome schema .update).1 h)
  · rename_i h
    have hnone : (e.resource schema).statement? (.rows .update) = none := by
      simpa [Resource.hasUpdate] using h
    rw [handlerLines, hnone]
    cases (e.resource schema).handler? .update <;> rfl

/-- **The template finds what it looks up.** -/
theorem attemptHandlers_eq :
    attemptHandlers (e.resource schema) = .ok (handlersLines (e.resource schema)) := by
  rw [attemptHandlers, attemptHandler_eq e schema (mem_verbs_of_ne e (by decide)),
    attemptHandler_eq e schema (mem_verbs_of_ne e (by decide)), attemptUpdateHandler_eq,
    attemptHandler_eq e schema (mem_verbs_of_ne e (by decide))]
  simp [handlersLines, Verb.all, bind, Except.bind, pure, Except.pure]

theorem attemptText_eq (entities : List Entity) (schema : Text) :
    attemptText (.ofEntities entities schema) (entities.map (·.creation schema))
      = .ok (sourceText (.ofEntities entities schema)) := by
  have hhandlers : (Service.ofEntities entities schema).resources.mapM attemptHandlers
      = .ok ((Service.ofEntities entities schema).resources.map handlersLines) := by
    refine mapM_eq_ok fun r hr => ?_
    obtain ⟨e, -, rfl⟩ := List.mem_map.1 hr
    exact attemptHandlers_eq e schema
  have hcreations : (Service.ofEntities entities schema).creations
      = entities.map (·.creation schema) := by
    rw [Service.ofEntities, Service.creations, List.filterMap_map]
    exact congrFun List.filterMap_eq_map entities
  rw [attemptText, hhandlers, sourceText, program, hcreations, List.flatMap_def]
  rfl

end Source

/-- **Rendering step by step** gives the program, or stops at a number. -/
theorem render_eq (entities : List Entity) (schema : Text) :
    render entities schema
      = writing (entities.flatMap Entity.numbers) (renderService entities schema) := by
  rw [render, attemptService_eq]
  refine writing_bind_ok _ _ _ ?_
  simp only [Source.attemptText_eq]
  rfl

end EntityService
