import EntityService.Service.Basic

/-!
# What a resource holds

A resource is put together from the statements of an entity, and which handlers it has is read off
those statements.  Only an update can be missing, and it is missing exactly for an entity without
fields.

## What is here

* `Entity.verbs` — the verbs that the service of an entity offers.
* `resource_handlers`, `handler?_eq` — the handlers are those of these verbs, in their order.
* `statement?_table`, `statement?_list`, `statement?_create`, `statement?_delete`,
  `statement?_update` — the statement for each purpose.
* `Entity.handled` — the verbs with their statements.
* `Resource.updateArguments_subset`, `Entity.updateArguments_of_fields` — what an update binds.
-/

set_option autoImplicit false

namespace EntityService

namespace Verb

theorem mem_all (v : Verb) : v ∈ all := by
  cases v <;> decide

theorem all_nodup : all.Nodup := by decide

end Verb

namespace Entity

open EntityService.Sql

variable (e : Entity) (schema : Text)

/-- The verbs that the service of an entity offers: all of them if there is anything to update. -/
def verbs : List Verb := Verb.all.filter fun v => v ≠ .update ∨ e.fields ≠ []

/-! ## Statements -/

theorem update_eq_error (h : e.fields = []) : e.update schema = .error (.emptyEntity e.name) := by
  rw [update, if_pos h]

theorem update_eq_ok (h : e.fields ≠ []) :
    e.update schema
      = .ok (.update (e.tableName schema) e.boundColumns (identifierName, e.identifierParameter)) := by
  rw [update, if_neg h]

@[simp] theorem statement?_table :
    (e.resource schema).statement? .table = some (e.creation schema) := rfl

@[simp] theorem statement?_list :
    (e.resource schema).statement? (.rows .list) = some (e.selection schema) := rfl

@[simp] theorem statement?_create :
    (e.resource schema).statement? (.rows .create) = some (e.insertion schema) := rfl

@[simp] theorem statement?_delete :
    (e.resource schema).statement? (.rows .delete) = some (e.deletion schema) := rfl

theorem statement?_update :
    (e.resource schema).statement? (.rows .update) = (e.update schema).toOption := by
  simp only [Resource.statement?, resource, resourceOf, statements]
  cases e.update schema <;> rfl

theorem statement?_isSome (v : Verb) :
    ((e.resource schema).statement? (.rows v)).isSome = true ↔ v ∈ e.verbs := by
  rw [verbs, List.mem_filter, decide_eq_true_eq]
  cases v with
  | update =>
    rw [statement?_update]
    by_cases h : e.fields = []
    · simp [update_eq_error e schema h, h, Except.toOption]
    · simp [update_eq_ok e schema h, h, Except.toOption, Verb.all]
  | _ => simp [Verb.all]

/-! ## Handlers -/

theorem any_statements (v : Verb) :
    (e.statements schema).any (·.1 == .rows v) = decide (v ≠ .update ∨ e.fields ≠ []) := by
  by_cases h : e.fields = []
  · rw [statements, update_eq_error e schema h]
    cases v <;> simp [h]
  · rw [statements, update_eq_ok e schema h]
    cases v <;> simp [h]

theorem resource_handlers :
    (e.resource schema).handlers = e.verbs.map fun v => (v, e.handlerName v.name) := by
  simp only [resource, resourceOf, any_statements, verbs]

theorem handler?_eq (v : Verb) :
    (e.resource schema).handler? v = if v ∈ e.verbs then some (e.handlerName v.name) else none := by
  rw [Resource.handler?, resource_handlers]
  generalize e.verbs = verbs
  induction verbs with
  | nil => rfl
  | cons w rest ih =>
    rw [List.map_cons, List.lookup_cons, ih]
    by_cases hw : v = w
    · subst hw
      simp
    · rw [beq_eq_false_iff_ne.2 hw]
      simp only [List.mem_cons, hw, false_or]

/-! ## Handlers with their statements -/

/-- The verbs that the service of an entity offers, each with the statement that it runs. -/
def handled : List (Verb × Statement) :=
  [(.list, e.selection schema), (.create, e.insertion schema)]
    ++ (e.update schema).toOption.toList.map (Prod.mk .update) ++ [(.delete, e.deletion schema)]

theorem handled_fst : (e.handled schema).map (·.1) = e.verbs := by
  by_cases h : e.fields = []
  · simp [handled, verbs, Verb.all, update_eq_error e schema h, h, Except.toOption]
  · simp [handled, verbs, Verb.all, update_eq_ok e schema h, h, Except.toOption]

theorem mem_verbs_of_handled {p : Verb × Statement} (h : p ∈ e.handled schema) : p.1 ∈ e.verbs := by
  rw [← e.handled_fst schema]
  exact List.mem_map_of_mem h

end Entity

/-! ## Arguments -/

theorem Resource.updateArguments_subset (r : Resource) :
    r.updateArguments ⊆ r.bindArguments ++ [.identifier] := by
  rw [updateArguments]
  split
  · exact List.Subset.refl _
  · exact List.nil_subset _

theorem Entity.updateArguments_of_fields (e : Entity) (schema : Text) (h : e.fields ≠ []) :
    (e.resource schema).updateArguments = (e.resource schema).bindArguments ++ [.identifier] := by
  have hupdate : (e.resource schema).hasUpdate = true := by
    rw [Resource.hasUpdate, statement?_update, update_eq_ok e schema h]
    rfl
  rw [Resource.updateArguments, if_pos hupdate]

end EntityService
