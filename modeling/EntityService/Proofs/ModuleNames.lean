import EntityService.Proofs.FirstFault
import EntityService.Proofs.NameCharacters
import EntityService.Proofs.TopLevel
import Mathlib.Data.List.Nodup

/-!
# The names at the top level of a program

A generated program binds names at its top level: those of its frame, a class for each entity, and
a function for each handler.  This file shows that no name is bound twice.

The names of two entities are kept apart by the claims that the document was checked for.  The
other clashes are excluded one by one.

* **Class and frame, class and language.**  A name that is predefined or bound by the frame cannot
  name a class.
* **Handler and frame, handler and language.**  A handler starts with its verb and an underscore,
  and no such name starts so.
* **Class and handler of one entity.**  The handler is longer: lower-casing shortens no name.

## What is here

* `Entity.handlerName_not_reserved`, `Entity.handlerName_ne_name`, `Entity.handlerName_injective` —
  the names that a handler does not have.
* `Schema.Accepted.pairwise_boundNames` — two entities of a document bind different names.
* `topLevelNames_nodup` — the main statement.
-/

set_option autoImplicit false

namespace EntityService

open EntityService.Json

/-! ## Names of handlers -/

namespace Names

/-- No reserved name starts with a verb and an underscore. -/
theorem reserved_not_verb : ∀ name ∈ moduleNames ++ keywords ++ builtins, ∀ v ∈ Verb.all,
    (v.name ++ "_").toList.isPrefixOf name.toList = false := by
  decide +kernel

end Names

namespace Verb

/-- Verbs differ in their first letter, whatever follows their names. -/
theorem head_name_injective {v w : Verb} {cs ds : List Char}
    (h : (v.name.toList ++ cs).head? = (w.name.toList ++ ds).head?) : v = w := by
  have hv : ∀ u : Verb, u.name.toList ≠ [] := by
    intro u
    cases u <;> decide
  rw [List.head?_append_of_ne_nil _ (hv v), List.head?_append_of_ne_nil _ (hv w)] at h
  revert h
  cases v <;> cases w <;> decide

end Verb

namespace Entity

open EntityService.Schema

variable (e : Entity) (schema : Text)

theorem handlerName_injective {v w : Verb} (h : e.handlerName v.name = e.handlerName w.name) :
    v = w := by
  have hlists := congrArg (List.head? ∘ String.toList) h
  rw [Function.comp_apply, Function.comp_apply, toList_handlerName, toList_handlerName] at hlists
  exact Verb.head_name_injective hlists

/-- A handler has neither a name of the frame nor one of the language. -/
theorem handlerName_not_reserved (v : Verb) :
    e.handlerName v.name ∉ Names.moduleNames ++ Names.keywords ++ Names.builtins := by
  intro hmem
  have hstart := Names.reserved_not_verb _ hmem v v.mem_all
  rw [Bool.eq_false_iff, Ne, List.isPrefixOf_iff_prefix] at hstart
  refine hstart ⟨e.lowerName.toList, ?_⟩
  rw [toList_handlerName, String.toList_append, List.append_assoc]
  rfl

/-- A handler is not called like the class of its entity: its name is longer. -/
theorem handlerName_ne_name (v : Verb) : e.handlerName v.name ≠ e.name := by
  intro h
  have hlength := congrArg (List.length ∘ String.toList) h
  have hlower := Text.length_le_length_lower e.name
  simp only [Function.comp_apply, toList_handlerName, List.length_append, List.length_cons,
    lowerName] at hlength
  omega

/-! ## Names as words -/

theorem hasWords (h : Names.classNameFault? e.name = none) : e.HasWords := by
  have hword : ∀ {name : String}, Text.IsName name → Source.IsWord name := by
    intro name hname c hc
    exact hname.not_mem (by decide) hc
  exact ⟨hword (e.isName_name h), fun v => hword (e.isName_handlerName h v)⟩

/-! ## The names of one entity -/

theorem boundNames_resource : (e.resource schema).boundNames
    = e.name :: e.verbs.map fun v => e.handlerName v.name := by
  rw [Resource.boundNames, resource_handlers, List.map_map]
  rfl

theorem boundNames_nodup : (e.resource schema).boundNames.Nodup := by
  rw [boundNames_resource, List.nodup_cons]
  constructor
  · intro hmem
    obtain ⟨v, -, hv⟩ := List.mem_map.1 hmem
    exact e.handlerName_ne_name v hv
  · exact (Verb.all_nodup.filter _).map fun v w h => e.handlerName_injective h

theorem boundNames_subset_claimedBy :
    (e.resource schema).boundNames ⊆ claimedBy e.name := by
  intro name hname
  rw [boundNames_resource] at hname
  rw [← claimedNames_eq, claimedNames]
  rcases List.mem_cons.1 hname with rfl | hname
  · exact List.mem_cons_self
  · obtain ⟨v, hv, rfl⟩ := List.mem_map.1 hname
    exact List.mem_cons_of_mem _ (List.mem_cons_of_mem _ (List.mem_map.2 ⟨v, v.mem_all, rfl⟩))

/-- Nothing that an entity binds is reserved. -/
theorem boundNames_not_reserved (h : Names.classNameFault? e.name = none) {name : String}
    (hname : name ∈ (e.resource schema).boundNames) :
    name ∉ Names.moduleNames ++ Names.keywords ++ Names.builtins ∧ name.toList.head? ≠ some '_' := by
  rw [boundNames_resource] at hname
  rcases List.mem_cons.1 hname with rfl | hname
  · obtain ⟨⟨_, hkeyword⟩, hunderscore, hmodule, hbuiltin⟩ := Names.classNameFault?_eq_none_iff.1 h
    refine ⟨?_, hunderscore⟩
    rw [List.mem_append, List.mem_append]
    exact not_or.2 ⟨not_or.2 ⟨hmodule, hkeyword⟩, hbuiltin⟩
  · obtain ⟨v, -, rfl⟩ := List.mem_map.1 hname
    refine ⟨e.handlerName_not_reserved v, ?_⟩
    have hhead : v.name.toList.head?.all (· ≠ '_') = true ∧ v.name.toList ≠ [] := by
      cases v <;> decide
    rw [toList_handlerName, List.head?_append_of_ne_nil _ hhead.2]
    intro hunderscore
    rw [hunderscore] at hhead
    exact absurd hhead.1 (by decide)

end Entity

/-! ## The names of all entities -/

namespace Schema

variable {earlier : List Text} {members : Mapping Text Value} {entities : List Entity}
  (h : Accepted earlier members entities) (schema : Text)

include h

theorem Accepted.pairwise_boundNames : entities.Pairwise fun e e' =>
    (e.resource schema).boundNames.Disjoint (e'.resource schema).boundNames := by
  refine h.disjoint.imp fun hdisjoint => ?_
  intro name hname hname'
  exact hdisjoint (Entity.boundNames_subset_claimedBy _ schema hname)
    (Entity.boundNames_subset_claimedBy _ schema hname')

theorem Accepted.resources_nodup :
    ((Service.ofEntities entities schema).resources.flatMap Resource.boundNames).Nodup := by
  rw [Service.ofEntities, List.flatMap_map, List.nodup_flatMap]
  exact ⟨fun e _ => e.boundNames_nodup schema, h.pairwise_boundNames schema⟩

theorem Accepted.tableNames_nodup : (entities.map (·.tableName schema)).Nodup := by
  rw [List.Nodup, List.pairwise_map]
  refine h.disjoint.imp ?_
  intro e e' hdisjoint htables
  have hlower : e.lowerName = e'.lowerName := by
    rw [Entity.tableName, Entity.tableName] at htables
    exact Text.ofString_inj.1 (List.append_cancel_left htables)
  have hclaimed : ∀ e : Entity, e.lowerName ∈ claimedBy e.name := by
    intro e
    rw [← claimedNames_eq, Entity.claimedNames]
    exact List.mem_cons_of_mem _ List.mem_cons_self
  exact hdisjoint (hclaimed e) (hlower ▸ hclaimed e')

end Schema

/-- **No name is bound twice at the top level of a program.**  The names that its lines bind are
those of the frame and those of the resources; all of them are different, those of the resources
are neither keywords nor predefined, and no two entities share a table. -/
theorem topLevelNames_nodup {v : Value} (hv : v.WellKeyed) {entities : List Entity}
    (h : (Schema.build v).result = .ok entities) (schema : Text) :
    ((Source.program (Service.ofEntities entities schema)).flatMap Source.Line.bindings).Perm
      (Names.moduleNames
        ++ (Service.ofEntities entities schema).resources.flatMap Resource.boundNames) ∧
    (Names.moduleNames
      ++ (Service.ofEntities entities schema).resources.flatMap Resource.boundNames).Nodup ∧
    (∀ name ∈ (Service.ofEntities entities schema).resources.flatMap Resource.boundNames,
      name ∉ Names.keywords ∧ name ∉ Names.builtins ∧ name.toList.head? ≠ some '_') ∧
    (entities.map (·.tableName schema)).Nodup := by
  obtain ⟨members, -, haccepted⟩ := Schema.accepted_of_build hv h
  have husable : ∀ e ∈ entities, Names.classNameFault? e.name = none :=
    fun e he => (haccepted.usable he).1
  have hreserved : ∀ name ∈ (Service.ofEntities entities schema).resources.flatMap
      Resource.boundNames, name ∉ Names.moduleNames ++ Names.keywords ++ Names.builtins ∧
        name.toList.head? ≠ some '_' := by
    intro name hname
    rw [Service.ofEntities, List.flatMap_map] at hname
    obtain ⟨e, he, hname⟩ := List.mem_flatMap.1 hname
    exact e.boundNames_not_reserved schema (husable e he) hname
  refine ⟨Source.bindings_program schema fun e he => e.hasWords (husable e he), ?_, ?_, ?_⟩
  · have hmodule : Names.moduleNames.Nodup := by decide +kernel
    refine hmodule.append (haccepted.resources_nodup schema) ?_
    intro name hframe hname
    exact (hreserved name hname).1 (List.mem_append_left _ (List.mem_append_left _ hframe))
  · intro name hname
    have hnot := (hreserved name hname).1
    rw [List.mem_append, List.mem_append, not_or, not_or] at hnot
    exact ⟨hnot.1.2, hnot.2, (hreserved name hname).2⟩
  · exact haccepted.tableNames_nodup schema

/-- A document with a name that gets longer in lower case, and with an entity without fields. -/
def dottedDocument : Value :=
  .object
    [("\u0130", .object [("properties", .object [("id", .object [("type", .string "integer")])])]),
      ("I", .object [])]

theorem topLevelNames_dottedDocument :
    dottedDocument.WellKeyed ∧
    (Schema.build dottedDocument).result = .ok [⟨"\u0130", [⟨"id", .i64, 0⟩]⟩, ⟨"I", []⟩] ∧
    (Names.moduleNames ++ ["\u0130", "list_i\u0307", "create_i\u0307", "update_i\u0307",
      "delete_i\u0307", "I", "list_i", "create_i", "delete_i"]).Nodup := by
  have hv : dottedDocument.WellKeyed := by decide
  have hbuild : (Schema.build dottedDocument).result
      = .ok [⟨"\u0130", [⟨"id", .i64, 0⟩]⟩, ⟨"I", []⟩] := by rfl
  exact ⟨hv, hbuild, (topLevelNames_nodup hv hbuild "public").2.1⟩

end EntityService
