import EntityService.Proofs.ModelRecovery
import EntityService.Proofs.RenderingFaults
import EntityService.Proofs.Routing
import Mathlib.Tactic.TFAE

/-!
# The way of an update

An entity without fields has nothing to update.  Whether it has fields is asked where its statements
are made; everything after that goes by what it finds: the handlers by the statements, the routes by
the handlers, the arguments by a flag, and the program by the same flag.  This file shows that all
of them say the same about every entity, whatever it is called and however its fields are numbered,
and so that rendering finds what it looks for.

Rendering can still stop.  A number of more than `Number.maxDigits` digits cannot be written, and a
field may have such a position.

## What is here

* `Source.verbLines_split` — where a handler starts.
* `Entity.declaredVerbs`, `declaredVerbs_handlersLines` — the handlers that are rendered, as read
  from the lines.
* `update_everywhere_or_nowhere` — the main statement, with `longEntity_stops`, an entity that
  cannot be rendered.
-/

set_option autoImplicit false

namespace EntityService

open EntityService.Sql EntityService.Source

/-! ## Where a handler starts -/

namespace Source

theorem head?_indented {s : String} (h : Indented s) (parts : List Part) :
    (Line.text (.code s :: parts)).toList.head? ≠ some 'a' := by
  obtain ⟨rest, hrest⟩ := h.append (Line.text parts)
  rw [text_cons, ← hrest]
  exact fun heq => absurd (Option.some.inj heq) (by decide)

theorem head?_argumentLines (arguments : List Argument) :
    ∀ line ∈ argumentLines arguments, line.text.toList.head? ≠ some 'a' := by
  refine List.forall_mem_map.2 fun a _ => head?_indented ?_ []
  exact ((by decide : Indented "        ").append _).append _

theorem head?_missingLines (r : Resource) (status : String) :
    ∀ line ∈ missingLines r status, line.text.toList.head? ≠ some 'a' := by
  rw [missingLines, List.forall_mem_cons, List.forall_mem_singleton]
  refine ⟨head?_indented ?_ [], head?_indented ?_ []⟩
  · exact ((by decide : Indented "    if status == \"").append _).append _
  · exact ((((by decide : Indented "        raise AppError(f\"").append _).append _).append
      _).append _

/-- **A handler starts in its second line** and in no other. -/
theorem verbLines_split (r : Resource) (handler : String) (statement : Statement) (v : Verb) :
    ∃ header rest, verbLines r handler statement v = Line.blank :: header :: rest ∧
      ("async def " ++ handler ++ "(").toList <+: header.text.toList ∧
      ∀ line ∈ rest, line.text.toList.head? ≠ some 'a' := by
  have hargument := head?_argumentLines
  have hmissing := head?_missingLines r
  have hblank : Line.blank.text.toList.head? ≠ some 'a' := by decide
  have hcode : ∀ s : String, Indented s → (Line.code s).text.toList.head? ≠ some 'a' :=
    fun s h => head?_indented h []
  have hstart : ∀ {line : Line} (more : List Char),
      line.text.toList = "async def ".toList ++ (handler.toList ++ '(' :: more) →
      ("async def " ++ handler ++ "(").toList <+: line.text.toList := by
    rintro line more htext
    rw [htext, String.toList_append, String.toList_append, List.append_assoc]
    exact ⟨more, by simp⟩
  cases v with
  | list =>
    have hreturn : Indented ("    return [" ++ r.entity.name ++ "(" ++ r.rowArgumentsText
        ++ ") for row in rows]") :=
      ((((by decide : Indented "    return [").append _).append _).append _).append _
    refine ⟨_, [_, _, _], rfl, ?_, ?_⟩
    · refine hstart ("request: Request) -> list[".toList ++ (r.entity.name.toList ++ "]:".toList)) ?_
      rw [text_code]
      simp only [String.toList_append, List.append_assoc]
      rfl
    · simp only [List.forall_mem_cons]
      exact ⟨head?_indented (by decide) _, hcode _ hreturn, hblank, List.forall_mem_nil _⟩
  | create =>
    refine ⟨_, _ :: _ :: (argumentLines r.bindArguments ++ [_, _, _]), rfl, ?_, ?_⟩
    · refine hstart ((bodyDeclaration r).toList ++ (", request: Request) -> ".toList
        ++ (r.entity.name.toList ++ ":".toList))) ?_
      rw [text_code]
      simp only [String.toList_append, List.append_assoc]
      rfl
    · simp only [List.forall_mem_cons, List.forall_mem_append]
      exact ⟨hcode _ (by decide), head?_indented (by decide) _, hargument _, hcode _ (by decide),
        hcode _ (by decide), hblank, List.forall_mem_nil _⟩
  | update =>
    have hparameters : Indented ("    " ++ identifierDeclaration r ++ ", " ++ bodyDeclaration r
        ++ ", request: Request") :=
      ((((by decide : Indented "    ").append _).append _).append _).append _
    have hclose : (Line.code (") -> " ++ r.entity.name ++ ":")).text.toList.head? ≠ some 'a' := by
      rw [text_code, String.toList_append, String.toList_append]
      exact fun heq => absurd (Option.some.inj heq) (by decide)
    refine ⟨_, [_, _, _, _] ++ argumentLines r.updateArguments ++ [_] ++ missingLines r "UPDATE"
      ++ [_, _], rfl, ?_, ?_⟩
    · exact ⟨[], by rw [List.append_nil, text_code]⟩
    · simp only [List.append_assoc, List.cons_append, List.nil_append, List.forall_mem_cons,
        List.forall_mem_append]
      exact ⟨hcode _ hparameters, hclose, hcode _ (by decide), head?_indented (by decide) _,
        hargument _, hcode _ (by decide), hmissing _, hcode _ (by decide), hblank,
        List.forall_mem_nil _⟩
  | delete =>
    refine ⟨_, _ :: (missingLines r "DELETE" ++ [_, _]), rfl, ?_, ?_⟩
    · refine hstart ((identifierDeclaration r).toList
        ++ ", request: Request) -> dict:".toList) ?_
      rw [text_code]
      simp only [String.toList_append, List.append_assoc]
      rfl
    · simp only [List.forall_mem_cons, List.forall_mem_append]
      exact ⟨head?_indented (by decide) _, hmissing _, hcode _ (by decide), hblank,
        List.forall_mem_nil _⟩

end Source

/-! ## The handlers that are rendered -/

namespace Entity

variable (e : Entity) (schema : Text)

/-- Whether a line starts the handler of an entity for a verb. -/
def declares (line : Line) (v : Verb) : Bool :=
  ("async def " ++ e.handlerName v.name ++ "(").toList.isPrefixOf line.text.toList

/-- The verbs whose handlers start in some lines. -/
def declaredVerbs (lines : List Line) : List Verb :=
  lines.flatMap fun line => Verb.all.filter (e.declares line)

theorem declares_of_head {line : Line} (h : line.text.toList.head? ≠ some 'a') (v : Verb) :
    e.declares line v = false := by
  rw [declares, Bool.eq_false_iff, Ne, List.isPrefixOf_iff_prefix]
  rintro ⟨rest, hrest⟩
  rw [← hrest, String.toList_append, String.toList_append] at h
  exact h rfl

/-- A line that starts the handler for a verb starts no other. -/
theorem declares_header {line : Line} {v : Verb}
    (h : ("async def " ++ e.handlerName v.name ++ "(").toList <+: line.text.toList) (u : Verb) :
    e.declares line u = decide (u = v) := by
  rw [declares]
  by_cases huv : u = v
  · rw [huv, decide_eq_true rfl, List.isPrefixOf_iff_prefix]
    exact h
  · rw [decide_eq_false huv, Bool.eq_false_iff, Ne, List.isPrefixOf_iff_prefix]
    rintro ⟨more, hmore⟩
    obtain ⟨rest, hrest⟩ := h
    -- After the same beginning both go on with the names of their verbs.
    have hnames := hmore.trans hrest.symm
    simp only [String.toList_append, toList_handlerName, List.append_assoc,
      List.append_right_inj] at hnames
    exact huv (Verb.head_name_injective (congrArg List.head? hnames))

theorem declaredVerbs_verbLines (r : Resource) (statement : Statement) (v : Verb) :
    e.declaredVerbs (verbLines r (e.handlerName v.name) statement v) = [v] := by
  obtain ⟨header, rest, hlines, hheader, hrest⟩ :=
    verbLines_split r (e.handlerName v.name) statement v
  have hsilent : ∀ line, line.text.toList.head? ≠ some 'a' →
      Verb.all.filter (e.declares line) = [] := fun line hline =>
    List.filter_eq_nil_iff.2 fun u _ => by simp [e.declares_of_head hline u]
  have hown : Verb.all.filter (e.declares header) = [v] := by
    rw [List.filter_congr fun u _ => e.declares_header hheader u]
    cases v <;> decide
  rw [hlines, declaredVerbs, List.flatMap_cons, List.flatMap_cons, hsilent _ (by decide), hown,
    List.flatMap_eq_nil_iff.2 fun line hline => hsilent line (hrest line hline)]
  rfl

/-- **The handlers that are rendered** are those for the verbs of the entity, in their order. -/
theorem declaredVerbs_handlersLines :
    e.declaredVerbs (handlersLines (e.resource schema)) = e.verbs := by
  rw [handlersLines_eq, declaredVerbs, List.flatMap_assoc, ← e.handled_fst schema,
    List.map_eq_flatMap]
  exact List.flatMap_congr fun p _ => e.declaredVerbs_verbLines _ p.2 p.1

/-! ## Where an update shows -/

theorem mem_verbs_update : .update ∈ e.verbs ↔ e.fields ≠ [] := by
  simp [verbs, Verb.all]

theorem mem_statements_update :
    .rows .update ∈ (e.statements schema).map (·.1) ↔ e.fields ≠ [] := by
  by_cases h : e.fields = []
  · simp [statements, e.update_eq_error schema h, h]
  · simp [statements, e.update_eq_ok schema h, h]

theorem updateArguments_ne_nil_iff :
    (e.resource schema).updateArguments ≠ [] ↔ e.fields ≠ [] := by
  refine ⟨fun harguments hfields => harguments ?_, fun h => ?_⟩
  · have hupdate : (e.resource schema).hasUpdate ≠ true := fun hupdate =>
      e.mem_verbs_update.1 ((e.statement?_isSome schema .update).1 hupdate) hfields
    rw [Resource.updateArguments, if_neg hupdate]
  · rw [e.updateArguments_of_fields schema h]
    exact List.append_ne_nil_of_right_ne_nil _ (List.cons_ne_nil _ _)

/-- Only the route for updates answers this method. -/
theorem exists_put_route_iff :
    (∃ route ∈ (e.resource schema).routes, route.method = "PUT") ↔
      e.route .update ∈ (e.resource schema).routes := by
  refine ⟨?_, fun h => ⟨_, h, rfl⟩⟩
  rw [routes_resource]
  rintro ⟨route, hroute, hmethod⟩
  obtain ⟨v, hv, rfl⟩ := List.mem_map.1 hroute
  obtain rfl : v = .update := Verb.method_injective hmethod
  exact List.mem_map_of_mem hv

theorem mem_routes_update :
    e.route .update ∈ (e.resource schema).routes ↔ e.fields ≠ [] := by
  rw [routes_resource, ← e.mem_verbs_update]
  refine ⟨fun h => ?_, List.mem_map_of_mem⟩
  obtain ⟨v, hv, heq⟩ := List.mem_map.1 h
  obtain rfl : v = .update := Verb.method_injective (congrArg Route.method heq)
  exact hv

/-- **Where an update shows:** everywhere or nowhere. -/
theorem update_tfae : List.TFAE [
    e.fields ≠ [],
    .rows .update ∈ (e.statements schema).map (·.1),
    .update ∈ (e.resource schema).handlers.map (·.1),
    (e.resource schema).hasUpdate = true,
    (e.resource schema).updateArguments ≠ [],
    ∃ route ∈ (e.resource schema).routes, route.method = "PUT",
    ⟨e.routePath true, "PUT", e.handlerName "update"⟩ ∈ (e.resource schema).routes,
    .update ∈ e.declaredVerbs (handlersLines (e.resource schema))] := by
  have hhandlers : (e.resource schema).handlers.map (·.1) = e.verbs := by
    rw [resource_handlers, List.map_map]
    exact List.map_id _
  rw [hhandlers, declaredVerbs_handlersLines, exists_put_route_iff]
  tfae_have 2 ↔ 1 := e.mem_statements_update schema
  tfae_have 3 ↔ 1 := e.mem_verbs_update
  tfae_have 4 ↔ 3 := e.statement?_isSome schema .update
  tfae_have 5 ↔ 1 := e.updateArguments_ne_nil_iff schema
  tfae_have 6 ↔ 1 := e.mem_routes_update schema
  tfae_have 7 ↔ 1 := e.mem_routes_update schema
  tfae_finish

end Entity

/-! ## Rendering -/

/-- **The update of an entity is there everywhere or nowhere, and rendering stops at nothing but a
number.**  If all numbers can be written, those of the fields and the one after the last, every step
is taken and the result is the program.  Otherwise what stops it is a number; in no case is it an
update that there is not, or a value that is looked up and is not there.  Whatever is made of an
entity, statements, resource and handlers, has the update exactly if the entity has fields. -/
theorem update_everywhere_or_nowhere (entities : List Entity) (schema : Text) :
    ((∀ e ∈ entities, e.Fits) →
      attemptService entities schema = .ok (.ofEntities entities schema,
        entities.map (·.creation schema)) ∧
      render entities schema = .ok (renderService entities schema)) ∧
    (∀ refusal, attemptService entities schema = .error refusal ∨
        render entities schema = .error refusal →
      ∃ e ∈ entities, ∃ n ∈ e.numbers, Number.isWritable n = false ∧ refusal = .longNumber n) ∧
    ∀ e ∈ entities,
      (e.Fits ↔ e.isWritable = true ∧ Number.isWritable e.identifierParameter = true) ∧
      (e.Fits → e.attemptStatements schema = .ok (e.statements schema) ∧
        e.attemptResource schema = .ok (e.resource schema)) ∧
      (e.attemptUpdate schema = .error (.emptyEntity e.name) ↔ e.fields = []) ∧
      ∀ r, e.attemptResource schema = .ok r → ∃ statements lines,
        e.attemptStatements schema = .ok statements ∧ attemptHandlers r = .ok lines ∧
        (r.updateArguments ≠ [] → r.updateArguments.length = r.bindArguments.length + 1) ∧
        List.TFAE [
          e.fields ≠ [],
          .rows .update ∈ statements.map (·.1),
          .update ∈ r.handlers.map (·.1),
          r.hasUpdate = true,
          r.updateArguments ≠ [],
          ∃ route ∈ r.routes, route.method = "PUT",
          ⟨e.routePath true, "PUT", e.handlerName "update"⟩ ∈ r.routes,
          .update ∈ e.declaredVerbs lines] := by
  have hservice := attemptService_eq entities schema
  have hrender := render_eq entities schema
  refine ⟨fun hfits => ?_, fun refusal hrefusal => ?_, fun e he =>
    ⟨e.fits_iff, fun hfits => ?_, e.attemptUpdate_refused_iff schema, fun r hr => ?_⟩⟩
  · have hall : ∀ n ∈ entities.flatMap Entity.numbers, Number.isWritable n = true := by
      intro n hn
      obtain ⟨e, he, hn⟩ := List.mem_flatMap.1 hn
      exact hfits e he n hn
    rw [hservice, hrender, writing_eq_ok hall, writing_eq_ok hall]
    exact ⟨rfl, rfl⟩
  · have hstops : ∃ n ∈ entities.flatMap Entity.numbers,
        Number.isWritable n = false ∧ refusal = .longNumber n := by
      rcases hrefusal with hrefusal | hrefusal
      · exact writing_eq_error (hservice.symm.trans hrefusal)
      · exact writing_eq_error (hrender.symm.trans hrefusal)
    obtain ⟨n, hn, hlong, rfl⟩ := hstops
    obtain ⟨e, he, hn⟩ := List.mem_flatMap.1 hn
    exact ⟨e, he, n, hn, hlong, rfl⟩
  · exact ⟨e.attemptStatements_of_fits schema hfits, e.attemptResource_of_fits schema hfits⟩
  · obtain ⟨hfits, rfl⟩ := e.fits_of_attemptResource schema hr
    refine ⟨_, _, e.attemptStatements_of_fits schema hfits, attemptHandlers_eq e schema, ?_,
      e.update_tfae schema⟩
    intro harguments
    rw [e.updateArguments_of_fields schema ((e.updateArguments_ne_nil_iff schema).1 harguments),
      List.length_append, List.length_singleton]

/-- An entity with fields numbered at will and names that no schema would be accepted with, and one
without fields. -/
def unevenEntities : List Entity :=
  [⟨"async def ", [⟨"a", .i64, 7⟩, ⟨"a", .bool, -3⟩]⟩, ⟨"Marker", []⟩]

theorem update_everywhere_or_nowhere_unevenEntities :
    (∀ e ∈ unevenEntities, e.Fits) ∧
    render unevenEntities "public" = .ok (renderService unevenEntities "public") ∧
    (∃ r lines, Entity.attemptResource ⟨"async def ", [⟨"a", .i64, 7⟩, ⟨"a", .bool, -3⟩]⟩ "public"
        = .ok r ∧ attemptHandlers r = .ok lines ∧
      .update ∈ Entity.declaredVerbs ⟨"async def ", [⟨"a", .i64, 7⟩, ⟨"a", .bool, -3⟩]⟩ lines) ∧
    Entity.attemptUpdate ⟨"Marker", []⟩ "public" = .error (.emptyEntity "Marker") := by
  have hsmall : ∀ n : Int, n.natAbs < Nat.pow 10 1 → Number.isWritable n = true := fun n hn =>
    Number.isWritable_of_lt (show 1 ≤ Number.maxDigits by decide) hn
  have hfits : ∀ e ∈ unevenEntities, e.Fits := by
    have hnumbers : ∀ e ∈ unevenEntities, ∀ n ∈ e.numbers, n.natAbs < Nat.pow 10 1 := by
      decide +kernel
    exact fun e he n hn => hsmall n (hnumbers e he n hn)
  obtain ⟨hrendered, -, hupdate⟩ := update_everywhere_or_nowhere unevenEntities "public"
  have hmem : (⟨"async def ", [⟨"a", .i64, 7⟩, ⟨"a", .bool, -3⟩]⟩ : Entity) ∈ unevenEntities := by
    decide
  obtain ⟨-, hmade, -, hall⟩ := hupdate _ hmem
  obtain ⟨-, hresource⟩ := hmade (hfits _ hmem)
  obtain ⟨_, lines, -, hlines, -, htfae⟩ := hall _ hresource
  obtain ⟨-, -, hrefused, -⟩ := hupdate ⟨"Marker", []⟩ (by decide)
  exact ⟨hfits, (hrendered hfits).2,
    ⟨_, lines, hresource, hlines, (htfae.out 0 7).1 (List.cons_ne_nil _ _)⟩, hrefused.2 rfl⟩

/-- An entity with a field whose parameter has one digit too many. -/
def longEntity : Entity := ⟨"Order", [⟨"id", .i64, Number.leastLong - 1⟩]⟩

theorem longEntity_stops :
    longEntity.fields ≠ [] ∧
    render [longEntity] "public" = .error (.longNumber Number.leastLong) ∧
    ¬ ∀ (entities : List Entity) (schema : Text), (∃ text, render entities schema = .ok text) ∧
      ∀ e ∈ entities, e.fields ≠ [] → ∃ statements, e.attemptStatements schema = .ok statements ∧
        .rows .update ∈ statements.map (·.1) := by
  have hparameter : longEntity.fieldParameters = [Number.leastLong] := by
    rw [Entity.fieldParameters, longEntity, List.map_singleton, Field.parameter, Int.sub_add_cancel]
  have hstops : render [longEntity] "public" = .error (.longNumber Number.leastLong) := by
    rw [render_eq, List.flatMap_singleton, Entity.numbers, Entity.statementNumbers, hparameter,
      List.append_assoc, List.append_assoc, List.singleton_append,
      writing_cons_error Number.isWritable_leastLong]
  refine ⟨List.cons_ne_nil _ _, hstops, fun hclaim => ?_⟩
  obtain ⟨⟨text, htext⟩, -⟩ := hclaim [longEntity] "public"
  rw [hstops] at htext
  cases htext

end EntityService
