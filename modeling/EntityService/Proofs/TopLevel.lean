import EntityService.Proofs.Resources
import EntityService.Source.Program
import Mathlib.Data.List.Perm.Basic

/-!
# What a program binds

The generated program is text.  This file reads off its lines which names it binds at the top
level, and shows that they are the names of the frame, a class for each entity and a function for
each handler.  Nothing else that a schema puts into the program stands at the beginning of a line.

## What is here

* `lineBindings` — the names that a line binds, by one of the statements that programs are made of:
  an import, a class, a function or an assignment.  An indented line binds none.
* `lineBindings_frame` — `Names.moduleNames` lists what the frame binds.
* `Resource.boundNames` — the class and the handlers of a resource.
* `bindings_modelLines`, `bindings_verbLines`, `bindings_handlersLines` — what the lines of a
  resource bind, with `handlersLines_eq`.
* `bindings_program` — what a program binds, up to order.

A name that is read ends at a blank or a mark, so names with these are left out: `Entity.HasWords`.
-/

set_option autoImplicit false

namespace EntityService

namespace Source

/-! ## Reading a line -/

/-- The characters that end a name in a line. -/
def nameEnds : List Char := [' ', '(', ')', ':', ',']

/-- A text can be read as one name. -/
def IsWord (name : String) : Prop := ∀ c ∈ name.toList, c ∉ nameEnds

instance (name : String) : Decidable (IsWord name) :=
  decidable_of_iff (name.toList.all (fun c => decide (c ∉ nameEnds)) = true) (by
    simp only [List.all_eq_true, decide_eq_true_eq, IsWord])

/-- The name that some text starts with. -/
def nameAhead (cs : List Char) : String := String.ofList (cs.takeWhile fun c => c ∉ nameEnds)

/-- What follows the name that some text starts with. -/
def afterName (cs : List Char) : List Char := cs.dropWhile fun c => c ∉ nameEnds

/-- The words that stand before a name that is bound. -/
def binders : List String := ["import ", "class ", "def ", "async def "]

/-- What is imported, of a line that starts with the place it is imported from. -/
def afterImport : List Char → List Char
  | [] => []
  | c :: cs => (" import ".toList.isPrefixOf? (c :: cs)).getD (afterImport cs)

/-- The names that such a line imports. -/
def importedNames (cs : List Char) : List String :=
  ((afterImport cs).splitOn ',').map fun word => String.ofList (word.dropWhile (· = ' '))

/-- The names that a line binds: by an import, a class, a function or an assignment. -/
def lineBindings (line : List Char) : List String :=
  match binders.findSome? (·.toList.isPrefixOf? line) with
  | some rest => [nameAhead rest]
  | none =>
    match "from ".toList.isPrefixOf? line with
    | some rest => importedNames rest
    | none => if " = ".toList.isPrefixOf (afterName line) then [nameAhead line] else []

/-- The names that a line of a program binds at the top level. -/
def Line.bindings (line : Line) : List String := lineBindings line.text.toList

theorem flatMap_toList_cons {α : Type} (f : List Char → List α) (cs : List Char)
    (rest : List String) :
    (String.ofList cs :: rest).flatMap (fun s => f s.toList)
      = f cs ++ rest.flatMap fun s => f s.toList := by
  rw [List.flatMap_cons, String.toList_ofList]

/-- **What the frame binds.** -/
theorem lineBindings_frame :
    (preamble ++ ["CREATE_TABLE_STATEMENTS = ["] ++ startup ++ ending).flatMap
      (lineBindings ·.toList) = Names.moduleNames := by
  simp only [List.flatMap_append, preamble, startup, ending]
  -- Decoding the lines is what takes long, so it is done here and not left to the evaluation.
  repeat rw [flatMap_toList_cons lineBindings]
  decide +kernel

theorem text_cons (s : String) (parts : List Part) :
    Line.text (.code s :: parts) = s ++ Line.text parts := by
  rw [Line.text, List.map_cons, String.join_cons, Part.text, Line.text]

theorem text_code (s : String) : (Line.code s).text = s := by
  rw [Line.code, text_cons, Line.text, List.map_nil, String.join_nil, String.append_empty]

theorem bindings_map_code (lines : List String) :
    (lines.map Line.code).flatMap Line.bindings = lines.flatMap (lineBindings ·.toList) := by
  simp only [List.flatMap_map, Line.bindings, text_code]

/-! ## Lines that bind nothing -/

/-- Lines inside a definition start with blanks. -/
def Indented (s : String) : Prop := "  ".toList <+: s.toList

instance (s : String) : Decidable (Indented s) :=
  inferInstanceAs (Decidable ("  ".toList <+: s.toList))

theorem Indented.append {s : String} (h : Indented s) (t : String) : Indented (s ++ t) := by
  rw [Indented, String.toList_append]
  exact h.trans (List.prefix_append _ _)

theorem bindings_indented {s : String} (h : Indented s) (parts : List Part) :
    Line.bindings (.code s :: parts) = [] := by
  obtain ⟨rest, hrest⟩ := h.append (Line.text parts)
  rw [Line.bindings, text_cons, ← hrest]
  rfl

theorem bindings_code {s : String} (h : Indented s) : (Line.code s).bindings = [] :=
  bindings_indented h []

theorem bindings_blank : Line.blank.bindings = [] := rfl

theorem flatMap_bindings_map {α : Type} {line : α → Line} (h : ∀ a, (line a).bindings = [])
    (items : List α) : (items.map line).flatMap Line.bindings = [] := by
  refine List.flatMap_eq_nil_iff.2 fun _ hline => ?_
  obtain ⟨a, -, rfl⟩ := List.mem_map.1 hline
  exact h a

theorem bindings_memberLine (m : Member) : (memberLine m).bindings = [] := by
  have h : Indented ("    " ++ m.name ++ ": " ++ m.scalar.annotation) :=
    (((by decide : Indented "    ").append _).append _).append _
  rw [memberLine]
  split
  · exact bindings_indented (h.append _) _
  · exact bindings_code h

theorem bindings_argumentLines (arguments : List Argument) :
    (argumentLines arguments).flatMap Line.bindings = [] := by
  refine flatMap_bindings_map (fun a => ?_) arguments
  have h : Indented ("        " ++ a.text ++ ",") :=
    ((by decide : Indented "        ").append _).append _
  exact bindings_code h

theorem bindings_missingLines (r : Resource) (status : String) :
    (missingLines r status).flatMap Line.bindings = [] := by
  have hif : Indented ("    if status == \"" ++ status ++ " 0\":") :=
    ((by decide : Indented "    if status == \"").append _).append _
  have hraise : Indented ("        raise AppError(f\"" ++ r.entity.name ++ " \x7b"
      ++ identifierName ++ "\x7d not found\", status_code=404)") :=
    ((((by decide : Indented "        raise AppError(f\"").append _).append _).append _).append _
  rw [missingLines, List.flatMap_cons, List.flatMap_cons, List.flatMap_nil, bindings_code hif,
    bindings_code hraise]
  rfl

theorem bindings_creationLine (statement : Sql.Statement) :
    (creationLine statement).bindings = [] :=
  bindings_indented (by decide) _

theorem bindings_routeLine (route : Route) : (routeLine route).bindings = [] :=
  bindings_indented (by decide) _

/-! ## Lines that bind a name -/

theorem nameAhead_append {name : String} (h : IsWord name) (rest : List Char) :
    nameAhead (name.toList ++ '(' :: rest) = name := by
  rw [nameAhead, List.takeWhile_append_of_pos fun c hc => decide_eq_true (h c hc),
    List.takeWhile_cons_of_neg (by decide), List.append_nil, String.ofList_toList]

theorem lineBindings_class {name : String} (h : IsWord name) (rest : List Char) :
    lineBindings ("class ".toList ++ (name.toList ++ '(' :: rest)) = [name] :=
  congrArg (fun name => [name]) (nameAhead_append h rest)

theorem lineBindings_function {name : String} (h : IsWord name) (rest : List Char) :
    lineBindings ("async def ".toList ++ (name.toList ++ '(' :: rest)) = [name] :=
  congrArg (fun name => [name]) (nameAhead_append h rest)

/-! ## Resources -/

variable (r : Resource)

theorem bindings_modelLines (h : IsWord r.entity.name) :
    (modelLines r).flatMap Line.bindings = [r.entity.name] := by
  have hclass : (Line.code ("class " ++ r.entity.name ++ "(BaseModel):")).bindings
      = [r.entity.name] := by
    rw [Line.bindings, text_code]
    simp only [String.toList_append, List.append_assoc]
    exact lineBindings_class h _
  have hsettings : (Line.code "    model_config = ConfigDict(populate_by_name=True)").bindings = [] :=
    bindings_code (by decide)
  have hgap : (if r.entity.fields = [] then [] else [Line.blank]).flatMap Line.bindings = [] := by
    split <;> rfl
  have hmembers : (r.members.map memberLine).flatMap Line.bindings = [] :=
    flatMap_bindings_map bindings_memberLine r.members
  rw [modelLines, List.flatMap_append, List.flatMap_append, hgap, hmembers]
  simp only [List.flatMap_cons, List.flatMap_nil, bindings_blank, hclass, hsettings]
  rfl

theorem bindings_listLines {handler : String} (h : IsWord handler) (statement : Sql.Statement) :
    (listLines r handler statement).flatMap Line.bindings = [handler] := by
  have hdef : (Line.code ("async def " ++ handler ++ "(request: Request) -> list["
      ++ r.entity.name ++ "]:")).bindings = [handler] := by
    rw [Line.bindings, text_code]
    simp only [String.toList_append, List.append_assoc]
    exact lineBindings_function h _
  have hreturn : Indented ("    return [" ++ r.entity.name ++ "(" ++ r.rowArgumentsText
      ++ ") for row in rows]") :=
    ((((by decide : Indented "    return [").append _).append _).append _).append _
  simp only [listLines, List.flatMap_cons, List.flatMap_nil, bindings_blank, hdef]
  rw [bindings_indented (by decide), bindings_code hreturn]
  rfl

theorem bindings_createLines {handler : String} (h : IsWord handler) (statement : Sql.Statement) :
    (createLines r handler statement).flatMap Line.bindings = [handler] := by
  have hdef : (Line.code ("async def " ++ handler ++ "(" ++ bodyDeclaration r
      ++ ", request: Request) -> " ++ r.entity.name ++ ":")).bindings = [handler] := by
    rw [Line.bindings, text_code]
    simp only [String.toList_append, List.append_assoc]
    exact lineBindings_function h _
  have hreturn : Indented ("    return " ++ bodyName) := by decide
  rw [createLines, List.flatMap_append, List.flatMap_append, bindings_argumentLines]
  simp only [List.flatMap_cons, List.flatMap_nil, bindings_blank, hdef, bindings_code hreturn]
  rw [bindings_indented (by decide), bindings_code (by decide), bindings_code (by decide)]
  rfl

theorem bindings_updateLines {handler : String} (h : IsWord handler) (statement : Sql.Statement) :
    (updateLines r handler statement).flatMap Line.bindings = [handler] := by
  have hdef : (Line.code ("async def " ++ handler ++ "(")).bindings = [handler] := by
    rw [Line.bindings, text_code]
    simp only [String.toList_append, List.append_assoc]
    exact lineBindings_function h _
  have hparameters : Indented ("    " ++ identifierDeclaration r ++ ", " ++ bodyDeclaration r
      ++ ", request: Request") :=
    ((((by decide : Indented "    ").append _).append _).append _).append _
  -- The line that closes the parameters is not indented, but a mark comes before any name in it.
  have hclose : (Line.code (") -> " ++ r.entity.name ++ ":")).bindings = [] := by
    rw [Line.bindings, text_code]
    simp only [String.toList_append, List.append_assoc]
    rfl
  have hreturn : Indented ("    return " ++ bodyName) := by decide
  simp only [updateLines, List.flatMap_append, bindings_argumentLines, bindings_missingLines]
  simp only [List.flatMap_cons, List.flatMap_nil, bindings_blank, hdef, bindings_code hparameters,
    hclose, bindings_code hreturn]
  rw [bindings_indented (by decide), bindings_code (by decide), bindings_code (by decide)]
  rfl

theorem bindings_deleteLines {handler : String} (h : IsWord handler) (statement : Sql.Statement) :
    (deleteLines r handler statement).flatMap Line.bindings = [handler] := by
  have hdef : (Line.code ("async def " ++ handler ++ "(" ++ identifierDeclaration r
      ++ ", request: Request) -> dict:")).bindings = [handler] := by
    rw [Line.bindings, text_code]
    simp only [String.toList_append, List.append_assoc]
    exact lineBindings_function h _
  have hreturn : Indented ("    return \x7b\"deleted\": " ++ identifierName ++ "\x7d") := by decide
  rw [deleteLines, List.flatMap_append, List.flatMap_append, bindings_missingLines]
  simp only [List.flatMap_cons, List.flatMap_nil, bindings_blank, hdef, bindings_code hreturn]
  rw [bindings_indented (by decide)]
  rfl

theorem bindings_verbLines {handler : String} (h : IsWord handler) (statement : Sql.Statement)
    (verb : Verb) : (verbLines r handler statement verb).flatMap Line.bindings = [handler] := by
  cases verb with
  | list => exact bindings_listLines r h statement
  | create => exact bindings_createLines r h statement
  | update => exact bindings_updateLines r h statement
  | delete => exact bindings_deleteLines r h statement

end Source

/-- The names that a resource puts at the top level: its class and its handlers. -/
def Resource.boundNames (r : Resource) : List String := r.entity.name :: r.handlers.map (·.2)

/-- What an entity gives its name to can be read as a name. -/
structure Entity.HasWords (e : Entity) : Prop where
  name : Source.IsWord e.name
  handler : ∀ v : Verb, Source.IsWord (e.handlerName v.name)

namespace Source

variable {e : Entity} (schema : Text)

/-- The handlers of an entity, verb by verb. -/
theorem handlersLines_eq (e : Entity) (schema : Text) :
    handlersLines (e.resource schema) = (e.handled schema).flatMap fun p =>
      verbLines (e.resource schema) (e.handlerName p.1.name) p.2 p.1 := by
  have hupdate := e.statement?_update schema
  by_cases h : e.fields = []
  · rw [e.update_eq_error schema h] at hupdate
    simp [handlersLines, handlerLines, Entity.handled, e.handler?_eq, Entity.verbs, Verb.all, h,
      hupdate, e.update_eq_error schema h, Except.toOption]
  · rw [e.update_eq_ok schema h] at hupdate
    simp [handlersLines, handlerLines, Entity.handled, e.handler?_eq, Entity.verbs, Verb.all, h,
      hupdate, e.update_eq_ok schema h, Except.toOption]

theorem bindings_handlersLines (h : e.HasWords) :
    (handlersLines (e.resource schema)).flatMap Line.bindings
      = (e.resource schema).handlers.map (·.2) := by
  have hverbs : ∀ p ∈ e.handled schema,
      (verbLines (e.resource schema) (e.handlerName p.1.name) p.2 p.1).flatMap Line.bindings
        = [e.handlerName p.1.name] :=
    fun p _ => bindings_verbLines _ (h.handler p.1) p.2 p.1
  rw [handlersLines_eq, List.flatMap_assoc, List.flatMap_congr hverbs, e.resource_handlers,
    ← e.handled_fst schema, List.map_map, List.map_map, List.map_eq_flatMap]
  rfl

/-- What the lines of all resources bind. -/
theorem bindings_resources {entities : List Entity} {lines : Resource → List Line}
    {names : Resource → List String}
    (h : ∀ e ∈ entities, (lines (e.resource schema)).flatMap Line.bindings
      = names (e.resource schema)) :
    ((Service.ofEntities entities schema).resources.flatMap lines).flatMap Line.bindings
      = (Service.ofEntities entities schema).resources.flatMap names := by
  rw [List.flatMap_assoc, Service.ofEntities, List.flatMap_map, List.flatMap_map]
  exact List.flatMap_congr h

theorem perm_move (a b c d f : List String) :
    (a ++ (b ++ (c ++ (d ++ f)))).Perm (c ++ (d ++ (f ++ (a ++ b)))) := by
  calc a ++ (b ++ (c ++ (d ++ f))) = (a ++ b) ++ (c ++ (d ++ f)) := by rw [List.append_assoc]
    List.Perm _ ((c ++ (d ++ f)) ++ (a ++ b)) := List.perm_append_comm
    _ = c ++ (d ++ (f ++ (a ++ b))) := by rw [List.append_assoc, List.append_assoc]

/-- **What a program binds.**  These are the names of the frame and those of the resources. -/
theorem bindings_program {entities : List Entity} (h : ∀ e ∈ entities, e.HasWords) :
    ((program (Service.ofEntities entities schema)).flatMap Line.bindings).Perm
      (Names.moduleNames
        ++ (Service.ofEntities entities schema).resources.flatMap Resource.boundNames) := by
  have hmodels : ((Service.ofEntities entities schema).resources.flatMap modelLines).flatMap
      Line.bindings = (Service.ofEntities entities schema).resources.flatMap
        fun r => [r.entity.name] :=
    bindings_resources schema fun e he => bindings_modelLines _ (h e he).name
  have hhandlers : ((Service.ofEntities entities schema).resources.flatMap handlersLines).flatMap
      Line.bindings = (Service.ofEntities entities schema).resources.flatMap
        fun r => r.handlers.map (·.2) :=
    bindings_resources schema fun e he => bindings_handlersLines schema (h e he)
  have hcreations := flatMap_bindings_map bindings_creationLine
    (Service.ofEntities entities schema).creations
  have hroutes := flatMap_bindings_map bindings_routeLine
    (Service.ofEntities entities schema).routes
  have hframe := lineBindings_frame
  simp only [List.flatMap_append, ← bindings_map_code] at hframe
  have hresources := List.flatMap_append_perm (Service.ofEntities entities schema).resources
    (fun r => [r.entity.name]) (fun r => r.handlers.map (·.2))
  simp only [program, assembled, List.flatMap_append, hmodels, hhandlers, hcreations, hroutes]
  rw [← hframe]
  refine List.Perm.trans ?_ (hresources.append_left _)
  have hblank : [Line.blank].flatMap Line.bindings = [] := rfl
  have htable : [Line.blank, Line.code "CREATE_TABLE_STATEMENTS = ["].flatMap Line.bindings
      = (["CREATE_TABLE_STATEMENTS = ["].map Line.code).flatMap Line.bindings := rfl
  rw [hblank, htable]
  simp only [List.append_nil, List.append_assoc]
  -- The classes and the handlers stand in two places within the frame; they move to its end.
  exact (perm_move _ _ _ _ _).append_left _

end Source

end EntityService
