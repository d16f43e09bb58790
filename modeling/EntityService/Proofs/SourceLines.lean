import EntityService.Proofs.FirstFault
import EntityService.Proofs.LiteralReading
import EntityService.Proofs.NameCharacters
import EntityService.Proofs.RowValues
import EntityService.Proofs.TopLevel

/-!
# The lines of a program

Whatever a schema holds, the text of its program has the lines that `program` lists: none is added,
none is lost and none is split.  How many lines there are depends on how many entities there are and
how many fields each of them has, and on nothing else.

Text from a schema reaches a line in three ways, and none of them lets the end of a line through.
Names are made of characters that names are read through, numbers are made of digits, and everything
else stands in literals, which are made of printable characters.

## What is here

* `Text.OneLine` — a text without an end of a line; `Text.IsName.oneLine`, `Text.oneLine_literal`.
* `forall_mem_program` — what holds of all lines of a program, one shape of lines at a time.
* `Line.IsOne`, `isOne_program` — no line of a program holds the end of one.
* `Line.splitOn_program` — a text splits into the lines that it was made of.
* `linesFor`, `length_program` — the number of lines.
* `newlines_of_fields` — the main statement.
-/

set_option autoImplicit false

namespace EntityService

open EntityService.Json EntityService.Text

namespace Text

/-! ## Texts without an end of a line -/

/-- A text without an end of a line. -/
def OneLine (s : String) : Prop := ∀ c ∈ s.toList, c ∉ lineEnds

theorem oneLine_of {cs : List Char} (h : (cs.all fun c => !lineEnds.contains c) = true) :
    OneLine (String.ofList cs) := by
  intro c hc
  rw [String.toList_ofList] at hc
  simpa using List.all_eq_true.1 h c hc

theorem oneLine_append {s t : String} : OneLine (s ++ t) ↔ OneLine s ∧ OneLine t := by
  simp only [OneLine, String.toList_append, List.forall_mem_append]

theorem oneLine_intercalate {separator : String} (h : OneLine separator) {items : List String}
    (hitems : ∀ item ∈ items, OneLine item) : OneLine (separator.intercalate items) := by
  induction items with
  | nil => exact oneLine_of rfl
  | cons item rest ih =>
    rw [List.forall_mem_cons] at hitems
    cases rest with
    | nil => simpa using hitems.1
    | cons next rest =>
      rw [String.intercalate_cons_cons]
      exact oneLine_append.2 ⟨oneLine_append.2 ⟨hitems.1, h⟩, ih hitems.2⟩

theorem IsName.oneLine {name : String} (h : IsName name) : OneLine name :=
  fun _ hc => h.not_mem (by decide) hc

/-- **Nothing that stands in a literal ends a line.** -/
theorem oneLine_literal (value : Text) : OneLine (literal value) := by
  have hends : ∀ c ∈ lineEnds, isPrintable c = false := by decide
  intro c hc hend
  rw [literal, String.toList_ofList] at hc
  have hprintable := isPrintable_of_mem_literalChars hc
  rw [hends c hend] at hprintable
  cases hprintable

theorem oneLine_toString (n : Int) : OneLine (toString n) := by
  rw [Int.toString_eq_repr, Int.repr_eq_if]
  split
  · exact (isName_repr _).oneLine
  · exact oneLine_append.2 ⟨oneLine_of rfl, (isName_repr _).oneLine⟩

end Text

theorem Scalar.oneLine_annotation (scalar : Scalar) : OneLine scalar.annotation := by
  cases scalar <;> exact oneLine_of rfl

theorem Entity.oneLine_identifierType (e : Entity) : OneLine e.identifierType := by
  rw [identifierType]
  split
  · exact Scalar.oneLine_annotation _
  · exact Scalar.oneLine_annotation _

namespace Source

/-! ## All lines of a program -/

/-- The lines that are the same in all programs. -/
def frame : List String := preamble ++ ["CREATE_TABLE_STATEMENTS = ["] ++ startup ++ ending

/-- A property of lines holds of all lines of a program if it holds of each shape. -/
theorem forall_mem_program {P : Line → Prop} {s : Service}
    (hframe : ∀ text ∈ frame, P (Line.code text)) (hblank : P Line.blank)
    (hmodels : ∀ r ∈ s.resources, ∀ line ∈ modelLines r, P line)
    (hhandlers : ∀ r ∈ s.resources, ∀ v handler statement, r.handler? v = some handler →
      r.statement? (.rows v) = some statement → ∀ line ∈ verbLines r handler statement v, P line)
    (hcreations : ∀ statement ∈ s.creations, P (creationLine statement))
    (hroutes : ∀ route ∈ s.routes, P (routeLine route)) :
    ∀ line ∈ program s, P line := by
  simp only [frame, List.forall_mem_append, List.forall_mem_singleton] at hframe
  obtain ⟨⟨⟨hpreamble, htables⟩, hstartup⟩, hending⟩ := hframe
  have hresources : ∀ r ∈ s.resources, ∀ line ∈ handlersLines r, P line := by
    intro r hr line hline
    obtain ⟨v, -, hline⟩ := List.mem_flatMap.1 hline
    rw [handlerLines] at hline
    split at hline
    · rename_i handler statement hhandler hstatement
      exact hhandlers r hr v handler statement hhandler hstatement line hline
    · exact absurd hline List.not_mem_nil
  rw [← List.forall_mem_flatMap] at hresources hmodels
  simp only [program, assembled, List.forall_mem_append, List.forall_mem_map, List.forall_mem_cons,
    List.not_mem_nil, IsEmpty.forall_iff, implies_true, and_true]
  exact ⟨⟨⟨⟨⟨⟨⟨⟨hpreamble, hmodels⟩, hblank⟩, hresources⟩, hblank, htables⟩, hcreations⟩, hstartup⟩,
    hroutes⟩, hending⟩

/-- The lines of a model have three shapes, and one of them is blank. -/
theorem forall_mem_modelLines {P : Line → Prop} {r : Resource} (hblank : P Line.blank)
    (hclass : P (Line.code ("class " ++ r.entity.name ++ "(BaseModel):")))
    (hconfig : P (Line.code "    model_config = ConfigDict(populate_by_name=True)"))
    (hmembers : ∀ m ∈ r.members, P (memberLine m)) : ∀ line ∈ modelLines r, P line := by
  have hgap : ∀ line ∈ (if r.entity.fields = [] then [] else [Line.blank]), P line := by
    split
    · exact List.forall_mem_nil _
    · exact List.forall_mem_singleton.2 hblank
  simp only [modelLines, List.forall_mem_append, List.forall_mem_cons, List.forall_mem_map]
  exact ⟨⟨⟨hblank, hclass, hconfig, List.forall_mem_nil _⟩, hgap⟩, hmembers⟩

/-! ## Lines without an end of a line -/

/-- A line that ends where it says so. -/
def Line.IsOne (line : Line) : Prop := OneLine line.text

namespace Line

theorem isOne_nil : IsOne [] := oneLine_of rfl

theorem isOne_blank : blank.IsOne := isOne_nil

theorem isOne_cons {part : Part} {line : Line} :
    IsOne (part :: line) ↔ OneLine part.text ∧ line.IsOne := by
  rw [IsOne, text, List.map_cons, String.join_cons, oneLine_append]
  rfl

theorem isOne_code {s : String} : (code s).IsOne ↔ OneLine s := by
  rw [IsOne, text_code]

end Line

open Line

/-- The end of a line is in none of the lines that all programs share. -/
theorem isOne_frame : ∀ text ∈ frame, (code text).IsOne := by
  have hends : frame.flatMap (fun s => s.toList.filter fun c => lineEnds.contains c) = [] := by
    simp only [frame, List.flatMap_append, preamble, startup, ending]
    repeat rw [flatMap_toList_cons fun cs => cs.filter fun c => lineEnds.contains c]
    decide +kernel
  intro text htext
  rw [isOne_code]
  intro c hc hend
  have hnil := List.flatMap_eq_nil_iff.1 hends text htext
  exact List.filter_eq_nil_iff.1 hnil c hc (List.contains_iff_mem.2 hend)

theorem isOne_creationLine (statement : Sql.Statement) : (creationLine statement).IsOne := by
  simp only [creationLine, isOne_cons, isOne_nil, Part.text, oneLine_literal, true_and, and_true]
  and_intros <;> exact oneLine_of rfl

theorem isOne_routeLine {route : Route} (h : IsName route.handler) : (routeLine route).IsOne := by
  simp only [routeLine, isOne_cons, isOne_nil, Part.text, oneLine_append, oneLine_literal,
    h.oneLine, true_and, and_true]
  and_intros <;> exact oneLine_of rfl

theorem isOne_memberLine {m : Member} (h : IsName m.name) : (memberLine m).IsOne := by
  have hdeclared : OneLine ("    " ++ m.name ++ ": " ++ m.scalar.annotation) := by
    simp only [oneLine_append, h.oneLine, m.scalar.oneLine_annotation, and_true]
    exact ⟨oneLine_of rfl, oneLine_of rfl⟩
  rw [memberLine]
  split
  · simp only [isOne_cons, isOne_nil, Part.text, oneLine_literal, true_and, and_true]
    exact ⟨oneLine_append.2 ⟨hdeclared, oneLine_of rfl⟩, oneLine_of rfl⟩
  · exact isOne_code.2 hdeclared

/-! What a resource puts into its lines holds no end of a line, as soon as its names do not.  Then
the fixed text of a line is all that is left to look at. -/

section Resources

variable {r : Resource} (h : r.IsNamed)

theorem oneLine_identifierDeclaration (r : Resource) : OneLine (identifierDeclaration r) := by
  simp only [identifierDeclaration, oneLine_append, r.entity.oneLine_identifierType, and_true]
  exact ⟨oneLine_of rfl, oneLine_of rfl⟩

include h

theorem oneLine_bodyDeclaration : OneLine (bodyDeclaration r) := by
  simp only [bodyDeclaration, oneLine_append, h.entity.oneLine, and_true]
  exact ⟨oneLine_of rfl, oneLine_of rfl⟩

theorem oneLine_rowArgumentsText : OneLine r.rowArgumentsText := by
  refine oneLine_intercalate (oneLine_of rfl) fun item hitem => ?_
  rw [Resource.rowArguments, List.map_map] at hitem
  obtain ⟨m, hm, rfl⟩ := List.mem_map.1 hitem
  simp only [Function.comp_apply, oneLine_append, (h.members m hm).oneLine, oneLine_toString,
    true_and, and_true]
  exact ⟨oneLine_of rfl, oneLine_of rfl⟩

theorem isOne_modelLines : ∀ line ∈ modelLines r, line.IsOne := by
  refine forall_mem_modelLines isOne_blank ?_ ?_ fun m hm => isOne_memberLine (h.members m hm)
  · simp only [isOne_code, oneLine_append, h.entity.oneLine, and_true]
    exact ⟨oneLine_of rfl, oneLine_of rfl⟩
  · exact isOne_code.2 (oneLine_of rfl)

theorem isOne_argumentLines {arguments : List Argument}
    (ha : arguments ⊆ r.bindArguments ++ [.identifier]) :
    ∀ line ∈ argumentLines arguments, line.IsOne := by
  have hargument : ∀ a ∈ r.bindArguments ++ [.identifier], OneLine a.text := by
    intro a ha
    rcases List.mem_append.1 ha with ha | ha
    · obtain ⟨m, hm, rfl⟩ := List.mem_map.1 ha
      simp only [Argument.text, oneLine_append, (h.members m hm).oneLine, and_true]
      exact ⟨oneLine_of rfl, oneLine_of rfl⟩
    · rw [List.mem_singleton.1 ha]
      exact oneLine_of rfl
  refine List.forall_mem_map.2 fun a hmem => ?_
  simp only [isOne_code, oneLine_append, hargument a (ha hmem), and_true]
  exact ⟨oneLine_of rfl, oneLine_of rfl⟩

theorem isOne_missingLines {status : String} (hs : OneLine status) :
    ∀ line ∈ missingLines r status, line.IsOne := by
  simp only [missingLines, List.forall_mem_cons, isOne_code, oneLine_append, hs, h.entity.oneLine,
    List.not_mem_nil, IsEmpty.forall_iff, implies_true, and_true]
  and_intros <;> exact oneLine_of rfl

variable {handler : String} (hh : IsName handler) (statement : Sql.Statement)

include hh

theorem isOne_listLines : ∀ line ∈ listLines r handler statement, line.IsOne := by
  have hrow := oneLine_rowArgumentsText h
  simp only [listLines, List.forall_mem_cons, isOne_blank, isOne_code, isOne_cons, isOne_nil,
    Part.text, oneLine_append, oneLine_literal, hh.oneLine, h.entity.oneLine, hrow,
    List.not_mem_nil, IsEmpty.forall_iff, implies_true, true_and, and_true]
  and_intros <;> exact oneLine_of rfl

theorem isOne_createLines : ∀ line ∈ createLines r handler statement, line.IsOne := by
  have harguments := isOne_argumentLines h (List.subset_append_left r.bindArguments [.identifier])
  have hbody := oneLine_bodyDeclaration h
  simp only [createLines, List.forall_mem_append, List.forall_mem_cons, isOne_blank, isOne_code,
    isOne_cons, isOne_nil, Part.text, oneLine_append, oneLine_literal, hh.oneLine, h.entity.oneLine,
    hbody, List.not_mem_nil, IsEmpty.forall_iff, implies_true, true_and, and_true]
  and_intros <;> first | exact harguments | exact oneLine_of rfl

theorem isOne_updateLines : ∀ line ∈ updateLines r handler statement, line.IsOne := by
  have harguments := isOne_argumentLines h r.updateArguments_subset
  have hmissing := isOne_missingLines h (oneLine_of rfl : OneLine "UPDATE")
  have hbody := oneLine_bodyDeclaration h
  have hidentifier := oneLine_identifierDeclaration r
  simp only [updateLines, List.forall_mem_append, List.forall_mem_cons, isOne_blank, isOne_code,
    isOne_cons, isOne_nil, Part.text, oneLine_append, oneLine_literal, hh.oneLine, h.entity.oneLine,
    hbody, hidentifier, List.not_mem_nil, IsEmpty.forall_iff, implies_true, true_and, and_true]
  and_intros <;> first | exact harguments | exact hmissing | exact oneLine_of rfl

theorem isOne_deleteLines : ∀ line ∈ deleteLines r handler statement, line.IsOne := by
  have hmissing := isOne_missingLines h (oneLine_of rfl : OneLine "DELETE")
  have hidentifier := oneLine_identifierDeclaration r
  simp only [deleteLines, List.forall_mem_append, List.forall_mem_cons, isOne_blank, isOne_code,
    isOne_cons, isOne_nil, Part.text, oneLine_append, oneLine_literal, hh.oneLine, hidentifier,
    List.not_mem_nil, IsEmpty.forall_iff, implies_true, true_and, and_true]
  and_intros <;> first | exact hmissing | exact oneLine_of rfl

theorem isOne_verbLines (v : Verb) : ∀ line ∈ verbLines r handler statement v, line.IsOne := by
  cases v with
  | list => exact isOne_listLines h hh statement
  | create => exact isOne_createLines h hh statement
  | update => exact isOne_updateLines h hh statement
  | delete => exact isOne_deleteLines h hh statement

end Resources

/-- **No line of a program holds the end of one.** -/
theorem isOne_program {s : Service} (h : ∀ r ∈ s.resources, r.IsNamed) :
    ∀ line ∈ program s, line.IsOne := by
  refine forall_mem_program isOne_frame isOne_blank ?_ ?_ ?_ ?_
  · intro r hr
    exact isOne_modelLines (h r hr)
  · intro r hr v handler statement hhandler _
    exact isOne_verbLines (h r hr) ((h r hr).handler hhandler) statement v
  · intro statement _
    exact isOne_creationLine statement
  · intro route hroute
    obtain ⟨r, hr, hroute⟩ := List.mem_flatMap.1 hroute
    obtain ⟨p, hp, rfl⟩ := List.mem_map.1 hroute
    exact isOne_routeLine ((h r hr).handlers p hp)

/-! ## Splitting a text into lines -/

namespace Line

theorem toList_program (lines : List Line) :
    (program lines).toList = lines.flatMap fun line => line.text.toList ++ ['\n'] := by
  rw [program, String.toList_join, List.flatMap_map]
  simp only [String.toList_append]
  rfl

variable {lines : List Line} (h : ∀ line ∈ lines, line.IsOne)

include h

/-- **A text splits into the lines that it was made of.**  Nothing stands after the last one. -/
theorem splitOn_program :
    (program lines).toList.splitOn '\n' = lines.map (·.text.toList) ++ [[]] := by
  have hjoined : (program lines).toList =
      ['\n'].intercalate (lines.map (·.text.toList) ++ [[]]) := by
    rw [toList_program]
    clear h
    induction lines with
    | nil => rfl
    | cons line rest ih =>
      rw [List.flatMap_cons, ih, List.map_cons, List.cons_append,
        List.intercalate_cons_of_ne_nil (by simp)]
  rw [hjoined]
  refine List.splitOn_intercalate _ ?_ (by simp)
  simp only [List.forall_mem_append, List.forall_mem_map, List.forall_mem_singleton]
  exact ⟨fun line hline hend => h line hline '\n' hend (by decide), List.not_mem_nil⟩

theorem count_newline_program : (program lines).toList.count '\n' = lines.length := by
  rw [toList_program]
  induction lines with
  | nil => rfl
  | cons line rest ih =>
    rw [List.forall_mem_cons] at h
    have hnone : line.text.toList.count '\n' = 0 :=
      List.count_eq_zero.2 fun hend => h.1 '\n' hend (by decide)
    rw [List.flatMap_cons, List.count_append, List.count_append, ih h.2, hnone, List.length_cons]
    simp [Nat.add_comm]

theorem return_not_mem_program : '\r' ∉ (program lines).toList := by
  rw [toList_program]
  intro hreturn
  obtain ⟨line, hline, hreturn⟩ := List.mem_flatMap.1 hreturn
  rcases List.mem_append.1 hreturn with hreturn | hreturn
  · exact h line hline '\r' hreturn (by decide)
  · exact absurd hreturn (by decide)

end Line

/-! ## The number of lines -/

/-- The number of lines that an entity takes: its model, its handlers, the statement that makes its
table, and its routes.  Without fields there is no handler that changes a row. -/
def linesFor (fields : Nat) : Nat := if fields = 0 then 26 else 3 * fields + 40

section Length

variable (e : Entity) (schema : Text)

theorem length_bindArguments : (e.resource schema).bindArguments.length = e.fields.length := by
  rw [Resource.bindArguments, List.length_map]
  exact e.length_members

theorem length_argumentLines (arguments : List Argument) :
    (argumentLines arguments).length = arguments.length :=
  List.length_map _

theorem length_modelLines : (modelLines (e.resource schema)).length
    = 3 + (if e.fields = [] then 0 else 1) + e.fields.length := by
  have hgap : (if e.fields = [] then [] else [blank]).length = if e.fields = [] then 0 else 1 := by
    split <;> rfl
  rw [modelLines, List.length_append, List.length_append, List.length_map]
  exact congrArg₂ (· + ·) (congrArg (3 + ·) hgap) e.length_members

/-- How long the handler for a verb is, for an entity with this many fields. -/
def handlerLength (fields : Nat) : Verb → Nat
  | .list => 5
  | .create => fields + 7
  | .update => fields + 12
  | .delete => 7

theorem length_verbLines (handler : String) (statement : Sql.Statement) {v : Verb}
    (hv : v ∈ e.verbs) :
    (verbLines (e.resource schema) handler statement v).length
      = handlerLength e.fields.length v := by
  cases v with
  | list => rfl
  | create =>
    simp [verbLines, createLines, length_argumentLines, length_bindArguments, handlerLength]
  | update =>
    have hupdate : (e.resource schema).hasUpdate = true :=
      (e.statement?_isSome schema .update).2 hv
    simp [verbLines, updateLines, missingLines, length_argumentLines, Resource.updateArguments,
      hupdate, length_bindArguments, handlerLength]
  | delete => rfl

theorem length_handlersLines : (handlersLines (e.resource schema)).length
    = (e.verbs.map (handlerLength e.fields.length)).sum := by
  have hverbs : ∀ p ∈ e.handled schema,
      (verbLines (e.resource schema) (e.handlerName p.1.name) p.2 p.1).length
        = handlerLength e.fields.length p.1 :=
    fun p hp => length_verbLines e schema _ p.2 (e.mem_verbs_of_handled schema hp)
  rw [handlersLines_eq, List.length_flatMap, List.map_congr_left hverbs, ← e.handled_fst schema,
    List.map_map]
  rfl

theorem length_routes : (e.resource schema).routes.length = e.verbs.length := by
  rw [Resource.routes, List.length_map, e.resource_handlers, List.length_map]

/-- An entity takes as many lines as its number of fields says. -/
theorem length_resource :
    (modelLines (e.resource schema)).length + (handlersLines (e.resource schema)).length + 1
      + (e.resource schema).routes.length = linesFor e.fields.length := by
  rw [length_modelLines, length_handlersLines, length_routes, linesFor]
  by_cases hfields : e.fields = []
  · have hverbs : e.verbs = [.list, .create, .delete] := by
      simp [Entity.verbs, hfields, Verb.all]
    simp [hverbs, handlerLength, hfields]
  · have hverbs : e.verbs = Verb.all := by
      simp [Entity.verbs, hfields, Verb.all]
    simp [hverbs, handlerLength, hfields, Verb.all]
    omega

end Length

/-- **How many lines a program has.**  The entities count with their numbers of fields only. -/
theorem length_program (entities : List Entity) (schema : Text) :
    (program (.ofEntities entities schema)).length
      = frame.length + 2 + (entities.map fun e => linesFor e.fields.length).sum := by
  have hresources : ∀ entities : List Entity,
      ((Service.ofEntities entities schema).resources.flatMap modelLines).length
        + ((Service.ofEntities entities schema).resources.flatMap handlersLines).length
        + (Service.ofEntities entities schema).creations.length
        + (Service.ofEntities entities schema).routes.length
      = (entities.map fun e => linesFor e.fields.length).sum := by
    intro entities
    induction entities with
    | nil => rfl
    | cons e rest ih =>
      have hcreation : (Service.ofEntities (e :: rest) schema).creations
          = e.creation schema :: (Service.ofEntities rest schema).creations := rfl
      have hhead := length_resource e schema
      rw [List.map_cons, List.sum_cons, ← ih, ← hhead, hcreation]
      simp only [Service.ofEntities, Service.routes, List.map_cons, List.flatMap_cons,
        List.length_append, List.length_cons]
      omega
  rw [← hresources entities]
  simp only [program, assembled, frame, List.length_append, List.length_map, List.length_cons,
    List.length_nil]
  omega

end Source

open Source

/-- **A schema adds no lines.**  The texts of two programs have the same number of lines if their
documents have as many entities with as many fields each, whatever the names in them and whatever
the database schemas are called, and none of these lines is split. -/
theorem newlines_of_fields {v v' : Value} (hv : v.WellKeyed) (hv' : v'.WellKeyed)
    {entities entities' : List Entity} (h : (Schema.build v).result = .ok entities)
    (h' : (Schema.build v').result = .ok entities')
    (hfields : entities.map (·.fields.length) = entities'.map (·.fields.length))
    (schema schema' : Text) :
    (sourceText (.ofEntities entities schema)).toList.count '\n'
      = (sourceText (.ofEntities entities' schema')).toList.count '\n' ∧
    '\r' ∉ (sourceText (.ofEntities entities schema)).toList ∧
    '\r' ∉ (sourceText (.ofEntities entities' schema')).toList ∧
    (sourceText (.ofEntities entities schema)).toList.splitOn '\n'
      = (program (.ofEntities entities schema)).map (·.text.toList) ++ [[]] ∧
    (sourceText (.ofEntities entities' schema')).toList.splitOn '\n'
      = (program (.ofEntities entities' schema')).map (·.text.toList) ++ [[]] := by
  have hlines : ∀ {v : Value} {entities : List Entity}, v.WellKeyed →
      (Schema.build v).result = .ok entities → ∀ schema,
      ∀ line ∈ program (.ofEntities entities schema), line.IsOne := by
    intro v entities hv h schema
    refine isOne_program fun r hr => ?_
    obtain ⟨e, he, rfl⟩ := List.mem_map.1 hr
    exact Entity.isNamed (Schema.usable_of_build hv h he) schema
  have hcount : (program (.ofEntities entities schema)).length
      = (program (.ofEntities entities' schema')).length := by
    have hsums := congrArg (fun lengths => (lengths.map linesFor).sum) hfields
    simp only [List.map_map] at hsums
    rw [length_program, length_program]
    exact congrArg (frame.length + 2 + ·) hsums
  have hone := hlines hv h schema
  have hone' := hlines hv' h' schema'
  simp only [sourceText, Line.count_newline_program hone, Line.count_newline_program hone']
  exact ⟨hcount, Line.return_not_mem_program hone, Line.return_not_mem_program hone',
    Line.splitOn_program hone, Line.splitOn_program hone'⟩

/-- A document with ordinary names. -/
def plainDocument : Value :=
  .object
    [("User", .object [("properties", .object
        [("id", .object [("type", .string "integer")]), ("name", .object [])])]),
      ("Tag", .object [])]

/-- A document of the same shape with names that would end a line, a literal or a statement. -/
def hostileDocument : Value :=
  .object
    [("\u0130", .object [("properties", .object
        [("a\r\n\"\"\"", .object []),
          ("');\nimport os #\\", .object [("type", .string "number")])])]),
      ("Z", .object [])]

/-- What the documents say. -/
def plainEntities : List Entity :=
  [⟨"User", [⟨"id", .i64, 0⟩, ⟨"name", .string, 1⟩]⟩, ⟨"Tag", []⟩]

def hostileEntities : List Entity :=
  [⟨"\u0130", [⟨"a\r\n\"\"\"", .string, 0⟩, ⟨"');\nimport os #\\", .f64, 1⟩]⟩, ⟨"Z", []⟩]

theorem newlines_hostileDocument :
    plainDocument.WellKeyed ∧ hostileDocument.WellKeyed ∧
    (Schema.build plainDocument).result = .ok plainEntities ∧
    (Schema.build hostileDocument).result = .ok hostileEntities ∧
    (sourceText (.ofEntities plainEntities "public")).toList.count '\n'
      = (sourceText (.ofEntities hostileEntities "x\n');\r\nimport os\n")).toList.count '\n' := by
  have hplain : plainDocument.WellKeyed := by decide
  have hhostile : hostileDocument.WellKeyed := by decide
  have hbuild : (Schema.build plainDocument).result = .ok plainEntities := by rfl
  have hbuild' : (Schema.build hostileDocument).result = .ok hostileEntities := by rfl
  exact ⟨hplain, hhostile, hbuild, hbuild',
    (newlines_of_fields hplain hhostile hbuild hbuild' rfl "public" "x\n');\r\nimport os\n").1⟩

end EntityService
