import EntityService.Proofs.SourceLines

/-!
# The literals of a program

Everything from a schema that is not a name stands in the program as a literal: statements, columns
that are aliases, and paths.  This file lists the literals of a program and shows that each of them
is read back from the text of the program.

A literal that is read from its first mark on could be read wrongly for what stands around it.  A
third mark after two makes them open a longer literal; a mark before it makes the same of it; and a
letter before it changes what its backslashes mean.  In a program there is always a mark of another
kind on either side: `Line.Spaced`.

## What is here

* `Line.literals`, `quotedTexts`, `literals_program` — the literals of a program are these texts, in
  this order.
* `Line.Spaced`, `spaced_program` — the marks around literals.
* `ReadsBack` — a literal at one place of a text is read back.
* `quotedTexts_read_back` — the main statement.
-/

set_option autoImplicit false

namespace EntityService.Source

open EntityService.Text Line

/-! ## Which literals there are -/

/-- The text that a part quotes. -/
def Part.quoted? : Part → Option Text
  | .code _ => none
  | .literal value => some value

/-- The texts that a line quotes. -/
def Line.literals (line : Line) : List Text := line.filterMap Part.quoted?

/-- The texts that a program quotes: the columns that are aliases, the statements that handlers run,
the statements that make tables, and the path and the method of each route. -/
def quotedTexts (entities : List Entity) (schema : Text) : List Text :=
  entities.flatMap (fun e => e.members.filterMap (·.alias?))
  ++ entities.flatMap (fun e => (e.handled schema).map (·.2.text))
  ++ entities.map (fun e => (e.creation schema).text)
  ++ entities.flatMap fun e =>
      e.verbs.flatMap fun v => [(e.routePath v.addressesRow : Text), (v.method : Text)]

theorem literals_map_code (texts : List String) : (texts.map code).flatMap literals = [] := by
  rw [List.flatMap_map]
  exact List.flatMap_eq_nil_iff.2 fun _ _ => rfl

theorem literals_argumentLines (arguments : List Argument) :
    (argumentLines arguments).flatMap literals = [] := by
  rw [argumentLines, List.flatMap_map]
  exact List.flatMap_eq_nil_iff.2 fun _ _ => rfl

theorem literals_memberLine (m : Member) : (memberLine m).literals = m.alias?.toList := by
  rw [memberLine]
  split
  · rename_i column h
    rw [h]
    rfl
  · rename_i h
    rw [h]
    rfl

theorem literals_modelLines (r : Resource) :
    (modelLines r).flatMap literals = r.members.filterMap (·.alias?) := by
  have hgap : (if r.entity.fields = [] then [] else [blank]).flatMap literals = [] := by
    split <;> rfl
  have hmembers : (r.members.map memberLine).flatMap literals = r.members.filterMap (·.alias?) := by
    simp only [List.flatMap_map, literals_memberLine, List.filterMap_eq_flatMap_toList]
  rw [modelLines, List.flatMap_append, List.flatMap_append, hgap, hmembers]
  rfl

/-- A handler quotes the statement that it runs, and nothing else. -/
theorem literals_verbLines (r : Resource) (handler : String) (statement : Sql.Statement)
    (v : Verb) : (verbLines r handler statement v).flatMap literals = [statement.text] := by
  cases v with
  | list => rfl
  | create =>
    rw [verbLines, createLines, List.flatMap_append, List.flatMap_append, literals_argumentLines]
    rfl
  | update =>
    simp only [verbLines, updateLines, List.flatMap_append, literals_argumentLines]
    rfl
  | delete => rfl

theorem literals_handlersLines (e : Entity) (schema : Text) :
    (handlersLines (e.resource schema)).flatMap literals = (e.handled schema).map (·.2.text) := by
  simp only [handlersLines_eq, List.flatMap_assoc, literals_verbLines, List.map_eq_flatMap]

theorem literals_routes (e : Entity) (schema : Text) :
    ((e.resource schema).routes.map routeLine).flatMap literals
      = e.verbs.flatMap fun v => [(e.routePath v.addressesRow : Text), (v.method : Text)] := by
  rw [Resource.routes, e.resource_handlers, List.map_map, List.map_map, List.flatMap_map]
  rfl

theorem creations_ofEntities (entities : List Entity) (schema : Text) :
    (Service.ofEntities entities schema).creations = entities.map (·.creation schema) := by
  rw [Service.ofEntities, Service.creations, List.filterMap_map]
  show entities.filterMap (some ∘ fun e => e.creation schema) = _
  rw [List.filterMap_eq_map]

/-- **The literals of a program** are the texts that it should quote. -/
theorem literals_program (entities : List Entity) (schema : Text) :
    (program (.ofEntities entities schema)).flatMap literals = quotedTexts entities schema := by
  have hmodels : ((Service.ofEntities entities schema).resources.flatMap modelLines).flatMap
      literals = entities.flatMap fun e => e.members.filterMap (·.alias?) := by
    simp only [Service.ofEntities, List.flatMap_map, List.flatMap_assoc, literals_modelLines]
    rfl
  have hhandlers : ((Service.ofEntities entities schema).resources.flatMap handlersLines).flatMap
      literals = entities.flatMap fun e => (e.handled schema).map (·.2.text) := by
    simp only [Service.ofEntities, List.flatMap_map, List.flatMap_assoc, literals_handlersLines]
  have hcreations : ((Service.ofEntities entities schema).creations.map creationLine).flatMap
      literals = entities.map fun e => (e.creation schema).text := by
    rw [creations_ofEntities, List.map_map, List.flatMap_map, List.map_eq_flatMap]
    rfl
  have hroutes : ((Service.ofEntities entities schema).routes.map routeLine).flatMap literals
      = entities.flatMap fun e =>
        e.verbs.flatMap fun v => [(e.routePath v.addressesRow : Text), (v.method : Text)] := by
    simp only [Service.ofEntities, Service.routes, List.flatMap_map, List.map_flatMap,
      List.flatMap_assoc, ← literals_routes _ schema]
  simp only [program, assembled, List.flatMap_append, literals_map_code, hmodels, hhandlers,
    hcreations, hroutes]
  simp [quotedTexts, literals, blank, code, Part.quoted?]

/-! ## The marks around literals -/

/-- The characters that stand before a literal. -/
def openers : List Char := ['(', '=', '[', ' ']

/-- The characters that stand after a literal. -/
def closers : List Char := [')', ']', ',']

/-- A text ends in a character that a literal can stand after. -/
def Opens (text : List Char) : Prop := ∃ c ∈ openers, text.getLast? = some c

/-- A text begins with a character that a literal can stand before. -/
def Closes (text : List Char) : Prop := ∃ c ∈ closers, text.head? = some c

theorem Opens.append_left {text : List Char} (h : Opens text) (before : List Char) :
    Opens (before ++ text) := by
  obtain ⟨c, hc, hlast⟩ := h
  refine ⟨c, hc, ?_⟩
  rw [List.getLast?_append, hlast]
  rfl

theorem Closes.append {text : List Char} (h : Closes text) (after : List Char) :
    Closes (text ++ after) := by
  obtain ⟨c, hc, hhead⟩ := h
  refine ⟨c, hc, ?_⟩
  rw [List.head?_append, hhead]
  rfl

/-- What closes is no quote mark. -/
theorem Closes.head?_ne {text : List Char} (h : Closes text) (value : Text) :
    text.head? ≠ some (quoteMark value) := by
  have hclosers : ∀ c ∈ closers, c ≠ '\'' ∧ c ≠ '"' := by decide
  obtain ⟨c, hc, hhead⟩ := h
  intro hmark
  rw [hhead, Option.some.injEq] at hmark
  rcases quoteMark_eq value with heq | heq
  · exact (hclosers c hc).1 (hmark.trans heq)
  · exact (hclosers c hc).2 (hmark.trans heq)

/-- A line in which every literal stands between code, with the marks around it. -/
inductive Line.Spaced : Line → Prop
  | blank : Spaced Line.blank
  | code (text : String) : Spaced (Line.code text)
  | literal {before after : String} {rest : Line} (value : Text) (hopens : Opens before.toList)
      (hcloses : Closes after.toList) (hrest : Spaced (.code after :: rest)) :
      Spaced (.code before :: .literal value :: .code after :: rest)

theorem toList_text_cons (part : Part) (line : Line) :
    (Line.text (part :: line)).toList = part.text.toList ++ line.text.toList := by
  rw [Line.text, List.map_cons, String.join_cons, String.toList_append]
  rfl

/-- Wherever such a line is cut at a literal, it opens on one side and closes on the other. -/
theorem Line.Spaced.split {line : Line} (h : line.Spaced) {left right : Line} {value : Text}
    (hline : line = left ++ .literal value :: right) :
    Opens left.text.toList ∧ Closes right.text.toList := by
  induction h generalizing left with
  | blank => simp [Line.blank] at hline
  | code text =>
    cases left <;> simp [Line.code] at hline
  | @literal before after rest value' hopens hcloses hrest ih =>
    cases left with
    | nil => simp at hline
    | cons first left =>
      simp only [List.cons_append, List.cons.injEq] at hline
      obtain ⟨rfl, hline⟩ := hline
      cases left with
      | nil =>
        simp only [List.nil_append, List.cons.injEq, Part.literal.injEq] at hline
        obtain ⟨rfl, rfl⟩ := hline
        constructor
        · simpa [toList_text_cons, Line.text, Part.text] using hopens
        · rw [toList_text_cons]
          exact hcloses.append _
      | cons second left =>
        simp only [List.cons_append, List.cons.injEq] at hline
        obtain ⟨rfl, hline⟩ := hline
        obtain ⟨hleft, hright⟩ := ih hline
        rw [toList_text_cons, toList_text_cons]
        exact ⟨(hleft.append_left _).append_left _, hright⟩

/-! Every line of a program is of this kind. -/

theorem spaced_memberLine (m : Member) : (memberLine m).Spaced := by
  rw [memberLine]
  split
  · rename_i column _
    refine .literal column ?_ ⟨')', by decide, rfl⟩ (.code _)
    rw [String.toList_append]
    exact Opens.append_left ⟨'=', by decide, rfl⟩ _
  · exact .code _

theorem spaced_creationLine (statement : Sql.Statement) : (creationLine statement).Spaced :=
  .literal _ ⟨' ', by decide, rfl⟩ ⟨',', by decide, rfl⟩ (.code _)

theorem spaced_routeLine (route : Route) : (routeLine route).Spaced := by
  refine .literal _ ⟨'(', by decide, rfl⟩ ?_ (.literal _ ?_ ⟨']', by decide, rfl⟩ (.code _))
  · rw [String.toList_append, String.toList_append, List.append_assoc]
    exact ⟨',', by decide, rfl⟩
  · rw [String.toList_append]
    exact Opens.append_left ⟨'[', by decide, rfl⟩ _

theorem spaced_modelLines (r : Resource) : ∀ line ∈ modelLines r, line.Spaced :=
  forall_mem_modelLines .blank (.code _) (.code _) fun m _ => spaced_memberLine m

theorem spaced_verbLines (r : Resource) (handler : String) (statement : Sql.Statement) (v : Verb) :
    ∀ line ∈ verbLines r handler statement v, line.Spaced := by
  have harguments : ∀ arguments, ∀ line ∈ argumentLines arguments, line.Spaced :=
    fun arguments => List.forall_mem_map.2 fun _ _ => .code _
  have hmissing : ∀ status, ∀ line ∈ missingLines r status, line.Spaced := by
    intro status
    simp only [missingLines, List.forall_mem_cons]
    exact ⟨.code _, .code _, List.forall_mem_nil _⟩
  have hstatement : Spaced [.code "        ", .literal statement.text, .code ","] :=
    .literal _ ⟨' ', by decide, rfl⟩ ⟨',', by decide, rfl⟩ (.code _)
  cases v with
  | list =>
    simp only [verbLines, listLines, List.forall_mem_cons]
    exact ⟨.blank, .code _, .literal _ ⟨'(', by decide, rfl⟩ ⟨')', by decide, rfl⟩ (.code _),
      .code _, .blank, List.forall_mem_nil _⟩
  | create =>
    simp only [verbLines, createLines, List.forall_mem_append, List.forall_mem_cons]
    exact ⟨⟨⟨.blank, .code _, .code _, hstatement, List.forall_mem_nil _⟩, harguments _⟩, .code _,
      .code _, .blank, List.forall_mem_nil _⟩
  | update =>
    simp only [verbLines, updateLines, List.forall_mem_append, List.forall_mem_cons]
    exact ⟨⟨⟨⟨⟨.blank, .code _, .code _, .code _, .code _, hstatement, List.forall_mem_nil _⟩,
      harguments _⟩, .code _, List.forall_mem_nil _⟩, hmissing _⟩, .code _, .blank,
      List.forall_mem_nil _⟩
  | delete =>
    simp only [verbLines, deleteLines, List.forall_mem_append, List.forall_mem_cons]
    exact ⟨⟨⟨.blank, .code _, .literal _ ⟨'(', by decide, rfl⟩ ⟨',', by decide, rfl⟩ (.code _),
      List.forall_mem_nil _⟩, hmissing _⟩, .code _, .blank, List.forall_mem_nil _⟩

/-- **The marks around the literals of a program.** -/
theorem spaced_program (s : Service) : ∀ line ∈ program s, line.Spaced := by
  refine forall_mem_program (fun text _ => .code text) .blank ?_ ?_ ?_ ?_
  · exact fun r _ => spaced_modelLines r
  · exact fun r _ v handler statement _ _ => spaced_verbLines r handler statement v
  · exact fun statement _ => spaced_creationLine statement
  · exact fun route _ => spaced_routeLine route

/-! ## Reading literals back -/

/-- A text holds the literal of a value between what stands before and after it.  Reading that
starts at the first mark of the literal stops right after its last one and gives the value, and
nothing next to it could be taken for a part of it. -/
structure ReadsBack (named : String → Option Char) (source : List Char) (value : Text)
    (before after : List Char) : Prop where
  source_eq : source = before ++ (literal value).toList ++ after
  read : readLiteral named ((literal value).toList ++ after) = some (value, after)
  opens : Opens before
  closes : Closes after

theorem readsBack (named : String → Option Char) (value : Text) {before after : List Char}
    (hopens : Opens before) (hcloses : Closes after) :
    ReadsBack named (before ++ (literal value).toList ++ after) value before after := by
  refine ⟨rfl, ?_, hopens, hcloses⟩
  rw [literal, String.toList_ofList]
  exact readLiteral_literalChars named value (hcloses.head?_ne value)

theorem toList_program_append (above below : List Line) :
    (Line.program (above ++ below)).toList
      = (Line.program above).toList ++ (Line.program below).toList := by
  rw [toList_program, toList_program, toList_program, List.flatMap_append]

theorem toList_text_append (left right : Line) :
    (Line.text (left ++ right)).toList = (Line.text left).toList ++ (Line.text right).toList := by
  rw [Line.text, Line.text, Line.text, List.map_append, ← String.toList_append, String.join_append]

/-- A program is cut at one of its literals. -/
theorem readsBack_program (named : String → Option Char) {s : Service} {above below : List Line}
    {left right : Line} {value : Text}
    (h : program s = above ++ (left ++ .literal value :: right) :: below) :
    ReadsBack named (sourceText s).toList value
      ((Line.program above).toList ++ left.text.toList)
      (right.text.toList ++ '\n' :: (Line.program below).toList) := by
  have hspaced : Spaced (left ++ .literal value :: right) := by
    refine spaced_program s _ ?_
    rw [h]
    exact List.mem_append_right _ List.mem_cons_self
  obtain ⟨hopens, hcloses⟩ := hspaced.split rfl
  have hsource : (sourceText s).toList
      = ((Line.program above).toList ++ left.text.toList) ++ (literal value).toList
        ++ (right.text.toList ++ '\n' :: (Line.program below).toList) := by
    rw [sourceText, h, toList_program_append, toList_program (_ :: below), List.flatMap_cons,
      ← toList_program, toList_text_append, toList_text_cons]
    simp only [List.append_assoc, List.singleton_append]
    rfl
  rw [hsource]
  exact readsBack named value (hopens.append_left _) (hcloses.append _)

theorem exists_split {lines : List Line} {value : Text} (h : value ∈ lines.flatMap literals) :
    ∃ above left right below, lines = above ++ (left ++ .literal value :: right) :: below := by
  obtain ⟨line, hline, hvalue⟩ := List.mem_flatMap.1 h
  obtain ⟨part, hpart, hquoted⟩ := List.mem_filterMap.1 hvalue
  obtain ⟨above, below, rfl⟩ := List.append_of_mem hline
  obtain ⟨left, right, rfl⟩ := List.append_of_mem hpart
  cases part with
  | code text => cases hquoted
  | literal value' =>
    cases hquoted
    exact ⟨above, left, right, below, rfl⟩

/-- **The literals of a program are read back.**  They are the texts that the program should quote,
each of these texts stands somewhere in the program, and wherever a literal stands it is read back
from the text of the program, whatever names characters have. -/
theorem quotedTexts_read_back (named : String → Option Char) (entities : List Entity)
    (schema : Text) :
    (program (.ofEntities entities schema)).flatMap literals = quotedTexts entities schema ∧
    (∀ value ∈ quotedTexts entities schema, ∃ before after,
      ReadsBack named (sourceText (.ofEntities entities schema)).toList value before after) ∧
    ∀ (above below : List Line) (left right : Line) (value : Text),
      program (.ofEntities entities schema) = above ++ (left ++ .literal value :: right) :: below →
      ReadsBack named (sourceText (.ofEntities entities schema)).toList value
        ((Line.program above).toList ++ left.text.toList)
        (right.text.toList ++ '\n' :: (Line.program below).toList) := by
  refine ⟨literals_program entities schema, ?_, ?_⟩
  · intro value hvalue
    rw [← literals_program] at hvalue
    obtain ⟨above, left, right, below, hprogram⟩ := exists_split hvalue
    exact ⟨_, _, readsBack_program named hprogram⟩
  · intro above below left right value hprogram
    exact readsBack_program named hprogram

/-- A column whose name holds both quote marks, a backslash, ends of lines and a character beyond
the first plane. -/
def quotedColumn : String := "\"'\\\n\u0085😀"

def quotedEntities : List Entity := [⟨"Note", [⟨quotedColumn, .string, 0⟩]⟩]

theorem quotedEntities_read_back :
    (quotedColumn : Text) ∈ quotedTexts quotedEntities "\"';\r" ∧
    ∃ before after,
      ReadsBack (fun _ => none) (sourceText (.ofEntities quotedEntities "\"';\r")).toList
        quotedColumn before after := by
  have hmem : (quotedColumn : Text) ∈ quotedTexts quotedEntities "\"';\r" := by
    decide +kernel
  obtain ⟨-, hread, -⟩ := quotedTexts_read_back (fun _ => none) quotedEntities "\"';\r"
  exact ⟨hmem, hread _ hmem⟩

end EntityService.Source
