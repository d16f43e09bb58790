import EntityService.Artifacts
import EntityService.Proofs.EmbeddedLiterals
import EntityService.Proofs.Tokens

/-!
# A program tells its entities

Two documents with one program describe the same entities.  Nothing in the program is a copy of the
model, so the entities are put together from several places.

* **Names** stand in the lines that open the classes.
* **Columns** are the names of the attributes, or stand in literals beside them.
* **Scalars** are not told by the types of the attributes, which several of them share.  They are
  told by the types of the columns, in the statements that make the tables.  There the names of the
  columns are not quoted, so nothing marks where a name ends; but the names are known by then, and
  no type of a column is the beginning of another one.

The text is read from the front.  Lines of attributes are indented, and the line after the blank one
that follows them is not, so it is known where a class ends: `StartsSection`.

## What is here

* `Scalar.columnType_inj`, `Text.literal_inj`, `Text.append_inj_of_stop` — what can be told from the
  texts that lines are made of.
* `column_of_memberLine`, `columns_of_memberLines`, `class_of_classTexts`,
  `classes_of_classTexts` — names and columns.
* `length_handlers` — how far it is to the statements that make the tables.
* `Entity.scalars_of_creation` — scalars.
* `Source.entities_of_texts` — all of them, from the lines of a program.
* `sourceText_inj` — the main statement.
-/

set_option autoImplicit false

namespace EntityService

open EntityService.Json EntityService.Text

/-! ## What texts tell -/

/-- No type of a column is the beginning of another one. -/
theorem Scalar.eq_of_columnType_prefix {s s' : Scalar}
    (h : (s.columnType : Text) <+: (s'.columnType : Text)) : s = s' := by
  revert h
  cases s <;> cases s' <;> decide

/-- **A type of a column is known from any text that begins with it.** -/
theorem Scalar.columnType_inj {s s' : Scalar} {rest rest' : Text}
    (h : (s.columnType : Text) ++ rest = (s'.columnType : Text) ++ rest') : s = s' := by
  have hrest : (s'.columnType : Text) <+: (s.columnType : Text) ++ rest := ⟨rest', h.symm⟩
  rcases List.prefix_or_prefix_of_prefix (List.prefix_append _ rest) hrest with hle | hle
  · exact Scalar.eq_of_columnType_prefix hle
  · exact (Scalar.eq_of_columnType_prefix hle).symm

/-- **A text is known from its literal.** -/
theorem Text.literal_inj {value value' : Text} (h : literal value = literal value') :
    value = value' := by
  have hchars : literalChars value = literalChars value' := by
    rw [literal, literal, String.ofList_inj] at h
    exact h
  have hread : ∀ value : Text,
      readLiteral (fun _ => none) (literalChars value ++ []) = some (value, []) :=
    fun value => readLiteral_literalChars _ value (by simp)
  have hvalue := hread value
  rw [hchars, hread value'] at hvalue
  exact (Prod.mk.inj (Option.some.inj hvalue)).1.symm

/-- Where two texts stop at the same kind of character, they are known from what they begin. -/
theorem Text.append_inj_of_stop {p : Char → Bool} {s t rest rest' : String}
    (hs : ∀ c ∈ s.toList, p c = true) (ht : ∀ c ∈ t.toList, p c = true)
    (hrest : ∀ c ∈ rest.toList.head?, p c = false) (hrest' : ∀ c ∈ rest'.toList.head?, p c = false)
    (h : s ++ rest = t ++ rest') : s = t ∧ rest = rest' := by
  have hstop : ∀ {cs : List Char}, (∀ c ∈ cs.head?, p c = false) → cs.takeWhile p = [] := by
    intro cs hcs
    cases cs with
    | nil => rfl
    | cons c cs => exact List.takeWhile_cons_of_neg (by simp [hcs c rfl])
  have htake := congrArg (fun s => s.toList.takeWhile p) h
  simp only [String.toList_append] at htake
  rw [List.takeWhile_append_of_pos hs, List.takeWhile_append_of_pos ht, hstop hrest,
    hstop hrest', List.append_nil, List.append_nil] at htake
  obtain rfl := String.toList_inj.1 htake
  exact ⟨rfl, (String.append_right_inj s).1 h⟩

namespace Source

open Line

/-! ## Attributes -/

/-- What the line of an attribute says about its column. -/
def aliasSuffix (m : Member) : String :=
  match m.alias? with
  | some column => " = Field(alias=" ++ literal column ++ ")"
  | none => ""

theorem text_memberLine (m : Member) : (memberLine m).text
    = "    " ++ (m.name ++ (": " ++ (m.scalar.annotation ++ aliasSuffix m))) := by
  rw [memberLine, aliasSuffix]
  cases m.alias? with
  | some column =>
    simp [Line.text, Part.text, String.append_assoc]
  | none =>
    simp [text_code, String.append_assoc]

/-- The column of an attribute is known from its name and from what is said about its column. -/
theorem column_of_aliasSuffix {m m' : Member} (hname : m.name = m'.name)
    (h : aliasSuffix m = aliasSuffix m') : m.column = m'.column := by
  have hhead : ∀ column : Text, (" = Field(alias=" ++ literal column ++ ")") ≠ "" := by
    intro column heq
    have hlist := congrArg String.toList heq
    simp at hlist
  have hcolumn : ∀ m : Member, m.column = m.alias?.getD m.name := by
    intro m
    rw [Member.alias?]
    split
    · rename_i heq
      exact heq
    · rfl
  rw [hcolumn m, hcolumn m', hname]
  rw [aliasSuffix, aliasSuffix] at h
  cases halias : m.alias? with
  | some column =>
    cases halias' : m'.alias? with
    | some column' =>
      rw [halias, halias'] at h
      have hliteral : literal column = literal column' := by simpa using h
      rw [Text.literal_inj hliteral]
    | none =>
      rw [halias, halias'] at h
      exact absurd h (hhead column)
  | none =>
    cases halias' : m'.alias? with
    | some column' =>
      rw [halias, halias'] at h
      exact absurd h.symm (hhead column')
    | none => rfl

/-- **The column of an attribute is known from its line.** -/
theorem column_of_memberLine {m m' : Member} (hm : IsName m.name) (hm' : IsName m'.name)
    (h : (memberLine m).text = (memberLine m').text) : m.column = m'.column := by
  have hspaceless : ∀ s : Scalar, ∀ c ∈ s.annotation.toList, (c != ' ') = true := by
    intro s
    cases s <;> decide
  have hsuffix : ∀ m : Member, ∀ c ∈ (aliasSuffix m).toList.head?, (c != ' ') = false := by
    intro m
    rw [aliasSuffix]
    split
    · simp
    · simp
  have hcolon : ∀ rest : String, EndsName (": " ++ rest).toList := by
    intro rest
    rw [String.toList_append]
    exact endsName_of_head (c := ':') rfl (by decide)
  rw [text_memberLine, text_memberLine, String.append_right_inj] at h
  obtain ⟨hname, hrest⟩ := append_inj_of_stop hm.chars hm'.chars (hcolon _) (hcolon _) h
  rw [String.append_right_inj] at hrest
  obtain ⟨-, haliases⟩ := append_inj_of_stop (hspaceless m.scalar) (hspaceless m'.scalar)
    (hsuffix m) (hsuffix m') hrest
  exact column_of_aliasSuffix hname haliases

/-! ## Classes

The lines are compared as texts. -/

/-- Texts that begin with a blank line and one that is not indented, as all do that follow a
class. -/
def StartsSection (texts : List String) : Prop :=
  ∃ next more, texts = "" :: next :: more ∧ ¬ Indented next

theorem indented_memberLine (m : Member) : Indented (memberLine m).text := by
  rw [text_memberLine]
  exact (by decide : Indented "    ").append _

/-- A class with attributes is no class without. -/
theorem StartsSection.ne_member {texts more : List String} (h : StartsSection texts) (m : Member) :
    texts ≠ "" :: (memberLine m).text :: more := by
  obtain ⟨next, more', rfl, hnext⟩ := h
  intro heq
  simp only [List.cons.injEq, true_and] at heq
  exact hnext (heq.1 ▸ indented_memberLine m)

/-- **The columns of attributes are known from their lines.** -/
theorem columns_of_memberLines {members members' : List Member}
    (hnames : ∀ m ∈ members, IsName m.name) (hnames' : ∀ m ∈ members', IsName m.name)
    {rest rest' : List String} (hrest : StartsSection rest) (hrest' : StartsSection rest')
    (h : members.map (fun m => (memberLine m).text) ++ rest
      = members'.map (fun m => (memberLine m).text) ++ rest') :
    members.map (·.column) = members'.map (·.column) ∧ rest = rest' := by
  have hblank : ∀ m : Member, ∀ {rest : List String} {more : List String}, StartsSection rest →
      rest ≠ (memberLine m).text :: more := by
    rintro m _ more ⟨next, more', rfl, -⟩ heq
    rw [List.cons.injEq] at heq
    exact absurd (heq.1 ▸ indented_memberLine m) (by decide)
  induction members generalizing members' with
  | nil =>
    cases members' with
    | nil => exact ⟨rfl, h⟩
    | cons m' members' => exact absurd h (hblank m' hrest)
  | cons m members ih =>
    cases members' with
    | nil => exact absurd h.symm (hblank m hrest')
    | cons m' members' =>
      rw [List.forall_mem_cons] at hnames hnames'
      simp only [List.map_cons, List.cons_append, List.cons.injEq] at h
      obtain ⟨hcolumns, hrests⟩ := ih hnames.2 hnames'.2 h.2
      rw [List.map_cons, List.map_cons, hcolumns, column_of_memberLine hnames.1 hnames'.1 h.1]
      exact ⟨rfl, hrests⟩

section Classes

variable (schema : Text)

/-- The texts of the class of an entity. -/
def classTexts (e : Entity) : List String := (modelLines (e.resource schema)).map Line.text

theorem classTexts_eq (e : Entity) : classTexts schema e
    = "" :: ("class " ++ e.name ++ "(BaseModel):")
      :: "    model_config = ConfigDict(populate_by_name=True)"
      :: ((if e.fields = [] then [] else [""]) ++ e.members.map fun m => (memberLine m).text) := by
  have hgap : (if e.fields = [] then [] else [blank]).map Line.text
      = if e.fields = [] then [] else [""] := by
    split <;> rfl
  rw [classTexts, modelLines, List.map_append, List.map_append, List.map_map]
  simp only [List.map_cons, text_code]
  exact congrArg (fun gap => "" :: _ :: _ :: (gap ++ _)) hgap

/-- **The name and the columns of an entity are known from its class.** -/
theorem class_of_classTexts {e e' : Entity} (h : Names.classNameFault? e.name = none)
    (h' : Names.classNameFault? e'.name = none) {rest rest' : List String}
    (hrest : StartsSection rest) (hrest' : StartsSection rest')
    (htexts : classTexts schema e ++ rest = classTexts schema e' ++ rest') :
    e.name = e'.name ∧ e.columns = e'.columns ∧ rest = rest' := by
  have hmembers : ∀ e : Entity, e.fields ≠ [] → ∃ m members, e.members = m :: members := by
    intro e hfields
    refine List.exists_cons_of_ne_nil fun hnil => hfields ?_
    rw [← List.length_eq_zero_iff, ← e.length_members, hnil]
    rfl
  have hnil : ∀ e : Entity, e.fields = [] → e.members = [] := by
    intro e hfields
    rw [← List.length_eq_zero_iff, e.length_members, hfields]
    rfl
  rw [classTexts_eq, classTexts_eq] at htexts
  simp only [List.cons_append, List.cons.injEq, true_and] at htexts
  obtain ⟨hclass, hbody⟩ := htexts
  have hname : e.name = e'.name :=
    (String.append_right_inj _).1 ((String.append_left_inj _).1 hclass)
  refine ⟨hname, ?_⟩
  by_cases hfields : e.fields = []
  · by_cases hfields' : e'.fields = []
    · rw [if_pos hfields, if_pos hfields', hnil e hfields, hnil e' hfields'] at hbody
      refine ⟨?_, hbody⟩
      rw [Entity.columns, Entity.columns, hfields, hfields']
    · obtain ⟨m, members, heq⟩ := hmembers e' hfields'
      rw [if_pos hfields, if_neg hfields', hnil e hfields, heq] at hbody
      exact absurd hbody (hrest.ne_member m)
  · by_cases hfields' : e'.fields = []
    · obtain ⟨m, members, heq⟩ := hmembers e hfields
      rw [if_neg hfields, if_pos hfields', hnil e' hfields', heq] at hbody
      exact absurd hbody.symm (hrest'.ne_member m)
    · rw [if_neg hfields, if_neg hfields'] at hbody
      simp only [List.cons_append, List.nil_append, List.cons.injEq, true_and] at hbody
      rw [← e.members_columns, ← e'.members_columns]
      exact columns_of_memberLines (e.isNamed h schema).members (e'.isNamed h' schema).members
        hrest hrest' hbody

theorem startsSection_classes (entities : List Entity) {rest : List String}
    (hrest : StartsSection rest) :
    StartsSection (entities.flatMap (classTexts schema) ++ rest) := by
  cases entities with
  | nil => exact hrest
  | cons e entities =>
    rw [List.flatMap_cons, classTexts_eq]
    refine ⟨_, _, rfl, ?_⟩
    intro hindented
    rw [Indented, String.toList_append, String.toList_append] at hindented
    simp at hindented

/-- Two entities have the same name and the same columns. -/
def SameShape (e e' : Entity) : Prop := e.name = e'.name ∧ e.columns = e'.columns

/-- **The names and the columns of all entities are known from their classes.** -/
theorem classes_of_classTexts {entities entities' : List Entity}
    (h : ∀ e ∈ entities, Names.classNameFault? e.name = none)
    (h' : ∀ e ∈ entities', Names.classNameFault? e.name = none) {more more' : List String}
    (htexts : entities.flatMap (classTexts schema) ++ "" :: "" :: more
      = entities'.flatMap (classTexts schema) ++ "" :: "" :: more') :
    List.Forall₂ SameShape entities entities' ∧ more = more' := by
  have hsection : ∀ more : List String, StartsSection ("" :: "" :: more) :=
    fun more => ⟨"", more, rfl, by decide⟩
  have hclass : ∀ name : String, "" ≠ "class " ++ name ++ "(BaseModel):" := by
    intro name heq
    have hlist := congrArg String.toList heq
    simp at hlist
  induction entities generalizing entities' with
  | nil =>
    cases entities' with
    | nil => simpa using htexts
    | cons e' entities' =>
      rw [List.flatMap_cons, classTexts_eq] at htexts
      simp only [List.flatMap_nil, List.nil_append, List.cons_append, List.cons.injEq, true_and]
        at htexts
      exact absurd htexts.1 (hclass e'.name)
  | cons e entities ih =>
    cases entities' with
    | nil =>
      rw [List.flatMap_cons, classTexts_eq] at htexts
      simp only [List.flatMap_nil, List.nil_append, List.cons_append, List.cons.injEq, true_and]
        at htexts
      exact absurd htexts.1.symm (hclass e.name)
    | cons e' entities' =>
      rw [List.forall_mem_cons] at h h'
      rw [List.flatMap_cons, List.flatMap_cons, List.append_assoc, List.append_assoc] at htexts
      obtain ⟨hname, hcolumns, hrests⟩ := class_of_classTexts schema h.1 h'.1
        (startsSection_classes schema entities (hsection more))
        (startsSection_classes schema entities' (hsection more')) htexts
      obtain ⟨hshapes, hmore⟩ := ih h.2 h'.2 hrests
      exact ⟨.cons ⟨hname, hcolumns⟩ hshapes, hmore⟩

end Classes

/-! ## Handlers

The handlers need not be read.  It is enough to know how many lines they have. -/

theorem length_handlersLines_congr {e e' : Entity} (h : SameShape e e') (schema : Text) :
    (handlersLines (e.resource schema)).length = (handlersLines (e'.resource schema)).length := by
  have hlength : e.fields.length = e'.fields.length := by
    simpa [Entity.columns] using congrArg List.length h.2
  have hverbs : e.verbs = e'.verbs := by
    simp only [Entity.verbs, ne_eq, ← List.length_eq_zero_iff, hlength]
  rw [length_handlersLines, length_handlersLines, hlength, hverbs]

theorem length_handlers {entities entities' : List Entity}
    (h : List.Forall₂ SameShape entities entities') (schema : Text) :
    ((Service.ofEntities entities schema).resources.flatMap handlersLines).length
      = ((Service.ofEntities entities' schema).resources.flatMap handlersLines).length := by
  induction h with
  | nil => rfl
  | @cons e e' entities entities' hshape _ ih =>
    simp only [Service.ofEntities, List.map_cons, List.flatMap_cons, List.length_append] at ih ⊢
    rw [ih, length_handlersLines_congr hshape]

/-- The handlers begin with a blank line, and so does what follows them. -/
theorem exists_blank_handlers (entities : List Entity) (schema : Text) (rest : List Line) :
    ∃ more, (Service.ofEntities entities schema).resources.flatMap handlersLines
      ++ blank :: rest = blank :: more := by
  cases entities with
  | nil => exact ⟨rest, rfl⟩
  | cons e entities =>
    rw [Service.ofEntities, List.map_cons, List.flatMap_cons, handlersLines_eq]
    exact ⟨_, rfl⟩

/-! ## Statements that make tables -/

theorem text_creationLine_inj {statement statement' : Sql.Statement}
    (h : (creationLine statement).text = (creationLine statement').text) :
    statement.text = statement'.text := by
  have htext : ∀ statement : Sql.Statement,
      (creationLine statement).text = "    " ++ (literal statement.text ++ ",") := by
    intro statement
    simp [creationLine, Line.text, Part.text]
  rw [htext, htext, String.append_right_inj, String.append_left_inj] at h
  exact Text.literal_inj h

end Source

open Source

namespace Entity

/-- A column as it is declared. -/
def declaration (f : Field) : Text := f.name ++ (" " : Text) ++ (f.scalar.columnType : Text)

/-- **The scalars of columns are known from their declarations,** if the names of the columns are
known.  This is by induction on the fields: the name is left out, the type is known from what begins
with it, and so it is known where the next declaration starts. -/
theorem scalars_of_declarations {fields fields' : List Field}
    (hnames : fields.map (·.name) = fields'.map (·.name)) {rest rest' : Text}
    (h : Sql.Statement.commaList (fields.map declaration) ++ rest
      = Sql.Statement.commaList (fields'.map declaration) ++ rest') :
    fields.map (·.scalar) = fields'.map (·.scalar) := by
  have hcons : ∀ (item next : Text) (items : List Text),
      Sql.Statement.commaList (item :: next :: items)
        = item ++ ((", " : Text) ++ Sql.Statement.commaList (next :: items)) := by
    intro item next items
    rw [Sql.Statement.commaList, Text.join, List.intercalate_cons_cons, List.append_assoc]
    rfl
  have hdeclaration : ∀ (f : Field) (rest : Text),
      declaration f ++ rest
        = f.name ++ ((" " : Text) ++ ((f.scalar.columnType : Text) ++ rest)) := by
    intro f rest
    rw [declaration, List.append_assoc, List.append_assoc]
  induction fields generalizing fields' with
  | nil =>
    rw [List.map_nil, eq_comm, List.map_eq_nil_iff] at hnames
    rw [hnames]
  | cons f fields ih =>
    cases fields' with
    | nil => simp at hnames
    | cons f' fields' =>
      rw [List.map_cons, List.map_cons, List.cons.injEq] at hnames
      obtain ⟨hname, hnames⟩ := hnames
      cases fields with
      | nil =>
        rw [List.map_nil, eq_comm, List.map_eq_nil_iff] at hnames
        subst hnames
        simp only [Sql.Statement.commaList, Text.join, List.map_cons, List.map_nil,
          List.intercalate_singleton, hdeclaration, hname, List.append_cancel_left_eq] at h
        rw [List.map_cons, List.map_cons, Scalar.columnType_inj h]
      | cons g fields =>
        cases fields' with
        | nil => simp at hnames
        | cons g' fields' =>
          simp only [List.map_cons, hcons] at h
          simp only [List.append_assoc, hdeclaration, hname, List.append_cancel_left_eq] at h
          have hscalar := Scalar.columnType_inj h
          rw [hscalar, List.append_cancel_left_eq, List.append_cancel_left_eq] at h
          rw [List.map_cons, hscalar, ih hnames h]
          rfl

theorem text_creation (e : Entity) (schema : Text) : (e.creation schema).text
    = ("CREATE TABLE IF NOT EXISTS " : Text) ++ (e.tableName schema : Text) ++ (" (" : Text)
      ++ Sql.Statement.commaList (e.fields.map declaration) ++ (");" : Text) := by
  rw [creation, Sql.Statement.text, List.map_map]
  rfl

/-- **The scalars of an entity are known from the statement that makes its table.** -/
theorem scalars_of_creation {e e' : Entity} (hshape : SameShape e e') (schema : Text)
    (h : (e.creation schema).text = (e'.creation schema).text) :
    e.fields.map (·.scalar) = e'.fields.map (·.scalar) := by
  have htable : e.tableName schema = e'.tableName schema := by
    rw [tableName, tableName, lowerName, lowerName, hshape.1]
  simp only [text_creation, htable, List.append_assoc, List.append_cancel_left_eq] at h
  exact scalars_of_declarations hshape.2 h

theorem fields_eq_of_numbered {e e' : Entity} (h : e.Numbered) (h' : e'.Numbered)
    (hcolumns : e.columns = e'.columns)
    (hscalars : e.fields.map (·.scalar) = e'.fields.map (·.scalar)) : e.fields = e'.fields := by
  refine List.ext_getElem? fun k => ?_
  have hcolumn := congrArg (·[k]?) hcolumns
  have hscalar := congrArg (·[k]?) hscalars
  simp only [columns, List.getElem?_map] at hcolumn hscalar
  cases hf : e.fields[k]? with
  | none =>
    rw [hf] at hcolumn
    exact (Option.map_eq_none_iff.1 hcolumn.symm).symm
  | some f =>
    rw [hf] at hcolumn hscalar
    obtain ⟨f', hf', hname⟩ := Option.map_eq_some_iff.1 hcolumn.symm
    rw [hf'] at hscalar ⊢
    have hposition : f.position = f'.position := (h k f hf).trans (h' k f' hf').symm
    obtain ⟨name, scalar, position⟩ := f
    obtain ⟨name', scalar', position'⟩ := f'
    simp_all

end Entity

/-! ## Programs -/

namespace Source

open Line

/-- The texts of the lines of a program: the classes of the entities, then the handlers, then the
statements that make the tables. -/
theorem texts_program (entities : List Entity) (schema : Text) : ∃ rest tail : List Line,
    (program (.ofEntities entities schema)).map Line.text
      = preamble ++ (entities.flatMap (classTexts schema) ++ "" :: "" :: rest.map Line.text) ∧
    blank :: rest = (Service.ofEntities entities schema).resources.flatMap handlersLines
      ++ blank :: code "CREATE_TABLE_STATEMENTS = ["
        :: (entities.map (fun e => creationLine (e.creation schema)) ++ tail) := by
  let tail := startup.map code ++ (Service.ofEntities entities schema).routes.map routeLine
    ++ ending.map code
  obtain ⟨rest, hrest⟩ := exists_blank_handlers entities schema
    (code "CREATE_TABLE_STATEMENTS = ["
      :: (entities.map (fun e => creationLine (e.creation schema)) ++ tail))
  refine ⟨rest, tail, ?_, hrest.symm⟩
  have hclasses : ((Service.ofEntities entities schema).resources.flatMap modelLines).map Line.text
      = entities.flatMap (classTexts schema) := by
    rw [Service.ofEntities, List.flatMap_map, List.map_flatMap]
    rfl
  have hlines : program (.ofEntities entities schema)
      = preamble.map code ++ ((Service.ofEntities entities schema).resources.flatMap modelLines
        ++ (blank :: blank :: rest)) := by
    rw [← hrest, program, assembled, creations_ofEntities]
    simp [tail, List.map_map, Function.comp_def]
  rw [hlines, List.map_append, List.map_append, hclasses, List.map_map]
  simp only [Function.comp_def, text_code, List.map_id']
  rfl

/-- Where two programs have the same text, they have the same lines. -/
theorem texts_eq_of_sourceText_eq {s s' : Service} (h : ∀ r ∈ s.resources, r.IsNamed)
    (h' : ∀ r ∈ s'.resources, r.IsNamed) (htext : sourceText s = sourceText s') :
    (program s).map Line.text = (program s').map Line.text := by
  have hlines := congrArg (fun s => s.toList.splitOn '\n') htext
  simp only [sourceText, Line.splitOn_program (isOne_program h),
    Line.splitOn_program (isOne_program h'), List.append_cancel_right_eq] at hlines
  have hinj : Function.Injective String.toList := fun _ _ => String.toList_inj.1
  refine (List.map_injective_iff.2 hinj) ?_
  rw [List.map_map, List.map_map]
  exact hlines

/-- **The entities are known from the lines of their program.** -/
theorem entities_of_texts {entities entities' : List Entity}
    (h : ∀ e ∈ entities, Names.classNameFault? e.name = none)
    (h' : ∀ e ∈ entities', Names.classNameFault? e.name = none) {schema : Text}
    (htexts : (program (.ofEntities entities schema)).map Line.text
      = (program (.ofEntities entities' schema)).map Line.text) :
    List.Forall₂ (fun e e' => SameShape e e' ∧
      e.fields.map (·.scalar) = e'.fields.map (·.scalar)) entities entities' := by
  obtain ⟨rest, tail, hprogram, hrest⟩ := texts_program entities schema
  obtain ⟨rest', tail', hprogram', hrest'⟩ := texts_program entities' schema
  rw [hprogram, hprogram'] at htexts
  have hafter := List.append_cancel_left htexts
  obtain ⟨hshapes, hmore⟩ := classes_of_classTexts schema h h' hafter
  have hlines : (blank :: rest).map Line.text = (blank :: rest').map Line.text := by
    rw [List.map_cons, List.map_cons, hmore]
  rw [hrest, hrest', List.map_append, List.map_append] at hlines
  -- The handlers have as many lines on both sides, and so have the statements.
  have hhandlers := length_handlers hshapes schema
  have hstatements :=
    (List.append_inj hlines (by rw [List.length_map, List.length_map, hhandlers])).2
  simp only [List.map_cons, List.map_append, List.map_map, Function.comp_def, List.cons.injEq,
    true_and] at hstatements
  have hcreations := (List.append_inj hstatements
    (by rw [List.length_map, List.length_map, hshapes.length_eq])).1
  rw [← List.forall₂_eq_eq_eq, List.forall₂_map_left_iff, List.forall₂_map_right_iff] at hcreations
  refine List.forall₂_iff_zip.2 ⟨hshapes.length_eq, fun {e e'} hzip => ?_⟩
  have hshape := (List.forall₂_iff_zip.1 hshapes).2 hzip
  have hline := (List.forall₂_iff_zip.1 hcreations).2 hzip
  exact ⟨hshape, Entity.scalars_of_creation hshape schema (text_creationLine_inj hline)⟩

end Source

theorem renderService_result (entities : List Entity) (schema : Text) :
    (renderService entities schema).result = sourceText (.ofEntities entities schema) := by
  rw [renderService]

theorem Schema.Accepted.numbered {earlier : List Text} {members : Mapping Text Value}
    {entities : List Entity} (h : Schema.Accepted earlier members entities) {e : Entity}
    (he : e ∈ entities) : e.Numbered := by
  obtain ⟨definition, -, -, hdescribes⟩ := h.definition he
  exact hdescribes.numbered

/-- **A program tells its entities.**  With one database schema, two documents have programs with
the same text exactly if they describe the same entities: with the same names in the same order, and
the same properties in the same order with the same scalars and positions. -/
theorem sourceText_inj {v v' : Value} (hv : v.WellKeyed) (hv' : v'.WellKeyed)
    {entities entities' : List Entity} (h : (Schema.build v).result = .ok entities)
    (h' : (Schema.build v').result = .ok entities') (schema : Text) :
    (renderService entities schema).result = (renderService entities' schema).result
      ↔ entities = entities' := by
  refine ⟨fun htext => ?_, fun heq => by rw [heq]⟩
  obtain ⟨members, -, haccepted⟩ := Schema.accepted_of_build hv h
  obtain ⟨members', -, haccepted'⟩ := Schema.accepted_of_build hv' h'
  have hnamed : ∀ {v : Value} {entities : List Entity}, v.WellKeyed →
      (Schema.build v).result = .ok entities →
      ∀ r ∈ (Service.ofEntities entities schema).resources, r.IsNamed := by
    intro v entities hv h r hr
    obtain ⟨e, he, rfl⟩ := List.mem_map.1 hr
    exact Entity.isNamed (Schema.usable_of_build hv h he) schema
  rw [renderService_result, renderService_result] at htext
  have htexts := texts_eq_of_sourceText_eq (hnamed hv h) (hnamed hv' h') htext
  have hentities := entities_of_texts (fun e he => Schema.usable_of_build hv h he)
    (fun e he => Schema.usable_of_build hv' h' he) htexts
  rw [← List.forall₂_eq_eq_eq]
  refine List.forall₂_iff_zip.2 ⟨hentities.length_eq, fun {e e'} hzip => ?_⟩
  obtain ⟨⟨hname, hcolumns⟩, hscalars⟩ := (List.forall₂_iff_zip.1 hentities).2 hzip
  have hmem := List.of_mem_zip hzip
  have hfields := Entity.fields_eq_of_numbered (haccepted.numbered hmem.1)
    (haccepted'.numbered hmem.2) hcolumns hscalars
  obtain ⟨name, fields⟩ := e
  obtain ⟨name', fields'⟩ := e'
  cases hname
  cases hfields
  rfl

/-- A document with a property whose name looks like two declarations.  Both formats make it an
integer in the class. -/
def countDocument (format : String) : Value :=
  .object
    [("Count", .object [("properties", .object
      [("n bigint, m", .object [("format", .string format)])])])]

def countEntities (scalar : Scalar) : List Entity := [⟨"Count", [⟨"n bigint, m", scalar, 0⟩]⟩]

theorem sourceText_countDocument :
    (countDocument "int32").WellKeyed ∧ (countDocument "byte").WellKeyed ∧
    (Schema.build (countDocument "int32")).result = .ok (countEntities .i32) ∧
    (Schema.build (countDocument "byte")).result = .ok (countEntities .u8) ∧
    (renderService (countEntities .i32) "public").result
      ≠ (renderService (countEntities .u8) "public").result := by
  have hv : (countDocument "int32").WellKeyed := by decide
  have hv' : (countDocument "byte").WellKeyed := by decide
  have hbuild : (Schema.build (countDocument "int32")).result = .ok (countEntities .i32) := by rfl
  have hbuild' : (Schema.build (countDocument "byte")).result = .ok (countEntities .u8) := by rfl
  refine ⟨hv, hv', hbuild, hbuild', ?_⟩
  rw [Ne, sourceText_inj hv hv' hbuild hbuild' "public"]
  decide

end EntityService
