import EntityService.Artifacts
import EntityService.Proofs.ColumnLists
import EntityService.Proofs.FirstFault
import EntityService.Proofs.PrintedText
import EntityService.Proofs.RowValues

/-!
# What the text of a statement gives back

A statement is sent to the database as a text.  Of what it was made from, the text gives back the
columns in order and the numbers of the parameters, as long as the names of the columns keep out of
the way: they stand in the text as they are in the document, and nothing marks where one of them
begins or ends.

Which names do that is said exactly.  For lists of columns it is `Sql.ColumnWord`.  For parameters
it is that no name holds one: a dollar sign with a digit after it.  A dollar sign at the end of a
name does no harm, because what follows a name never starts with a digit.

## What is here

* `parameterNumbers`, `HoldsParameter` — the parameters in a text.
* `parameterNumbers_insert`, `parameterNumbers_update` — the parameters in statements: those in
  names besides those that the statement is meant to have.
* `Entity.listsColumns_iff`, `Entity.numbersInsertion_iff`, `Entity.numbersUpdate_iff` — the
  statements of one entity.
* `Schema.statements_give_back` — the main statement.
-/

set_option autoImplicit false

namespace EntityService

namespace Sql

open EntityService.Text

/-! ## Parameters in texts -/

/-- The digits that a text starts with. -/
def digitsAhead : Text → List Char
  | .char c :: rest => if c.isDigit then c :: digitsAhead rest else []
  | _ => []

/-- The numbers of the parameters in a text: a dollar sign and the digits after it. -/
def parameterNumbers : Text → List Nat
  | [] => []
  | c :: rest =>
    if c = .char '$' ∧ digitsAhead rest ≠ [] then
      Nat.ofDigitChars 10 (digitsAhead rest) 0 :: parameterNumbers rest
    else parameterNumbers rest

/-- There is a parameter in a text. -/
def HoldsParameter (t : Text) : Prop :=
  ∃ before d after, d.isDigit = true ∧ t = before ++ .char '$' :: .char d :: after

theorem digitsAhead_eq_nil_iff {t : Text} :
    digitsAhead t = [] ↔ ∀ d, d.isDigit = true → t.head? ≠ some (.char d) := by
  cases t with
  | nil => simp [digitsAhead]
  | cons c rest =>
    cases c with
    | half index => simp [digitsAhead]
    | char c =>
      rw [digitsAhead]
      split
      · rename_i hc
        exact iff_of_false (List.cons_ne_nil _ _) fun h => h c hc rfl
      · rename_i hc
        refine iff_of_true rfl fun d hd heq => hc ?_
        cases heq
        exact hd

theorem parameterNumbers_eq_nil_iff {t : Text} : parameterNumbers t = [] ↔ ¬ HoldsParameter t := by
  induction t with
  | nil =>
    refine iff_of_true rfl ?_
    rintro ⟨before, d, after, -, heq⟩
    exact List.append_ne_nil_of_right_ne_nil before (List.cons_ne_nil _ _) heq.symm
  | cons c rest ih =>
    rw [parameterNumbers]
    split
    · rename_i hc
      obtain ⟨rfl, hdigits⟩ := hc
      rw [ne_eq, digitsAhead_eq_nil_iff] at hdigits
      push Not at hdigits
      obtain ⟨d, hd, hhead⟩ := hdigits
      obtain ⟨after, rfl⟩ := List.head?_eq_some_iff.1 hhead
      exact iff_of_false (List.cons_ne_nil _ _) fun h => h ⟨[], d, after, hd, rfl⟩
    · rename_i hc
      rw [ih, not_iff_not]
      constructor
      · rintro ⟨before, d, after, hd, rfl⟩
        exact ⟨c :: before, d, after, hd, rfl⟩
      · rintro ⟨before, d, after, hd, heq⟩
        cases before with
        | nil =>
          obtain ⟨rfl, rfl⟩ := List.cons.inj heq
          refine absurd ⟨rfl, ?_⟩ hc
          rw [digitsAhead, if_pos hd]
          exact List.cons_ne_nil _ _
        | cons b before =>
          obtain ⟨rfl, rfl⟩ := List.cons.inj heq
          exact ⟨before, d, after, hd, rfl⟩

instance (t : Text) : Decidable (HoldsParameter t) :=
  decidable_of_iff (parameterNumbers t ≠ []) (by rw [ne_eq, parameterNumbers_eq_nil_iff, not_not])

/-! ## Parameters in what is put together -/

theorem digitsAhead_append {rest : Text} (h : digitsAhead rest = []) (t : Text) :
    digitsAhead (t ++ rest) = digitsAhead t := by
  induction t with
  | nil => exact h
  | cons c t ih =>
    cases c with
    | half index => rfl
    | char c => rw [List.cons_append, digitsAhead, digitsAhead, ih]

/-- What does not start with a digit has no part in the parameters before it. -/
theorem parameterNumbers_append {rest : Text} (h : digitsAhead rest = []) (t : Text) :
    parameterNumbers (t ++ rest) = parameterNumbers t ++ parameterNumbers rest := by
  induction t with
  | nil => rfl
  | cons c t ih =>
    rw [List.cons_append, parameterNumbers, parameterNumbers, digitsAhead_append h, ih]
    split <;> rfl

theorem parameterNumbers_of_not_mem {t : Text} (h : .char '$' ∉ t) (rest : Text) :
    parameterNumbers (t ++ rest) = parameterNumbers rest := by
  induction t with
  | nil => rfl
  | cons c t ih =>
    rw [List.mem_cons, not_or] at h
    rw [List.cons_append, parameterNumbers, if_neg fun hc => h.1 hc.1.symm, ih h.2]

theorem digitsAhead_ofChars {digits : List Char} (h : ∀ c ∈ digits, c.isDigit = true) :
    digitsAhead (ofChars digits) = digits := by
  induction digits with
  | nil => rfl
  | cons c digits ih =>
    rw [List.forall_mem_cons] at h
    rw [ofChars, List.map_cons, digitsAhead, if_pos h.1]
    exact congrArg _ (ih h.2)

/-- A number on its own is no parameter. -/
theorem parameterNumbers_ofChars {digits : List Char} (h : ∀ c ∈ digits, c.isDigit = true) :
    parameterNumbers (ofChars digits) = [] := by
  have hdollar : .char '$' ∉ ofChars digits := by
    intro hmem
    obtain ⟨c, hc, heq⟩ := List.mem_map.1 hmem
    cases heq
    cases h _ hc
  have hnumbers := parameterNumbers_of_not_mem hdollar []
  rw [List.append_nil] at hnumbers
  exact hnumbers

/-- A placeholder is a dollar sign with digits behind it. -/
theorem ofString_placeholder {k : Int} (h : 0 ≤ k) :
    (placeholder k : Text) = .char '$' :: ofChars (Nat.toDigits 10 k.toNat) := by
  have hnat : k.natAbs = k.toNat := by omega
  rw [placeholder, Text.ofString, String.toList_append, Json.toList_toString,
    if_neg (Int.not_lt.2 h), List.nil_append, hnat]
  rfl

theorem parameterNumbers_placeholder {k : Int} (h : 0 ≤ k) :
    parameterNumbers (placeholder k : Text) = [k.toNat] := by
  have hdigits : ∀ c ∈ Nat.toDigits 10 k.toNat, c.isDigit = true := fun _ =>
    Json.isDigit_toDigits
  rw [ofString_placeholder h, parameterNumbers, digitsAhead_ofChars hdigits,
    parameterNumbers_ofChars hdigits, if_pos ⟨rfl, Nat.toDigits_ne_nil⟩,
    Nat.ofDigitChars_ten_toDigits]

theorem parameterNumbers_commaList {rest : Text} (h : digitsAhead rest = []) (texts : List Text) :
    parameterNumbers (Statement.commaList texts ++ rest)
      = texts.flatMap parameterNumbers ++ parameterNumbers rest := by
  induction texts with
  | nil => rfl
  | cons text texts ih =>
    cases texts with
    | nil => rw [commaList_singleton, parameterNumbers_append h, List.flatMap_singleton]
    | cons next texts =>
      have hcomma : ∀ list, parameterNumbers (.char ',' :: .char ' ' :: list)
          = parameterNumbers list := fun list =>
        parameterNumbers_of_not_mem
          (show CodePoint.char '$' ∉ [.char ',', .char ' '] by decide) list
      rw [commaList_cons_cons, List.append_assoc, List.cons_append, List.cons_append,
        parameterNumbers_append rfl, hcomma, ih]
      simp only [List.flatMap_cons, List.append_assoc]

/-! ## Parameters in statements -/

/-- The parameters of an insertion come after those in the names. -/
theorem parameterNumbers_insert {table : Text} (htable : .char '$' ∉ table)
    {columns : List (Text × Int)} (hne : columns ≠ []) (hcolumns : ∀ c ∈ columns, 0 ≤ c.2) :
    parameterNumbers (Statement.insert table columns).text
      = columns.flatMap (fun c => parameterNumbers c.1) ++ columns.map (·.2.toNat) := by
  have htext : (Statement.insert table columns).text
      = (Text.ofString "INSERT INTO " ++ table ++ Text.ofString " (")
        ++ (Statement.commaList (columns.map (·.1)) ++ (Text.ofString ") VALUES ("
          ++ (Statement.commaList (columns.map fun c => (placeholder c.2 : Text))
            ++ Text.ofString ")"))) := by
    rw [Statement.text, if_neg hne]
    simp only [List.append_assoc]
  have hbefore : .char '$' ∉ Text.ofString "INSERT INTO " ++ table ++ Text.ofString " (" :=
    not_mem_start (by decide) htable (by decide)
  have hvalues : .char '$' ∉ Text.ofString ") VALUES (" := by decide
  have hplaceholders : (columns.map fun c => (placeholder c.2 : Text)).flatMap parameterNumbers
      = columns.map (·.2.toNat) := by
    rw [List.flatMap_map, List.map_eq_flatMap]
    exact List.flatMap_congr fun c hc => parameterNumbers_placeholder (hcolumns c hc)
  rw [htext, parameterNumbers_of_not_mem hbefore, parameterNumbers_commaList rfl,
    parameterNumbers_of_not_mem hvalues, parameterNumbers_commaList rfl, hplaceholders,
    List.flatMap_map]
  exact congrArg _ (List.append_nil _)

theorem parameterNumbers_equation {column : Text × Int} (h : 0 ≤ column.2) :
    parameterNumbers (Statement.equation column)
      = parameterNumbers column.1 ++ [column.2.toNat] := by
  have hequals : .char '$' ∉ Text.ofString " = " := by decide
  rw [Statement.equation, List.append_assoc, parameterNumbers_append rfl,
    parameterNumbers_of_not_mem hequals, parameterNumbers_placeholder h]

/-- Each parameter of an update comes after those in the name before it. -/
theorem parameterNumbers_update {table : Text} (htable : .char '$' ∉ table)
    {columns : List (Text × Int)} (hcolumns : ∀ c ∈ columns, 0 ≤ c.2) {key : Text × Int}
    (hkey : 0 ≤ key.2) :
    parameterNumbers (Statement.update table columns key).text
      = columns.flatMap (fun c => parameterNumbers c.1 ++ [c.2.toNat])
        ++ (parameterNumbers key.1 ++ [key.2.toNat]) := by
  have htext : (Statement.update table columns key).text
      = (Text.ofString "UPDATE " ++ table ++ Text.ofString " SET ")
        ++ (Statement.commaList (columns.map Statement.equation) ++ (Text.ofString " WHERE "
          ++ Statement.equation key)) := by
    rw [Statement.text]
    simp only [List.append_assoc]
  have hbefore : .char '$' ∉ Text.ofString "UPDATE " ++ table ++ Text.ofString " SET " :=
    not_mem_start (by decide) htable (by decide)
  have hwhere : .char '$' ∉ Text.ofString " WHERE " := by decide
  rw [htext, parameterNumbers_of_not_mem hbefore, parameterNumbers_commaList rfl,
    parameterNumbers_of_not_mem hwhere, parameterNumbers_equation hkey, List.flatMap_map,
    List.flatMap_congr fun c hc => parameterNumbers_equation (hcolumns c hc)]

theorem forall_parameterNumbers_iff {columns : List (Text × Int)} :
    columns.flatMap (fun c => parameterNumbers c.1) = [] ↔
      ∀ name ∈ columns.map (·.1), ¬ HoldsParameter name := by
  rw [List.flatMap_eq_nil_iff, List.forall_mem_map]
  exact forall₂_congr fun _ _ => parameterNumbers_eq_nil_iff

/-- An insertion has no parameters but its own if no name holds one. -/
theorem parameterNumbers_insert_iff {table : Text} (htable : .char '$' ∉ table)
    {columns : List (Text × Int)} (hne : columns ≠ []) (hcolumns : ∀ c ∈ columns, 0 ≤ c.2) :
    parameterNumbers (Statement.insert table columns).text = columns.map (·.2.toNat) ↔
      ∀ name ∈ columns.map (·.1), ¬ HoldsParameter name := by
  rw [parameterNumbers_insert htable hne hcolumns, List.append_left_eq_self,
    forall_parameterNumbers_iff]

theorem length_flatMap_append_singleton {α β : Type} (f : α → List β) (g : α → β) (as : List α) :
    (as.flatMap fun a => f a ++ [g a]).length = (as.flatMap f).length + as.length := by
  induction as with
  | nil => rfl
  | cons a as ih =>
    simp only [List.flatMap_cons, List.length_append, List.length_cons, List.length_nil, ih]
    omega

/-- Nothing stands between items that are all there is. -/
theorem flatMap_append_singleton_iff {α β : Type} {f : α → List β} {g : α → β} {as : List α} :
    (as.flatMap fun a => f a ++ [g a]) = as.map g ↔ as.flatMap f = [] := by
  constructor
  · intro h
    have hlength := length_flatMap_append_singleton f g as
    rw [h, List.length_map] at hlength
    exact List.length_eq_zero_iff.1 (by omega)
  · intro h
    rw [List.flatMap_eq_nil_iff] at h
    rw [List.map_eq_flatMap]
    refine List.flatMap_congr fun a ha => ?_
    rw [h a ha, List.nil_append]

/-- An update has no parameters but its own if no name holds one. -/
theorem parameterNumbers_update_iff {table : Text} (htable : .char '$' ∉ table)
    {columns : List (Text × Int)} (hcolumns : ∀ c ∈ columns, 0 ≤ c.2) {key : Text × Int}
    (hkey : 0 ≤ key.2) (hname : ¬ HoldsParameter key.1) :
    parameterNumbers (Statement.update table columns key).text
        = columns.map (·.2.toNat) ++ [key.2.toNat] ↔
      ∀ name ∈ columns.map (·.1), ¬ HoldsParameter name := by
  rw [parameterNumbers_update htable hcolumns hkey, parameterNumbers_eq_nil_iff.2 hname,
    List.nil_append, List.append_cancel_right_eq, flatMap_append_singleton_iff,
    forall_parameterNumbers_iff]

end Sql

open EntityService.Sql

namespace Entity

/-! ## The statements of an entity -/

/-- The three lists of columns are read back from their statements. -/
structure ListsColumns (e : Entity) (schema : Text) : Prop where
  selected : selectedColumns (e.selection schema).text = e.columns
  inserted : listedColumns (e.insertion schema).text = e.columns
  created : listedColumns (e.creation schema).text = e.columns

/-- An insertion has one parameter for each field, numbered from one. -/
def NumbersInsertion (e : Entity) (schema : Text) : Prop :=
  parameterNumbers (e.insertion schema).text = List.range' 1 e.fields.length

/-- There is an update, with one parameter more. -/
def NumbersUpdate (e : Entity) (schema : Text) : Prop :=
  ∃ update, e.update schema = .ok update ∧
    parameterNumbers update.text = List.range' 1 (e.fields.length + 1)

/-- The marks that a table must do without. -/
def tableMarks : List Char := ['(', ')', '$']

variable {e : Entity} {schema : Text}

theorem not_mem_tableName (hname : Names.classNameFault? e.name = none)
    (hschema : ∀ c ∈ tableMarks, .char c ∉ schema) {c : Char} (hc : c ∈ tableMarks) :
    .char c ∉ e.tableName schema := by
  have hmarks : ∀ c ∈ tableMarks, Text.isNameChar c = false := by decide
  have hlower : c ∉ e.lowerName.toList := fun hmem =>
    (e.isName_name hname).lower.not_mem hmarks hmem hc
  have hpoint : ∀ c ∈ tableMarks, .char c ∉ (".".toList.map CodePoint.char : Text) := by decide
  intro hmem
  rw [tableName, List.mem_append, List.mem_append] at hmem
  rcases hmem with (hmem | hmem) | hmem
  · exact hschema c hc hmem
  · exact hpoint c hc hmem
  · obtain ⟨d, hd, heq⟩ := List.mem_map.1 hmem
    cases heq
    exact hlower hd

theorem boundColumns_names (e : Entity) : e.boundColumns.map (·.1) = e.columns := by
  rw [boundColumns, List.map_map]
  rfl

/-- Parameters count from one. -/
theorem boundColumns_numbers (h : e.Numbered) :
    e.boundColumns.map (·.2.toNat) = List.range' 1 e.fields.length := by
  have hparameters := congrArg (List.map Int.toNat) (boundColumns_parameters h)
  rw [List.map_map, List.map_map] at hparameters
  rw [List.range'_eq_map_range]
  refine hparameters.trans (List.map_congr_left fun k _ => ?_)
  simp only [Function.comp_apply]
  omega

theorem boundColumns_nonneg (h : e.Numbered) : ∀ c ∈ e.boundColumns, 0 ≤ c.2 := by
  intro c hc
  have hmem : c.2 ∈ e.boundColumns.map (·.2) := List.mem_map_of_mem hc
  rw [boundColumns_parameters h] at hmem
  obtain ⟨k, -, hk⟩ := List.mem_map.1 hmem
  omega

section Statements

variable (hname : Names.classNameFault? e.name = none) (hnumbered : e.Numbered)
  (hfields : e.fields ≠ []) (hschema : ∀ c ∈ tableMarks, .char c ∉ schema)

include hname hfields hschema

theorem listsColumns_iff : e.ListsColumns schema ↔ ∀ name ∈ e.columns, ColumnWord name := by
  have hcolumns : e.columns ≠ [] := fun h => hfields (List.map_eq_nil_iff.1 h)
  have hcreated : (e.fields.map fun f => (f.name, f.scalar.columnType)).map (·.1) = e.columns := by
    rw [List.map_map]
    rfl
  have htypes : ∀ c ∈ e.fields.map fun f => (f.name, f.scalar.columnType),
      IsType (.ofString c.2) := by
    rw [List.forall_mem_map]
    exact fun f _ => isType_columnType f.scalar
  have hopen : '(' ∈ tableMarks := by decide
  have hclose : ')' ∈ tableMarks := by decide
  have hiff := columnWords_iff (e.tableName schema) (not_mem_tableName hname hschema hopen)
    (not_mem_tableName hname hschema hclose) hcolumns e.boundColumns_names hcreated htypes
  exact ⟨fun h => hiff.1 ⟨h.selected, h.inserted, h.created⟩, fun h =>
    ⟨(hiff.2 h).1, (hiff.2 h).2.1, (hiff.2 h).2.2⟩⟩

include hnumbered

theorem numbersInsertion_iff :
    e.NumbersInsertion schema ↔ ∀ name ∈ e.columns, ¬ HoldsParameter name := by
  have hbound : e.boundColumns ≠ [] := fun h => hfields (List.map_eq_nil_iff.1 h)
  have hiff := parameterNumbers_insert_iff (not_mem_tableName hname hschema (by decide)) hbound
    (boundColumns_nonneg hnumbered)
  rw [boundColumns_numbers hnumbered, boundColumns_names] at hiff
  exact hiff

theorem numbersUpdate_iff :
    e.NumbersUpdate schema ↔ ∀ name ∈ e.columns, ¬ HoldsParameter name := by
  have hkey : 0 ≤ ((identifierName : Text), e.identifierParameter).2 := by
    simp only [identifierParameter]
    omega
  have hidentifier : ¬ HoldsParameter (identifierName : Text) := by decide
  have hlast : e.identifierParameter.toNat = 1 + e.fields.length := by
    rw [identifierParameter]
    omega
  have hiff := parameterNumbers_update_iff (not_mem_tableName hname hschema (by decide))
    (boundColumns_nonneg hnumbered) hkey hidentifier
  rw [boundColumns_numbers hnumbered, boundColumns_names, hlast, ← List.range'_1_concat] at hiff
  rw [NumbersUpdate, update_eq_ok e schema hfields]
  constructor
  · rintro ⟨update, heq, hnumbers⟩
    cases heq
    exact hiff.1 hnumbers
  · exact fun h => ⟨_, rfl, hiff.2 h⟩

end Statements

end Entity

namespace Schema

open EntityService.Json

/-- **What statements give back.**  The columns of every entity with fields are read back from its
three lists if and only if all of them are column words, and the parameters of its insertion and of
its update are counted without gaps if and only if no column holds a parameter. -/
theorem statements_give_back {v : Value} (hv : v.WellKeyed) {entities : List Entity}
    (h : (build v).result = .ok entities) {e : Entity} (he : e ∈ entities)
    (hfields : e.fields ≠ []) {schema : Text}
    (hschema : ∀ c ∈ Entity.tableMarks, .char c ∉ schema) :
    (e.ListsColumns schema ↔ ∀ name ∈ e.columns, ColumnWord name) ∧
    (e.NumbersInsertion schema ↔ ∀ name ∈ e.columns, ¬ HoldsParameter name) ∧
    (e.NumbersUpdate schema ↔ ∀ name ∈ e.columns, ¬ HoldsParameter name) := by
  have hname := usable_of_build hv h he
  obtain ⟨members, rfl, haccepted⟩ := accepted_of_build hv h
  obtain ⟨definition, -, -, hdescribes⟩ := haccepted.definition he
  exact ⟨Entity.listsColumns_iff hname hfields hschema,
    Entity.numbersInsertion_iff hname hdescribes.numbered hfields hschema,
    Entity.numbersUpdate_iff hname hdescribes.numbered hfields hschema⟩

/-- Names that look like marks are given back: a dollar sign without a digit, and a word in lower
case. -/
def priceDocument : Value :=
  .object [("Order", .object [("properties", .object
    [("US$", .object [("type", .string "integer")]), ("from", .object []), ("(id", .object [])])])]

def priceEntity : Entity :=
  ⟨"Order", [⟨"US$", .i64, 0⟩, ⟨"from", .string, 1⟩, ⟨"(id", .string, 2⟩]⟩

theorem statements_give_back_priceDocument :
    priceDocument.WellKeyed ∧ (build priceDocument).result = .ok [priceEntity] ∧
    priceEntity.fields ≠ [] ∧ (∀ c ∈ Entity.tableMarks, .char c ∉ (defaultSchema : Text)) ∧
    priceEntity.ListsColumns defaultSchema ∧ priceEntity.NumbersInsertion defaultSchema ∧
    priceEntity.NumbersUpdate defaultSchema := by
  have hv : priceDocument.WellKeyed := by decide
  have hbuild : (build priceDocument).result = .ok [priceEntity] := by rfl
  have hschema : ∀ c ∈ Entity.tableMarks, .char c ∉ (defaultSchema : Text) := by decide
  have hwords : ∀ name ∈ priceEntity.columns, ColumnWord name := by decide
  have hparameters : ∀ name ∈ priceEntity.columns, ¬ HoldsParameter name := by decide
  obtain ⟨hlists, hinsertion, hupdate⟩ :=
    statements_give_back hv hbuild List.mem_cons_self (by decide) hschema
  exact ⟨hv, hbuild, by decide, hschema, hlists.2 hwords, hinsertion.2 hparameters,
    hupdate.2 hparameters⟩

/-- A document with a comma in a name, and with a name that is a parameter. -/
def commaDocument : Value :=
  .object [("Order", .object [("properties", .object [("a, b", .object []), ("$9", .object [])])])]

def commaEntity : Entity := ⟨"Order", [⟨"a, b", .string, 0⟩, ⟨"$9", .string, 1⟩]⟩

/-- **Not every accepted document** has names that its statements give back. -/
theorem not_statements_give_back :
    ¬ ∀ v : Value, v.WellKeyed → ∀ entities, (build v).result = .ok entities →
      ∀ e ∈ entities, e.fields ≠ [] → e.ListsColumns defaultSchema ∧
        e.NumbersInsertion defaultSchema ∧ e.NumbersUpdate defaultSchema := by
  intro hall
  have hv : commaDocument.WellKeyed := by decide
  have hbuild : (build commaDocument).result = .ok [commaEntity] := by rfl
  obtain ⟨hlists, -, -⟩ := hall _ hv _ hbuild commaEntity List.mem_cons_self (by decide)
  have hread : listedColumns (commaEntity.insertion defaultSchema).text
      = [(.ofString "a" : Text), .ofString "b", .ofString "$9"] := by
    decide +kernel
  have hlength := congrArg List.length (hread.symm.trans hlists.inserted)
  exact absurd hlength (by decide)

end Schema

end EntityService
