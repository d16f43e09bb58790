import EntityService.Proofs.AttributeIdentifiers
import EntityService.Proofs.RowValues
import EntityService.Proofs.Tokens

/-!
# Arguments are read as expressions

Two kinds of arguments move values in a handler.  Those that are bound to the parameters of a
statement are attributes of the body, or the row identifier.  Those that make a model of a row set
each attribute to a value of the row.  All of them are texts of the program, and here they are read
as the generated language reads them.

It reads a name in its normal form, and only an identifier that is no keyword is a name to it.  One
call must not set a name twice.  So arguments need not have values although there are values for
them: an attribute may be no identifier, and two attributes may have one normal form.  What normal
forms are makes no difference here.

## What is here

* `usedName?` — the name that is meant by a spelled one.
* `argumentValue?`, `readArguments?` — reading what is bound to parameters.
* `rowArguments?`, `modelValues?` — reading what makes a model of a row.
* `lex_rowArguments` — the tokens of the arguments that make a model.
* `readArguments?_bind`, `readArguments?_update`, `rowArguments?_text` — what is read is what was
  written.
* `modelValues?_eq_some_iff` — when a model is made, and which values it has.
-/

set_option autoImplicit false

namespace EntityService

open EntityService.Names EntityService.Text

/-! ## Readers -/

/-- The name that is meant by a spelled one. -/
def usedName? (normal : String → String) (spelled : String) : Option String :=
  if isIdentifier spelled = true ∧ spelled ∉ keywords then some (normal spelled) else none

/-- The number that is written as a word. -/
def number? (word : String) : Option Nat :=
  if word.toList.all Char.isDigit then some (Nat.ofDigitChars 10 word.toList 0) else none

/-- A name and the index of a value of a row, from the tokens of an argument. -/
def rowArgument? : List Token → Option (String × Int)
  | [.word name, .mark '=', .word source, .mark '[', .word index, .mark ']'] =>
    if source = "row" then (number? index).map fun k => (name, Int.ofNat k) else none
  | _ => none

/-- The arguments that are listed in an expression. -/
def rowArguments? (expression : String) : Option (List (String × Int)) :=
  ((Text.tokens expression).splitOn (.mark ',')).mapM rowArgument?

section Values

variable {α : Type} (normal : String → String)

/-- The value of an argument that is bound to a parameter, given those of the attributes of the body
and the row identifier. -/
def argumentValue? (body : String → α) (key : α) (expression : String) : Option α :=
  match Text.tokens expression with
  | [.word object, .mark '.', .word name] =>
    if object = bodyName then (usedName? normal name).map body else none
  | [.word name] => if name = identifierName then some key else none
  | _ => none

/-- The values of the arguments that are bound to the parameters of a statement. -/
def readArguments? (body : String → α) (key : α) (arguments : List Argument) : Option (List α) :=
  (arguments.map Argument.text).mapM (argumentValue? normal body key)

/-- The attributes of a model that is made of a row, with their values, from the arguments that make
it. -/
def modelValues? (expression : String) (row : List α) : Option (List (String × α)) := do
  let arguments ← rowArguments? expression
  let named ← arguments.mapM fun a => (usedName? normal a.1).map fun name => (name, a.2)
  if (named.map (·.1)).Nodup then
    named.mapM fun a => (valueAt? row a.2).map fun value => (a.1, value)
  else none

end Values

/-! ## Names -/

theorem usedName?_of_isIdentifier {normal : String → String} {properties : List Text}
    {name : String} (h : name ∈ attributeNames properties) (hname : isIdentifier name = true) :
    usedName? normal name = some (normal name) := by
  obtain ⟨property, hp⟩ := exists_property h
  obtain ⟨k, hk, -⟩ := attributeNames_probed hp
  have hkeyword : name ∉ keywords := by
    rw [show name = underscored (baseAttribute property) k from hk]
    exact (underscored_not_reserved property k).1
  rw [usedName?, if_pos ⟨hname, hkeyword⟩]

theorem isIdentifier_of_usedName? {normal : String → String} {spelled name : String}
    (h : usedName? normal spelled = some name) : isIdentifier spelled = true := by
  rw [usedName?] at h
  split at h
  · rename_i hspelled
    exact hspelled.1
  · cases h

/-! ## Arguments of statements -/

section Bound

variable {α : Type} {normal : String → String} (body : String → α) (key : α)

theorem argumentValue?_member {name : String} (h : IsName name) :
    argumentValue? normal body key (Argument.member name).text
      = (usedName? normal name).map body := by
  have htokens : Text.tokens (Argument.member name).text
      = [.word bodyName, .mark '.', .word name] := by
    have hlex : lex [] 0 (name.toList ++ []) = .word name :: lex [] 0 [] :=
      lex_name h fun c hc => by cases hc
    rw [List.append_nil] at hlex
    rw [Argument.text, Text.tokens, String.toList_append, String.toList_append, List.append_assoc,
      lex_name ⟨by decide, by decide⟩ (endsName_of_head (c := '.') rfl rfl),
      lex_text "." (by decide), hlex]
    rfl
  rw [argumentValue?, htokens]
  exact if_pos rfl

variable {e : Entity} (h : ∀ name ∈ attributeNames e.columns, isIdentifier name = true)
  (schema : Text)

include h

theorem readArguments?_bind : readArguments? normal body key (e.resource schema).bindArguments
    = some ((e.resource schema).bindArguments.map
        (Argument.value (fun name => body (normal name)) key)) := by
  rw [readArguments?, Resource.bindArguments, List.map_map, List.map_map, List.mapM_map]
  refine mapM_eq_some_map fun m hm => ?_
  have hname : m.name ∈ attributeNames e.columns := by
    rw [← e.members_names]
    exact List.mem_map_of_mem hm
  rw [Function.comp_apply, Function.comp_apply, argumentValue?_member body key (e.isName_member hm),
    usedName?_of_isIdentifier hname (h _ hname), Option.map_some]
  rfl

theorem readArguments?_update : readArguments? normal body key (e.resource schema).updateArguments
    = some ((e.resource schema).updateArguments.map
        (Argument.value (fun name => body (normal name)) key)) := by
  have hbind : readArguments? normal body key _ = some _ :=
    readArguments?_bind body key h schema
  rw [Resource.updateArguments]
  split
  · rw [readArguments?] at hbind
    rw [readArguments?, List.map_append, List.map_append, List.mapM_append, hbind]
    rfl
  · rfl

end Bound

/-! ## Arguments of models -/

/-- The tokens of an attribute that is set to a value of a row. -/
def rowArgumentTokens (a : String × Int) : List Token :=
  [.word a.1, .mark '=', .word "row", .mark '['] ++ numberTokens a.2 ++ [.mark ']']

theorem lex_rowArgument {a : String × Int} (h : IsName a.1) (rest : List Char) :
    lex [] 0 ((a.1 ++ "=row[" ++ toString a.2 ++ "]").toList ++ rest)
      = rowArgumentTokens a ++ lex [] 0 rest := by
  simp only [String.toList_append, List.append_assoc]
  rw [lex_name h (endsName_of_head (c := '=') rfl rfl), lex_text "=row[" (by decide),
    lex_number a.2 (endsName_of_head (c := ']') rfl rfl), lex_text "]" (by decide)]
  simp only [rowArgumentTokens, List.append_assoc]
  rfl

/-- **The arguments that make a model** are read one after the other, with commas between them. -/
theorem lex_rowArguments {arguments : List (String × Int)} (h : ∀ a ∈ arguments, IsName a.1)
    (rest : List Char) :
    lex [] 0 ((", ".intercalate (arguments.map fun a =>
        a.1 ++ "=row[" ++ toString a.2 ++ "]")).toList ++ rest)
      = [Token.mark ','].intercalate (arguments.map rowArgumentTokens) ++ lex [] 0 rest := by
  induction arguments with
  | nil => rfl
  | cons a arguments ih =>
    rw [List.forall_mem_cons] at h
    cases arguments with
    | nil =>
      rw [List.map_singleton, List.map_singleton, String.intercalate_singleton,
        List.intercalate_singleton]
      exact lex_rowArgument h.1 rest
    | cons b arguments =>
      have hrest := ih h.2
      rw [List.map_cons, List.map_cons] at hrest
      rw [List.map_cons, List.map_cons, List.map_cons, List.map_cons,
        String.intercalate_cons_cons, List.intercalate_cons_cons, String.toList_append,
        String.toList_append, List.append_assoc, List.append_assoc, lex_rowArgument h.1,
        lex_text ", " (by decide), hrest]
      simp only [List.append_assoc]
      rfl

theorem number?_repr (n : Nat) : number? n.repr = some n := by
  have hall : (Nat.toDigits 10 n).all Char.isDigit = true :=
    List.all_eq_true.2 fun _ hc =>
    Nat.isDigit_of_mem_toDigits (by decide) (by decide) hc
  rw [number?, Nat.toList_repr, if_pos hall, Nat.ofDigitChars_ten_toDigits]

theorem rowArgument?_tokens {a : String × Int} (h : 0 ≤ a.2) :
    rowArgument? (rowArgumentTokens a) = some a := by
  have hindex : Int.ofNat a.2.toNat = a.2 := Int.toNat_of_nonneg h
  rw [rowArgumentTokens, numberTokens, if_pos h]
  simp only [List.cons_append, List.nil_append, rowArgument?, if_true, number?_repr,
    Option.map_some, hindex]

theorem comma_not_mem_rowArgumentTokens (a : String × Int) :
    Token.mark ',' ∉ rowArgumentTokens a := by
  rw [rowArgumentTokens, numberTokens]
  split <;> simp

/-- **The arguments that make a model are read back.** -/
theorem rowArguments?_text {r : Resource} (hne : r.rowArguments ≠ [])
    (h : ∀ a ∈ r.rowArguments, IsName a.1 ∧ 0 ≤ a.2) :
    rowArguments? r.rowArgumentsText = some r.rowArguments := by
  have htokens : Text.tokens r.rowArgumentsText
      = [Token.mark ','].intercalate (r.rowArguments.map rowArgumentTokens) := by
    have hlex := lex_rowArguments (fun a ha => (h a ha).1) []
    rw [List.append_nil, lex_nil] at hlex
    rw [Text.tokens, Resource.rowArgumentsText, hlex]
    exact List.append_nil _
  have hsplit : List.splitOn (Token.mark ',')
      ([Token.mark ','].intercalate (r.rowArguments.map rowArgumentTokens))
        = r.rowArguments.map rowArgumentTokens :=
    List.splitOn_intercalate (Token.mark ',')
      (List.forall_mem_map.2 fun a _ => comma_not_mem_rowArgumentTokens a)
      fun hnil => hne (List.map_eq_nil_iff.1 hnil)
  have hread := mapM_eq_some_map (g := id) fun a ha => rowArgument?_tokens (h a ha).2
  rw [List.map_id] at hread
  rw [rowArguments?, htokens, hsplit, List.mapM_map]
  exact hread

/-! ## Models -/

theorem mapM_map_eq {β γ δ : Type} (f : β → Option γ) (g : γ → δ) (items : List β) :
    items.mapM (fun item => (f item).map g) = (items.mapM f).map (List.map g) := by
  induction items with
  | nil => rfl
  | cons item items ih =>
    rw [List.mapM_cons, List.mapM_cons, ih]
    cases f item with
    | none => rfl
    | some result =>
      cases items.mapM f with
      | none => rfl
      | some results => rfl

variable {α : Type} {normal : String → String} {e : Entity} (schema : Text)

theorem rowArguments_ne_nil (hfields : e.fields ≠ []) :
    (e.resource schema).rowArguments ≠ [] := by
  have hlength := e.length_members
  intro hnil
  have hmembers : e.members = [] := List.map_eq_nil_iff.1 hnil
  rw [hmembers] at hlength
  exact hfields (List.length_eq_zero_iff.1 hlength.symm)

theorem isName_rowArguments (h : e.Numbered) :
    ∀ a ∈ (e.resource schema).rowArguments, IsName a.1 ∧ 0 ≤ a.2 := by
  intro a ha
  obtain ⟨m, hm, rfl⟩ := List.mem_map.1 ha
  obtain ⟨k, hk, rfl⟩ := List.getElem_of_mem hm
  exact ⟨e.isName_member hm, (h.position_eq hk).symm ▸ Int.natCast_nonneg k⟩

/-- **When a model is made of a row.**  It takes attributes that are identifiers with different
normal forms.  They have the values that their indices pick. -/
theorem modelValues?_eq_some_iff (hnumbered : e.Numbered) (hfields : e.fields ≠ []) {row : List α}
    {values : List (String × α)} :
    modelValues? normal (e.resource schema).rowArgumentsText row = some values ↔
      (∀ name ∈ attributeNames e.columns, isIdentifier name = true) ∧
      ((attributeNames e.columns).map normal).Nodup ∧
      ∃ plain, (e.resource schema).attributeValues? row = some plain ∧
        plain.map (fun p => (normal p.1, p.2)) = values := by
  have hread := rowArguments?_text (rowArguments_ne_nil schema hfields)
    (isName_rowArguments schema hnumbered)
  have hnames : attributeNames e.columns = (e.resource schema).rowArguments.map (·.1) := by
    rw [← e.members_names, Resource.rowArguments, List.map_map]
    rfl
  have hkeys : ((e.resource schema).rowArguments.map fun a => (normal a.1, a.2)).map (·.1)
      = (attributeNames e.columns).map normal := by
    rw [hnames, List.map_map, List.map_map]
    rfl
  have hvalues : ((e.resource schema).rowArguments.map fun a => (normal a.1, a.2)).mapM
      (fun a => (valueAt? row a.2).map fun value => (a.1, value))
        = ((e.resource schema).attributeValues? row).map
          (List.map fun p => (normal p.1, p.2)) := by
    rw [List.mapM_map, Resource.attributeValues?, ← mapM_map_eq]
    congr 1
    funext a
    rw [Option.map_map]
    rfl
  have hnamed : (∀ name ∈ attributeNames e.columns, isIdentifier name = true) →
      (e.resource schema).rowArguments.mapM
        (fun a => (usedName? normal a.1).map fun name => (name, a.2))
      = some ((e.resource schema).rowArguments.map fun a => (normal a.1, a.2)) := by
    intro hall
    refine mapM_eq_some_map fun a ha => ?_
    have hname : a.1 ∈ attributeNames e.columns := hnames ▸ List.mem_map_of_mem ha
    rw [usedName?_of_isIdentifier hname (hall _ hname), Option.map_some]
  rw [modelValues?, hread]
  simp only [Option.bind_eq_bind, Option.bind_some, Option.bind_eq_some_iff]
  constructor
  · rintro ⟨named, hused, h⟩
    have hall : ∀ name ∈ attributeNames e.columns, isIdentifier name = true := by
      intro name hname
      rw [hnames] at hname
      obtain ⟨a, ha, rfl⟩ := List.mem_map.1 hname
      obtain ⟨pair, -, hpair⟩ := exists_of_forall₂ (forall₂_of_mapM_eq_some hused) ha
      obtain ⟨name, hmeant, -⟩ := Option.map_eq_some_iff.1 hpair
      exact isIdentifier_of_usedName? hmeant
    rw [hnamed hall, Option.some_inj] at hused
    subst hused
    split at h
    · rename_i hnodup
      rw [hkeys] at hnodup
      rw [hvalues, Option.map_eq_some_iff] at h
      exact ⟨hall, hnodup, h⟩
    · cases h
  · rintro ⟨hall, hnodup, hplain⟩
    refine ⟨_, hnamed hall, ?_⟩
    rw [hkeys, if_pos hnodup, hvalues, Option.map_eq_some_iff]
    exact hplain

end EntityService
