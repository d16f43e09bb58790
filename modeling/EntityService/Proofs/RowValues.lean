import EntityService.Proofs.AttributeNames
import EntityService.Proofs.FirstFault
import EntityService.Proofs.TopLevel

/-!
# Values come back

The value of an attribute travels through the parameters of a statement into a column, and through
the columns of a selection and the indices of a row back into an attribute.  Each leg is numbered on
its own: by the positions of the fields, by the order of a list, or by the names of the columns.
This file says what the statements and the arguments of a handler do with values, whatever the
values are, and follows the values of an entity along each leg.  That these statements and arguments
are the ones that are read from the texts of the program is another matter.

## What is here

* `Statement.stored?`, `Statement.compared?`, `Statement.selected?` — what a statement does with
  the arguments that are bound to it, or with a row.  An asterisk is replaced by `Statement.expand`.
* `Argument.value`, `Resource.attributeValues?` — what a handler binds, and what it makes of a row.
* `Entity.Numbered` — the invariant: the position of a field is its place among the fields.
* `insertion_stored`, `update_stored`, `selection_selected`, `attributeValues?_row` — one leg each.
* `Schema.Describes.numbered`, `Schema.Describes.map_fields` — the fields of the entities of a
  document.
-/

set_option autoImplicit false

namespace EntityService

open EntityService.Sql

/-! ## What statements do with values -/

section Reading

variable {α : Type}

/-- The value at an index, if there is one. -/
def valueAt? (values : List α) (index : Int) : Option α :=
  if index < 0 then none else values[index.toNat]?

namespace Sql.Statement

/-- What a statement stores: under each listed column the argument of its parameter.  Parameters are
numbered from one. -/
def stored? (arguments : List α) : Statement → Option (Mapping Text α)
  | insert _ columns | update _ columns _ =>
    columns.mapM fun c => (valueAt? arguments (c.2 - 1)).map fun value => (c.1, value)
  | _ => none

/-- The column that picks the row of a statement, and the argument that it is compared with. -/
def compared? (arguments : List α) : Statement → Option (Text × α)
  | update _ _ key | delete _ key =>
    (valueAt? arguments (key.2 - 1)).map fun value => (key.1, value)
  | _ => none

/-- The columns of the table that a statement makes. -/
def madeColumns : Statement → List Text
  | createTable _ columns => columns.map (·.1)
  | _ => []

/-- The columns that a list names.  An asterisk stands for all columns of the table. -/
def expand (tableColumns columns : List Text) : List Text :=
  columns.flatMap fun c => if c = .ofString "*" then tableColumns else [c]

/-- What a selection gives of a row of a table. -/
def selected? (tableColumns : List Text) (row : Mapping Text α) : Statement → Option (List α)
  | select _ columns => (expand tableColumns columns).mapM (Mapping.get? row)
  | _ => none

theorem expand_append (tableColumns before after : List Text) :
    expand tableColumns (before ++ after)
      = expand tableColumns before ++ expand tableColumns after :=
  List.flatMap_append

theorem expand_asterisk (tableColumns after : List Text) :
    expand tableColumns (.ofString "*" :: after) = tableColumns ++ expand tableColumns after := by
  rw [expand, List.flatMap_cons, if_pos rfl, ← expand]

theorem expand_of_not_mem {tableColumns columns : List Text} (h : .ofString "*" ∉ columns) :
    expand tableColumns columns = columns := by
  induction columns with
  | nil => rfl
  | cons column columns ih =>
    rw [List.mem_cons, not_or] at h
    rw [expand, List.flatMap_cons, if_neg (Ne.symm h.1), ← expand, ih h.2, List.singleton_append]

/-- The first column comes again in the place of an asterisk behind it. -/
theorem exists_expand_again {columns : List Text} (hcolumns : columns.Nodup)
    (h : .ofString "*" ∈ columns.tail) :
    ∃ first k, 0 < k ∧ k < columns.length ∧ (expand columns columns)[0]? = some first ∧
      (expand columns columns)[k]? = some first := by
  obtain ⟨before, after, htail⟩ := List.append_of_mem h
  obtain ⟨first, others, hfirst⟩ := List.exists_cons_of_ne_nil fun hnil =>
    List.not_mem_nil (hnil ▸ h : Text.ofString "*" ∈ ([] : List Text).tail)
  have hsplit : columns = (first :: before) ++ .ofString "*" :: after := by
    rw [hfirst, List.tail_cons] at htail
    rw [hfirst, htail, List.cons_append]
  have hbefore : .ofString "*" ∉ first :: before := fun hearlier =>
    List.disjoint_of_nodup_append (hsplit ▸ hcolumns) hearlier List.mem_cons_self
  have hexpand : expand columns columns
      = (first :: before) ++ (columns ++ expand columns after) := by
    nth_rewrite 2 [hsplit]
    rw [expand_append, expand_of_not_mem hbefore, expand_asterisk]
  refine ⟨first, before.length + 1, Nat.succ_pos _, ?_, ?_, ?_⟩
  · rw [hsplit, List.length_append, List.length_cons, List.length_cons]
    omega
  · rw [hexpand]
    rfl
  · rw [hexpand, List.getElem?_append_right (by rw [List.length_cons]), List.length_cons,
      Nat.sub_self, hfirst]
    rfl

end Sql.Statement

/-- The value of an argument, given those of the attributes of the body and the row identifier. -/
def Argument.value (body : String → α) (key : α) : Argument → α
  | .member name => body name
  | .identifier => key

/-- The attributes of a model that is made from a row, with the values that their indices pick.
Whether the arguments that make the model can be read is left aside. -/
def Resource.attributeValues? (r : Resource) (row : List α) : Option (List (String × α)) :=
  r.rowArguments.mapM fun a => (valueAt? row a.2).map fun value => (a.1, value)

/-! ## Positions -/

theorem mapM_eq_some_map {β γ : Type} {f : β → Option γ} {g : β → γ} {items : List β}
    (h : ∀ item ∈ items, f item = some (g item)) : items.mapM f = some (items.map g) := by
  induction items with
  | nil => rfl
  | cons item rest ih =>
    rw [List.mapM_cons, h item List.mem_cons_self,
      ih fun other hother => h other (List.mem_cons_of_mem _ hother)]
    rfl

theorem forall₂_of_mapM_eq_some {β γ : Type} {f : β → Option γ} {items : List β}
    {results : List γ} (h : items.mapM f = some results) :
    List.Forall₂ (fun item result => f item = some result) items results := by
  induction items generalizing results with
  | nil =>
    cases h
    exact .nil
  | cons item rest ih =>
    rw [List.mapM_cons] at h
    obtain ⟨result, hitem, h⟩ := Option.bind_eq_some_iff.1 h
    obtain ⟨others, hrest, h⟩ := Option.bind_eq_some_iff.1 h
    cases h
    exact .cons hitem (ih hrest)

theorem getElem?_of_mapM_eq_some {β γ : Type} {f : β → Option γ} {items : List β}
    {results : List γ} (h : items.mapM f = some results) (k : Nat) :
    results[k]? = items[k]?.bind f := by
  have hall := forall₂_of_mapM_eq_some h
  clear h
  induction hall generalizing k with
  | nil => rfl
  | cons hfirst _ ih =>
    cases k with
    | zero => exact hfirst.symm
    | succ k => exact ih k

theorem exists_of_forall₂ {β γ : Type} {R : β → γ → Prop} {items : List β} {results : List γ}
    (h : List.Forall₂ R items results) {item : β} (hitem : item ∈ items) :
    ∃ result ∈ results, R item result := by
  induction h with
  | nil => exact absurd hitem List.not_mem_nil
  | cons hfirst _ ih =>
    rcases List.mem_cons.1 hitem with rfl | hitem
    · exact ⟨_, List.mem_cons_self, hfirst⟩
    · obtain ⟨result, hresult, hR⟩ := ih hitem
      exact ⟨result, List.mem_cons_of_mem _ hresult, hR⟩

/-- What is stored stands under the listed columns. -/
theorem keys_of_stored? {table : Text} {columns : List (Text × Int)} {arguments : List α}
    {stored : Mapping Text α}
    (h : (Statement.insert table columns).stored? arguments = some stored) :
    columns.map (·.1) = Mapping.keys stored := by
  rw [Mapping.keys, ← List.forall₂_eq_eq_eq, List.forall₂_map_left_iff,
    List.forall₂_map_right_iff]
  refine (forall₂_of_mapM_eq_some h).imp fun c pair hpair => ?_
  obtain ⟨value, -, rfl⟩ := Option.map_eq_some_iff.1 hpair
  rfl

theorem valueAt?_natCast (values : List α) (k : Nat) : valueAt? values k = values[k]? := by
  rw [valueAt?, if_neg (by omega), Int.toNat_natCast]

end Reading

namespace Entity

variable {e : Entity} (schema : Text)

/-- The position of a field is its place among the fields. -/
def Numbered (e : Entity) : Prop := ∀ (k : Nat) (f : Field), e.fields[k]? = some f → f.position = k

theorem length_members (e : Entity) : e.members.length = e.fields.length := by
  rw [members, List.length_map, List.length_zip, Names.length_attributeNames, columns,
    List.length_map, Nat.min_self]

theorem members_eq (e : Entity) : e.members
    = (e.fields.zip (Names.attributeNames e.columns)).map fun p =>
      ⟨p.1.name, p.2, p.1.scalar, p.1.position⟩ := rfl

/-- A member has what its field has. -/
theorem map_members {β : Type} (g : Field → β) :
    e.members.map (fun m => g ⟨m.column, m.scalar, m.position⟩) = e.fields.map g := by
  have hlength : e.fields.length ≤ (Names.attributeNames e.columns).length := by
    rw [Names.length_attributeNames, columns, List.length_map]
  rw [members_eq, List.map_map]
  refine Eq.trans ?_ (congrArg (List.map g) (List.map_fst_zip hlength))
  rw [List.map_map]
  rfl

theorem members_names (e : Entity) :
    e.members.map (·.name) = Names.attributeNames e.columns := by
  have hlength : (Names.attributeNames e.columns).length ≤ e.fields.length := by
    rw [Names.length_attributeNames, columns, List.length_map]
  rw [members_eq, List.map_map]
  exact List.map_snd_zip hlength

theorem members_columns (e : Entity) : e.members.map (·.column) = e.columns :=
  e.map_members (·.name)

theorem boundColumns_eq (e : Entity) :
    e.boundColumns = e.members.map fun m => (m.column, m.position + 1) :=
  (e.map_members fun f => (f.name, f.parameter)).symm

theorem Numbered.position_eq (h : e.Numbered) {k : Nat} (hk : k < e.members.length) :
    e.members[k].position = k := by
  have hfields := e.map_members fun f => f
  rw [List.map_id'] at hfields
  have hfield : e.fields[k]? = some ⟨e.members[k].column, e.members[k].scalar,
      e.members[k].position⟩ := by
    rw [← hfields, List.getElem?_map, List.getElem?_eq_getElem hk, Option.map_some]
  exact h k _ hfield

/-- Whatever list goes along the members has the value of a member at its position. -/
theorem valueAt?_position (h : e.Numbered) {α : Type} (g : Member → α) {m : Member}
    (hm : m ∈ e.members) (more : List α) :
    valueAt? (e.members.map g ++ more) m.position = some (g m) := by
  obtain ⟨k, hk, rfl⟩ := List.getElem_of_mem hm
  rw [h.position_eq hk, valueAt?_natCast, List.getElem?_append_left (by rwa [List.length_map]),
    List.getElem?_map, List.getElem?_eq_getElem hk, Option.map_some]

/-! ## The legs -/

section Legs

variable {α : Type} (h : e.Numbered) (body : String → α) (key : α)

theorem bindArguments_values : (e.resource schema).bindArguments.map (Argument.value body key)
    = e.members.map fun m => body m.name := by
  rw [Resource.bindArguments, List.map_map]
  rfl

theorem updateArguments_values (hfields : e.fields ≠ []) :
    (e.resource schema).updateArguments.map (Argument.value body key)
      = (e.members.map fun m => body m.name) ++ [key] := by
  rw [e.updateArguments_of_fields schema hfields, List.map_append, bindArguments_values]
  rfl

/-- The columns that a model's values are stored under. -/
def storedValues (e : Entity) (body : String → α) : Mapping Text α :=
  e.members.map fun m => (m.column, body m.name)

include h

/-- Each column takes the value of its attribute, if the values of the attributes come first. -/
theorem boundColumns_stored (more : List α) :
    e.boundColumns.mapM (fun c =>
      (valueAt? ((e.members.map fun m => body m.name) ++ more) (c.2 - 1)).map fun value =>
        (c.1, value)) = some (e.storedValues body) := by
  rw [boundColumns_eq, List.mapM_map]
  refine mapM_eq_some_map fun m hm => ?_
  rw [Function.comp_apply, Int.add_sub_cancel,
    valueAt?_position h (fun m => body m.name) hm, Option.map_some]

theorem insertion_stored : (e.insertion schema).stored?
    ((e.resource schema).bindArguments.map (Argument.value body key))
      = some (e.storedValues body) := by
  have hstored := boundColumns_stored h body []
  rw [List.append_nil] at hstored
  rw [bindArguments_values]
  exact hstored

/-- **An update.**  It stores the values of the attributes, and what picks the row is the value
after them. -/
theorem update_stored (hfields : e.fields ≠ []) :
    ∃ statement, e.update schema = .ok statement ∧
      statement.stored? ((e.resource schema).updateArguments.map (Argument.value body key))
        = some (e.storedValues body) ∧
      statement.compared? ((e.resource schema).updateArguments.map (Argument.value body key))
        = some (.ofString identifierName, key) := by
  refine ⟨_, update_eq_ok e schema hfields, ?_⟩
  rw [updateArguments_values schema body key hfields]
  constructor
  · exact boundColumns_stored h body [key]
  · have hlast : valueAt? ((e.members.map fun m => body m.name) ++ [key])
        (e.identifierParameter - 1) = some key := by
      rw [identifierParameter, Int.add_sub_cancel, valueAt?_natCast, ← length_members,
        ← List.length_map (fun m : Member => body m.name), List.getElem?_concat_length]
    rw [Statement.compared?, hlast, Option.map_some]

/-- The parameters of the columns count from one. -/
theorem boundColumns_parameters :
    e.boundColumns.map (·.2) = (List.range e.fields.length).map fun k : Nat => (k : Int) + 1 := by
  refine List.ext_getElem? fun k => ?_
  rw [boundColumns, List.map_map, List.getElem?_map, List.getElem?_map]
  by_cases hk : k < e.fields.length
  · have hposition : e.fields[k].position = k := h k _ (List.getElem?_eq_getElem hk)
    rw [List.getElem?_eq_getElem hk, List.getElem?_range hk, Option.map_some, Option.map_some,
      Function.comp_apply, Field.parameter, hposition]
  · have hle : e.fields.length ≤ k := Nat.le_of_not_lt hk
    rw [List.getElem?_eq_none hle, List.getElem?_eq_none (by rwa [List.length_range])]
    rfl

/-- **A row.**  Each attribute is read from the place of its own value, whatever comes behind. -/
theorem attributeValues?_row (more : List α) :
    (e.resource schema).attributeValues? ((e.members.map fun m => body m.name) ++ more)
      = some (e.members.map fun m => (m.name, body m.name)) := by
  rw [Resource.attributeValues?, Resource.rowArguments, List.mapM_map]
  refine mapM_eq_some_map fun m hm => ?_
  rw [Function.comp_apply, valueAt?_position h (fun m => body m.name) hm, Option.map_some]

omit h

/-- What is stored is found under its column. -/
theorem mapM_get?_storedValues (hcolumns : e.columns.Nodup) :
    e.columns.mapM (Mapping.get? (e.storedValues body))
      = some (e.members.map fun m => body m.name) := by
  have hkeys : (Mapping.keys (e.storedValues body)).Nodup := by
    rw [Mapping.keys, storedValues, List.map_map]
    exact e.members_columns ▸ hcolumns
  rw [← members_columns, List.mapM_map]
  exact mapM_eq_some_map fun m hm => Mapping.get?_of_mem hkeys (List.mem_map_of_mem hm)

/-- **A selection.**  It gives the stored values in the order of the attributes, and perhaps more
behind them: an asterisk in the first place gives all columns, and then the others come again. -/
theorem selection_selected (hcolumns : e.columns.Nodup)
    (hasterisk : .ofString "*" ∉ e.columns.tail) :
    ∃ more, (Statement.select (e.tableName schema) e.columns).selected? e.columns
        (e.storedValues body) = some ((e.members.map fun m => body m.name) ++ more) := by
  have hall := mapM_get?_storedValues body hcolumns
  rw [Statement.selected?]
  generalize e.columns = columns at hall hasterisk ⊢
  cases columns with
  | nil => exact ⟨[], by rwa [List.append_nil]⟩
  | cons first others =>
    rw [List.tail_cons] at hasterisk
    have hothers : Statement.expand (first :: others) others = others :=
      Statement.expand_of_not_mem hasterisk
    rw [Statement.expand, List.flatMap_cons, ← Statement.expand, hothers]
    split
    · have hrest := hall
      rw [List.mapM_cons, Option.bind_eq_bind] at hrest
      obtain ⟨value, -, hrest⟩ := Option.bind_eq_some_iff.1 hrest
      obtain ⟨more, hmore, -⟩ := Option.bind_eq_some_iff.1 hrest
      refine ⟨more, ?_⟩
      rw [List.mapM_append, hall, hmore]
      rfl
    · exact ⟨[], by rwa [List.append_nil]⟩

end Legs

end Entity

/-! ## Documents -/

namespace Schema

open EntityService.Json

theorem Describes.numbered {member : Text × Value} {e : Entity} (h : Describes member e) :
    e.Numbered := by
  intro k f hf
  rw [h.fields, List.getElem?_mapIdx] at hf
  obtain ⟨p, -, rfl⟩ := Option.map_eq_some_iff.1 hf
  rfl

theorem Describes.map_fields {member : Text × Value} {e : Entity} (h : Describes member e) :
    e.fields.map (fun f => (f.name, f.scalar))
      = (nodesOf member.2).map fun p => (p.1, kindOf p.2) := by
  refine List.ext_getElem? fun k => ?_
  simp only [h.fields, List.getElem?_map, List.getElem?_mapIdx, Option.map_map, Function.comp_def]

theorem Describes.columns {member : Text × Value} {e : Entity} (h : Describes member e) :
    e.columns = Mapping.keys (nodesOf member.2) := by
  have hnames := congrArg (List.map Prod.fst) h.map_fields
  rw [List.map_map, List.map_map] at hnames
  exact hnames

theorem nodesOf_wellKeyed {v : Value} (hv : v.WellKeyed) : (Value.object (nodesOf v)).WellKeyed := by
  unfold nodesOf
  split
  · split
    · rename_i definition nodes hget
      exact hv.of_mem (Mapping.mem_of_get? hget)
    · exact .empty
  · exact .empty

theorem get?_of_nodesOf {definition : Mapping Text Value} (h : nodesOf (.object definition) ≠ []) :
    Mapping.get? definition (.ofString "properties")
      = some (.object (nodesOf (.object definition))) := by
  cases hget : Mapping.get? definition (.ofString "properties") with
  | none => exact absurd (by rw [nodesOf, hget]) h
  | some v =>
    cases v with
    | object nodes => rw [nodesOf, hget]
    | _ => exact absurd (by rw [nodesOf, hget]) h

end Schema

end EntityService
