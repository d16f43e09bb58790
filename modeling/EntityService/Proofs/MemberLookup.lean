import EntityService.Proofs.AttributeShape
import EntityService.Proofs.RowValues

/-!
# Looking up attributes by two names

When a model is made from values under names, an attribute takes the value under its column if
there is one, and else the value under its own name.  A row is handed over under the names of the
attributes.  So an attribute takes the value of another one if that one is called like its column.

This does happen.  The search for a free attribute name keeps clear of the properties that keep
their names, but not of the others, and a property that starts with `model_` never keeps its name.

## What is here

* `Member.filled?` — the value that an attribute takes.
* `Entity.Apart` — no attribute is called like the column of another one.
* `Entity.Crowded` — too many properties want a name that starts with `model_` and is the column of
  one of them.
* `apart_iff` — an entity is apart unless it is crowded.
* `filled?_of_apart`, `filled?_of_cross` — what attributes take in either case.
* `lookup_crosses_iff_crowded` — the main statement, with `modelEntity_crosses`, an entity that is
  crowded.
-/

set_option autoImplicit false

namespace EntityService

open EntityService.Names

/-- The value that an attribute takes from values under names: the one under its column, or else
the one under its own name. -/
def Member.filled? {α : Type} (m : Member) (values : List (String × α)) : Option α :=
  (m.alias?.bind (Mapping.get? (values.map fun p => (Text.ofString p.1, p.2)))).or
    (Mapping.get? (values.map fun p => (Text.ofString p.1, p.2)) m.name)

namespace Entity

/-- No attribute is called like the column of another one. -/
def Apart (e : Entity) : Prop :=
  ∀ m ∈ e.members, ∀ m' ∈ e.members, m.column ≠ m'.column → m'.column ≠ .ofString m.name

/-- One of the columns starts with `model_`, and more properties want its name than there is room
for below it: more than `k` of them have base names that become it by at most `k` underscores. -/
def Crowded (e : Entity) : Prop :=
  ∃ name : String, Text.ofString name ∈ e.columns ∧ "model_".toList <+: name.toList ∧
    ∃ k, k < (within e.columns name k).length

variable {e : Entity}

/-! ## Names -/

theorem namedProperties_columns (e : Entity) :
    namedProperties e.columns = e.members.map fun m => (m.column, m.name) := by
  rw [namedProperties, members_eq, List.map_map]
  nth_rewrite 1 [columns]
  rw [List.zip_map_left]
  rfl

theorem mem_namedProperties {m : Member} (hm : m ∈ e.members) :
    (m.column, m.name) ∈ namedProperties e.columns := by
  rw [namedProperties_columns]
  exact List.mem_map_of_mem hm

theorem names_nodup (h : e.columns.Nodup) : (e.members.map (·.name)).Nodup := by
  rw [members_names]
  exact attributeNames_nodup h

theorem eq_of_name_eq (h : e.columns.Nodup) {m m' : Member} (hm : m ∈ e.members)
    (hm' : m' ∈ e.members) (hname : m.name = m'.name) : m = m' :=
  List.inj_on_of_nodup_map (names_nodup h) hm hm' hname

theorem eq_of_column_eq (h : e.columns.Nodup) {m m' : Member} (hm : m ∈ e.members)
    (hm' : m' ∈ e.members) (hcolumn : m.column = m'.column) : m = m' := by
  rw [← members_columns] at h
  exact List.inj_on_of_nodup_map h hm hm' hcolumn

/-- The attribute of a property that starts with `model_` is not called like it. -/
theorem name_ne_of_prefix {m : Member} (hm : m ∈ e.members)
    (hstart : "model_".toList <+: m.name.toList) : m.column ≠ .ofString m.name := by
  intro hcolumn
  have hreserved : isModelReserved m.name.toList = true := by
    rw [isModelReserved, List.isPrefixOf_iff_prefix.2 hstart, Bool.or_true]
  obtain ⟨k, hk, -⟩ := attributeNames_probed (mem_namedProperties hm)
  rw [hcolumn, baseAttribute_of_isFit (isFit_attribute (mem_namedProperties hm)),
    if_pos hreserved, underscored_underscored] at hk
  have hzero := underscored_right_inj.1 ((underscored_zero m.name).trans hk)
  omega

/-- An attribute that is called like another one's column starts with `model_`. -/
theorem prefix_of_cross (h : e.columns.Nodup) {m m' : Member} (hm : m ∈ e.members)
    (hm' : m' ∈ e.members) (hne : m.column ≠ m'.column) (hcross : m'.column = .ofString m.name) :
    "model_".toList <+: m.name.toList := by
  have hfit := isFit_attribute (mem_namedProperties hm)
  cases hreserved : isModelReserved m.name.toList with
  | true =>
    obtain ⟨k, hk, -⟩ := attributeNames_probed (mem_namedProperties hm)
    have hname : m.name = underscored (baseAttribute m.column) k := hk
    rw [hname] at hreserved ⊢
    exact prefix_of_reserved hreserved
  | false =>
    have hkept : isKept m'.column = true := by
      rw [hcross]
      exact (isKept_iff hfit).2 hreserved
    have hname : m'.name = m.name := by
      have hbase := attribute_kept (mem_namedProperties hm') hkept
      rwa [hcross, baseAttribute_of_isFit hfit, hreserved, if_neg Bool.false_ne_true,
        underscored_zero] at hbase
    exact absurd (congrArg Member.column (eq_of_name_eq h hm hm' hname.symm)) hne

/-- **When names cross.**  It takes a column that starts with `model_`, and a crowd below it. -/
theorem apart_iff (h : e.columns.Nodup) : e.Apart ↔ ¬ e.Crowded := by
  constructor
  · rintro hapart ⟨name, hcolumn, hstart, k, hk⟩
    have hname := (mem_attributeNames_iff h).2 ⟨k, hk⟩
    rw [← members_names] at hname
    rw [← members_columns] at hcolumn
    obtain ⟨m, hm, rfl⟩ := List.mem_map.1 hname
    obtain ⟨m', hm', hcross⟩ := List.mem_map.1 hcolumn
    refine hapart m hm m' hm' (fun hsame => ?_) hcross
    exact name_ne_of_prefix hm hstart (hsame.trans hcross)
  · intro hcrowded m hm m' hm' hne hcross
    refine hcrowded ⟨m.name, ?_, prefix_of_cross h hm hm' hne hcross, ?_⟩
    · rw [← hcross, ← members_columns]
      exact List.mem_map_of_mem hm'
    · refine (mem_attributeNames_iff h).1 ?_
      rw [← members_names]
      exact List.mem_map_of_mem hm

/-! ## Values -/

section Values

variable {α : Type} {schema : Text} {row : List α} {values : List (String × α)}
  (hvalues : (e.resource schema).attributeValues? row = some values)

include hvalues

/-- Values from a row stand under the names of the attributes. -/
theorem keys_values : Mapping.keys (values.map fun p => (Text.ofString p.1, p.2))
    = (e.members.map (·.name)).map Text.ofString := by
  rw [Resource.attributeValues?, Resource.rowArguments, List.mapM_map] at hvalues
  rw [Mapping.keys, List.map_map, List.map_map]
  rw [← List.forall₂_eq_eq_eq, List.forall₂_map_left_iff, List.forall₂_map_right_iff]
  refine (forall₂_of_mapM_eq_some hvalues).flip.imp fun p m hp => ?_
  obtain ⟨value, -, rfl⟩ := Option.map_eq_some_iff.1 hp
  rfl

/-- Under the name of an attribute stands the value at its position. -/
theorem get?_values (h : e.columns.Nodup) {m : Member} (hm : m ∈ e.members) :
    Mapping.get? (values.map fun p => (Text.ofString p.1, p.2)) (.ofString m.name)
        = valueAt? row m.position ∧ (valueAt? row m.position).isSome = true := by
  have hkeys := keys_values hvalues
  rw [Resource.attributeValues?, Resource.rowArguments, List.mapM_map] at hvalues
  obtain ⟨p, hp, hmp⟩ := exists_of_forall₂ (forall₂_of_mapM_eq_some hvalues) hm
  obtain ⟨value, hvalue, rfl⟩ := Option.map_eq_some_iff.1 hmp
  have hnodup : (Mapping.keys (values.map fun p => (Text.ofString p.1, p.2))).Nodup := by
    rw [hkeys]
    exact (names_nodup h).map fun a b hab => Text.ofString_inj.1 hab
  have hfound := Mapping.get?_of_mem hnodup (List.mem_map_of_mem hp)
  rw [hvalue]
  exact ⟨hfound, rfl⟩

theorem filled?_of_apart (h : e.columns.Nodup) (hapart : e.Apart) {m : Member}
    (hm : m ∈ e.members) : m.filled? values = valueAt? row m.position := by
  rw [Member.filled?, (get?_values hvalues h hm).1, Member.alias?]
  split
  · rfl
  · rename_i hname
    have hnone : Mapping.get? (values.map fun p => (Text.ofString p.1, p.2)) m.column = none := by
      rw [Mapping.get?_eq_none_iff, keys_values hvalues]
      intro hcolumn
      obtain ⟨name, hmem, hcolumn⟩ := List.mem_map.1 hcolumn
      obtain ⟨m', hm', rfl⟩ := List.mem_map.1 hmem
      refine hapart m' hm' m hm (fun hsame => hname ?_) hcolumn.symm
      rw [← hcolumn, eq_of_column_eq h hm' hm hsame]
    rw [Option.bind_some, hnone, Option.none_or]

/-- An attribute whose column is called like another attribute takes the value of that one. -/
theorem filled?_of_cross (h : e.columns.Nodup) {m m' : Member} (hm : m ∈ e.members)
    (hm' : m' ∈ e.members) (hne : m.column ≠ m'.column) (hcross : m'.column = .ofString m.name) :
    m'.filled? values = valueAt? row m.position := by
  obtain ⟨hvalue, hsome⟩ := get?_values hvalues h hm
  have halias : m'.alias? = some (.ofString m.name) := by
    rw [Member.alias?, if_neg, hcross]
    intro hname
    rw [hcross, Text.ofString_inj] at hname
    exact hne (congrArg Member.column (eq_of_name_eq h hm hm' hname))
  rw [Member.filled?, halias, Option.bind_some, hvalue]
  exact Option.or_of_isSome hsome

end Values

/-- **Attributes take their own values unless names are crowded.**  If they are, there is a pair of
attributes of which one takes the value of the other, whatever the row. -/
theorem lookup_crosses_iff_crowded (h : e.columns.Nodup) (schema : Text) :
    (e.Apart ↔ ¬ e.Crowded) ∧
    (¬ e.Crowded → ∀ {α : Type} (row : List α) (values : List (String × α)),
      (e.resource schema).attributeValues? row = some values →
        ∀ m ∈ e.members, m.filled? values = valueAt? row m.position) ∧
    (e.Crowded → ∃ m ∈ e.members, ∃ m' ∈ e.members, m.column ≠ m'.column ∧
      ∀ {α : Type} (row : List α) (values : List (String × α)),
        (e.resource schema).attributeValues? row = some values →
          m'.filled? values = valueAt? row m.position) := by
  refine ⟨apart_iff h, fun hfree α row values hvalues m hm => ?_, fun hcrowded => ?_⟩
  · exact filled?_of_apart hvalues h ((apart_iff h).2 hfree) hm
  · have hcross : ¬ e.Apart := fun hapart => (apart_iff h).1 hapart hcrowded
    simp only [Apart, not_forall, not_not] at hcross
    obtain ⟨m, hm, m', hm', hne, hcross⟩ := hcross
    exact ⟨m, hm, m', hm', hne, fun row values hvalues =>
      filled?_of_cross hvalues h hm hm' hne hcross⟩

instance (e : Entity) : Decidable e.Apart :=
  inferInstanceAs (Decidable (∀ m ∈ e.members, ∀ m' ∈ e.members, m.column ≠ m'.column →
    m'.column ≠ .ofString m.name))

/-- An entity of which the first attribute is called like the second column. -/
def modelEntity : Entity := .ofProperties "Item" [("model_a", .string), ("model_a_", .string)]

theorem modelEntity_crowded : modelEntity.columns.Nodup ∧ modelEntity.Crowded ∧
    ∃ m ∈ modelEntity.members, ∃ m' ∈ modelEntity.members, m.column ≠ m'.column ∧
      ∀ {α : Type} (row : List α) (values : List (String × α)),
        (modelEntity.resource "public").attributeValues? row = some values →
          m'.filled? values = valueAt? row m.position := by
  have h : modelEntity.columns.Nodup := by decide +kernel
  have hcross : ¬ modelEntity.Apart := by decide +kernel
  obtain ⟨hapart, -, hcrowded⟩ := lookup_crosses_iff_crowded h "public"
  have hc : modelEntity.Crowded := not_not.1 fun hfree => hcross (hapart.2 hfree)
  exact ⟨h, hc, hcrowded hc⟩

/-- The second attribute takes the value of the first. -/
theorem modelEntity_crosses :
    modelEntity.columns.Nodup ∧
    modelEntity.members = [⟨"model_a", "model_a_", .string, 0⟩,
      ⟨"model_a_", "model_a__", .string, 1⟩] ∧
    (modelEntity.resource "public").attributeValues? ["first", "second"]
      = some [("model_a_", "first"), ("model_a__", "second")] ∧
    Member.filled? ⟨"model_a_", "model_a__", .string, 1⟩
      [("model_a_", "first"), ("model_a__", "second")] = some "first" ∧
    ¬ ∀ e : Entity, e.columns.Nodup → e.Apart := by
  have hnodup : modelEntity.columns.Nodup := by decide +kernel
  have hcross : ¬ modelEntity.Apart := by decide +kernel
  refine ⟨hnodup, by decide +kernel, by decide +kernel, by decide +kernel, fun hall => ?_⟩
  exact hcross (hall modelEntity hnodup)

end Entity

end EntityService
