import EntityService.Entity
import EntityService.Proofs.AttributeShape

/-!
# The attribute that a property is given

A property that is not fit as it is gets an attribute by a search: underscores are put after its
base name for as long as the name is taken.  Written as a loop, this search has no bound.  It ends
all the same, after as many underscores as there are properties at most, because every name that it
passes is the attribute of a property.

What the search gives can be used.  Underscores at the end of a name keep it fit, and they keep it
away from keywords and from the names that a model reserves, none of which ends in an underscore.

## What is here

* `Search` — the loop, as a relation; `search_iff` says what a search has seen, and
  `search_firstFree` that the bounded search is one that has ended.
* `assign_getElem?` — one step of a run, at its place in the run.
* `underscored_not_reserved`, `attribute_eq_iff` — what attributes are not, and when an attribute is
  the name of its property.
* `Allotted` — what a property is promised, and `attributeNames_allotted`, which keeps the promise.
-/

set_option autoImplicit false

namespace EntityService.Names

open EntityService.Text

/-! ## The search as a loop -/

/-- The search for a free name, with the number of underscores that it adds: as long as the name is
taken, it gets another one. -/
inductive Search (taken : List String) : String → Nat → String → Prop
  | stop {name : String} (hfree : name ∉ taken) : Search taken name 0 name
  | step {name found : String} {k : Nat} (htaken : name ∈ taken)
      (hrest : Search taken (name ++ "_") k found) : Search taken name (k + 1) found

/-- A search has passed names that are taken, and has ended at one that is not. -/
theorem search_iff {taken : List String} {base name : String} {k : Nat} :
    Search taken base k name ↔
      name = underscored base k ∧ (∀ j < k, underscored base j ∈ taken) ∧ name ∉ taken := by
  constructor
  · intro h
    induction h with
    | stop hfree => exact ⟨(underscored_zero _).symm, by simp, hfree⟩
    | @step base found k htaken _ ih =>
      obtain ⟨hfound, hpassed, hfree⟩ := ih
      rw [append_underscore, underscored_underscored, Nat.add_comm] at hfound
      refine ⟨hfound, fun j hj => ?_, hfree⟩
      cases j with
      | zero => rwa [underscored_zero]
      | succ j =>
        have hmem := hpassed j (by omega)
        rwa [append_underscore, underscored_underscored, Nat.add_comm] at hmem
  · rintro ⟨rfl, hpassed, hfree⟩
    induction k generalizing base with
    | zero =>
      rw [underscored_zero] at hfree ⊢
      exact .stop hfree
    | succ k ih =>
      have hbase := hpassed 0 (Nat.succ_pos k)
      rw [underscored_zero] at hbase
      have hnext : underscored (base ++ "_") k = underscored base (k + 1) := by
        rw [append_underscore, underscored_underscored, Nat.add_comm]
      refine .step hbase ?_
      rw [← hnext]
      refine ih (fun j hj => ?_) (hnext ▸ hfree)
      rw [append_underscore, underscored_underscored, Nat.add_comm]
      exact hpassed (j + 1) (by omega)

/-- Which names are taken matters to a search, but not their order. -/
theorem Search.congr {taken taken' : List String} (h : ∀ name, name ∈ taken ↔ name ∈ taken')
    {base name : String} {k : Nat} (hsearch : Search taken base k name) :
    Search taken' base k name := by
  rw [search_iff] at hsearch ⊢
  simpa only [h] using hsearch

/-- **The bounded search ends as the loop does.** -/
theorem search_firstFree (taken : List String) (base : String) :
    ∃ k, Search taken base k (firstFree taken taken.length base) := by
  obtain ⟨k, -, heq, hpassed, -⟩ := firstFree_eq taken taken.length base
  exact ⟨k, search_iff.2 ⟨heq, hpassed, firstFree_not_mem taken base⟩⟩

/-- A search passes no more names than there are. -/
theorem Search.le_length {taken names : List String} (h : taken ⊆ names) {base name : String}
    {k : Nat} (hsearch : Search taken base k name) : k ≤ names.length := by
  obtain ⟨-, hpassed, -⟩ := search_iff.1 hsearch
  have hlength : (List.range k).length ≤ names.length := by
    refine length_le_of_places List.nodup_range (R := fun j held => held = underscored base j)
      (fun j hj => ⟨_, h (hpassed j (List.mem_range.1 hj)), rfl⟩) fun hi hj => ?_
    exact underscored_right_inj.1 (hi.symm.trans hj)
  rwa [List.length_range] at hlength

/-! ## One step of a run -/

/-- The attribute at a place is chosen when the names before it, and no others, have been added to
those that were taken. -/
theorem assign_getElem? {taken : List String} {properties : List Text} {i : Nat} {property : Text}
    (h : properties[i]? = some property) :
    (assign taken properties)[i]?
      = some (chosen (((assign taken properties).take i).reverse ++ taken) property) := by
  induction properties generalizing taken i with
  | nil => simp at h
  | cons first rest ih =>
    rw [assign_cons]
    cases i with
    | zero =>
      rw [List.getElem?_cons_zero, Option.some_inj] at h
      rw [h, List.getElem?_cons_zero, List.take_zero, List.reverse_nil, List.nil_append]
    | succ i =>
      rw [List.getElem?_cons_succ] at h ⊢
      rw [ih h, List.take_succ_cons, List.reverse_cons, List.append_assoc, List.singleton_append]

/-! ## What attributes are not -/

/-- No keyword and no name that a model reserves starts with `model_`. -/
theorem reserved_not_model :
    ∀ name ∈ keywords ++ modelNames, "model_".toList.isPrefixOf name.toList = false := by
  decide +kernel

theorem underscored_not_reserved (property : Text) (k : Nat) :
    underscored (baseAttribute property) k ∉ keywords ∧
      underscored (baseAttribute property) k ∉ modelNames := by
  rw [← not_or, ← List.mem_append]
  intro hmem
  have hreserved : isModelReserved (underscored (baseAttribute property) k).toList = true := by
    rw [List.mem_append] at hmem
    simp only [isModelReserved, String.ofList_toList, Bool.or_eq_true, decide_eq_true_eq]
    exact .inl hmem
  have hprefix := List.isPrefixOf_iff_prefix.2 (prefix_of_reserved hreserved)
  rw [reserved_not_model _ hmem] at hprefix
  cases hprefix

/-- What starts from the base name of a property is not called like the property, unless it is the
base name and the property is fit as it is. -/
theorem attribute_eq_iff {property : Text} {k : Nat} (hkept : isKept property = true → k = 0) :
    Text.ofString (underscored (baseAttribute property) k) = property ↔
      Text.ofString (baseAttribute property) = property := by
  constructor
  · intro heq
    have hfit := isFit_underscored (isFit_baseAttribute property) k
    have hbase := baseAttribute_of_isFit hfit
    rw [heq, underscored_underscored] at hbase
    nth_rewrite 1 [← underscored_zero (baseAttribute property)] at hbase
    have hk := underscored_right_inj.1 hbase
    have hzero : k = 0 := by omega
    rw [hzero, underscored_zero] at heq
    exact heq
  · intro heq
    have hfit : isKept property = true := by
      rw [isKept, beq_iff_eq, heq]
    rw [hkept hfit, underscored_zero]
    exact heq

/-! ## The promise -/

/-- What a property is promised of its attribute, if some names are taken and no more than a number
of underscores may be added. -/
structure Allotted (taken : List String) (limit : Nat) (property : Text) (name : String) : Prop where
  /-- The attribute is the name of the property if and only if the property is fit as it is. -/
  kept : Text.ofString name = property ↔ Text.ofString (baseAttribute property) = property
  /-- If it is not, the search from its base name ends at the attribute. -/
  found : Text.ofString (baseAttribute property) ≠ property →
    ∃ k ≤ limit, Search taken (baseAttribute property) k name
  /-- The attribute can be written: it is not empty, it is made of word characters, and the first
  of them is neither an underscore nor a digit. -/
  fit : IsFit name.toList
  /-- The attribute is no keyword, and no name that a model reserves. -/
  free : name ∉ keywords ∧ name ∉ modelNames

theorem isKept_eq_false {property : Text} (h : Text.ofString (baseAttribute property) ≠ property) :
    isKept property = false := by
  rw [Bool.eq_false_iff, Ne, isKept, beq_iff_eq]
  exact h.symm

/-- **Every property of an entity gets an attribute of its own, which can be used.**  The search for
it ends, with no more underscores than there are fields; the names that are taken for it are those
of the properties that are fit, wherever they stand, and the attributes given before it. -/
theorem attributeNames_allotted {e : Entity} (h : e.columns.Nodup) :
    (attributeNames e.columns).length = e.fields.length ∧
    (attributeNames e.columns).Nodup ∧
    ∀ (i : Nat) (property : Text) (name : String), e.columns[i]? = some property →
      (attributeNames e.columns)[i]? = some name →
        Allotted (keptNames e.columns ++ (attributeNames e.columns).take i) e.fields.length
          property name := by
  have hlength : (attributeNames e.columns).length = e.fields.length := by
    rw [length_attributeNames, Entity.columns, List.length_map]
  refine ⟨hlength, attributeNames_nodup h, fun i property name hproperty hname => ?_⟩
  have hpair : (property, name) ∈ namedProperties e.columns := by
    refine List.mem_of_getElem? (i := i) ?_
    rw [namedProperties, List.getElem?_zip_eq_some]
    exact ⟨hproperty, hname⟩
  obtain ⟨k, hk, -⟩ := attributeNames_probed hpair
  have hfrom : name = underscored (baseAttribute property) k := hk
  refine ⟨?_, fun hne => ?_, isFit_attribute hpair, ?_⟩
  · rw [hfrom]
    refine attribute_eq_iff fun hkept => ?_
    have hbase : name = baseAttribute property := attribute_kept hpair hkept
    rw [hfrom] at hbase
    exact underscored_right_inj.1 (hbase.trans (underscored_zero _).symm)
  · have hstep : (attributeNames e.columns)[i]? = some (chosen
        (((attributeNames e.columns).take i).reverse ++ keptNames e.columns) property) :=
      assign_getElem? hproperty
    rw [hname, Option.some_inj, chosen, if_neg (Bool.eq_false_iff.1 (isKept_eq_false hne))] at hstep
    obtain ⟨n, hsearch⟩ := search_firstFree
      (((attributeNames e.columns).take i).reverse ++ keptNames e.columns) (baseAttribute property)
    rw [← hstep] at hsearch
    have hloop : Search (keptNames e.columns ++ (attributeNames e.columns).take i)
        (baseAttribute property) n name := by
      refine hsearch.congr fun other => ?_
      rw [List.mem_append, List.mem_append, List.mem_reverse, or_comm]
    refine ⟨n, ?_, hloop⟩
    rw [← hlength]
    refine hloop.le_length (List.append_subset.2 ⟨keptNames_subset e.columns, ?_⟩)
    exact List.take_subset i _
  · rw [hfrom]
    exact underscored_not_reserved property k

/-- Properties that want one name, which the last of them keeps. -/
def contestedEntity : Entity :=
  .ofProperties "Doc" [("_a", .string), ("a!", .string), ("a_", .string), ("a", .string)]

theorem contestedEntity_allotted : contestedEntity.columns.Nodup ∧
    attributeNames contestedEntity.columns = ["a__", "a___", "a_", "a"] ∧
    Allotted ["a_", "a", "a__"] 4 "a!" "a___" := by
  have hnodup : contestedEntity.columns.Nodup := by decide +kernel
  have hnames : attributeNames contestedEntity.columns = ["a__", "a___", "a_", "a"] := by
    decide +kernel
  refine ⟨hnodup, hnames, ?_⟩
  have hallotted := (attributeNames_allotted hnodup).2.2 1 "a!" "a___" rfl (by rw [hnames]; rfl)
  have htaken : keptNames contestedEntity.columns
      ++ (attributeNames contestedEntity.columns).take 1 = ["a_", "a", "a__"] := by
    decide +kernel
  have hlimit : contestedEntity.fields.length = 4 := rfl
  rw [htaken, hlimit] at hallotted
  exact hallotted

end EntityService.Names
