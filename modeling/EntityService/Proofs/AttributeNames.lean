import EntityService.Names.Attribute
import Mathlib.Data.List.Forall2
import Mathlib.Data.List.Nodup
import Mathlib.Data.Nat.Find

/-!
# Attribute names are distinct

The properties of an entity are given attribute names one after the other.  A name that is not fit
as it is takes underscores until it is free, so what a property gets depends on the others.  Two
things do not: no name is given twice, and which names are given at all does not depend on the
order of the properties.

The second is the law of a table with open addressing.  A name is given if and only if too many
properties want it, or want the names that turn into it, for the room that there is.

## What is here

* `underscored` — a name with underscores after it.
* `length_le_of_places` — the counting behind both.
* `firstFree_eq`, `firstFree_not_mem` — the search stops at the first name that is free, and there
  is one: it tries more names than are taken.
* `Probed` — what one step promises: an attribute is reached from the base name of its property by
  way of names that are taken.
* `assign_probed`, `assign_kept`, `assign_nodup` — what a whole run keeps.
* `attributeNames_probed`, `attribute_kept`, `attributeNames_nodup` — the same about
  `attributeNames`.
* `Reaches` — how far the attribute of a property is from a name; `crowded_of_mem` and
  `mem_of_crowded` count these distances.
* `mem_attributeNames_iff` — which names are given.
-/

set_option autoImplicit false

namespace EntityService.Names

/-! ## Underscores -/

/-- A name with underscores after it. -/
def underscored (name : String) (k : Nat) : String := name ++ String.ofList (List.replicate k '_')

theorem toList_underscored (name : String) (k : Nat) :
    (underscored name k).toList = name.toList ++ List.replicate k '_' := by
  rw [underscored, String.toList_append, String.toList_ofList]

@[simp] theorem underscored_zero (name : String) : underscored name 0 = name := by
  rw [← String.toList_inj, toList_underscored, List.replicate_zero, List.append_nil]

theorem underscored_underscored (name : String) (j k : Nat) :
    underscored (underscored name j) k = underscored name (j + k) := by
  rw [← String.toList_inj, toList_underscored, toList_underscored, toList_underscored,
    List.append_assoc, List.replicate_append_replicate]

theorem append_underscore (name : String) : name ++ "_" = underscored name 1 := rfl

theorem underscored_right_inj {name : String} {j k : Nat} :
    underscored name j = underscored name k ↔ j = k := by
  refine ⟨fun h => ?_, congrArg _⟩
  rw [← String.toList_inj, toList_underscored, toList_underscored, List.append_right_inj] at h
  simpa using congrArg List.length h

theorem underscored_left_inj {name other : String} {k : Nat} :
    underscored name k = underscored other k ↔ name = other := by
  rw [← String.toList_inj, toList_underscored, toList_underscored, List.append_left_inj,
    String.toList_inj]

/-! ## The first free name -/

/-- There are no more things than places for them, if no place is that of two things. -/
theorem length_le_of_places {α β : Type} {R : α → β → Prop} {things : List α} {places : List β}
    (h : things.Nodup) (hplace : ∀ a ∈ things, ∃ b ∈ places, R a b)
    (hunique : ∀ {a a' b}, R a b → R a' b → a = a') : things.length ≤ places.length := by
  classical
  induction things generalizing places with
  | nil => exact Nat.zero_le _
  | cons a rest ih =>
    rw [List.nodup_cons] at h
    obtain ⟨b, hb, hab⟩ := hplace a List.mem_cons_self
    have hrest : rest.length ≤ (places.erase b).length := by
      refine ih h.2 fun a' ha' => ?_
      obtain ⟨b', hb', hab'⟩ := hplace a' (List.mem_cons_of_mem _ ha')
      refine ⟨b', (List.mem_erase_of_ne fun heq => ?_).2 hb', hab'⟩
      subst heq
      exact h.1 (hunique hab hab' ▸ ha')
    have hpos := List.length_pos_of_mem hb
    rw [List.length_erase_of_mem hb] at hrest
    rw [List.length_cons]
    omega

theorem firstFree_eq (taken : List String) (tries : Nat) (name : String) :
    ∃ k ≤ tries, firstFree taken tries name = underscored name k ∧
      (∀ j < k, underscored name j ∈ taken) ∧ (k < tries → underscored name k ∉ taken) := by
  induction tries generalizing name with
  | zero => exact ⟨0, le_refl 0, by simp [firstFree], by simp, by simp⟩
  | succ tries ih =>
    rw [firstFree]
    split
    · rename_i htaken
      obtain ⟨k, hk, heq, hbelow, hfree⟩ := ih (name ++ "_")
      rw [append_underscore, underscored_underscored, Nat.add_comm] at heq
      refine ⟨k + 1, Nat.succ_le_succ hk, heq, fun j hj => ?_, fun hlt => ?_⟩
      · cases j with
        | zero => rwa [underscored_zero]
        | succ j =>
          have hmem := hbelow j (Nat.lt_of_succ_lt_succ hj)
          rwa [append_underscore, underscored_underscored, Nat.add_comm] at hmem
      · have hnot := hfree (Nat.lt_of_succ_lt_succ hlt)
        rwa [append_underscore, underscored_underscored, Nat.add_comm] at hnot
    · rename_i hfree
      exact ⟨0, Nat.zero_le _, by simp, by simp, fun _ => by rwa [underscored_zero]⟩

/-- More names than are taken cannot all be taken. -/
theorem exists_free (taken : List String) (name : String) :
    ∃ k ≤ taken.length, underscored name k ∉ taken := by
  by_contra hall
  have hlength : (List.range (taken.length + 1)).length ≤ taken.length := by
    refine length_le_of_places List.nodup_range (R := fun k held => held = underscored name k)
      (fun k hk => ⟨underscored name k, ?_, rfl⟩) fun hj hk => ?_
    · by_contra hfree
      exact hall ⟨k, Nat.le_of_lt_succ (List.mem_range.1 hk), hfree⟩
    · exact underscored_right_inj.1 (hj.symm.trans hk)
  rw [List.length_range] at hlength
  omega

/-- **The search finds a free name.** -/
theorem firstFree_not_mem (taken : List String) (name : String) :
    firstFree taken taken.length name ∉ taken := by
  obtain ⟨k, hk, heq, hbelow, hfree⟩ := firstFree_eq taken taken.length name
  obtain ⟨j, hj, hjfree⟩ := exists_free taken name
  rw [heq]
  rcases Nat.lt_or_ge j k with hlt | hge
  · exact absurd (hbelow j hlt) hjfree
  · rcases Nat.lt_or_ge k taken.length with hlt | hlast
    · exact hfree hlt
    · have hkj : k = j := by omega
      rwa [hkj]

/-! ## One property after the other -/

/-- A name is reached from a base name by underscores, by way of names that are taken. -/
def Probed (taken : List String) (base name : String) : Prop :=
  ∃ k, name = underscored base k ∧ ∀ j < k, underscored base j ∈ taken

theorem Probed.mono {taken taken' : List String} (h : taken ⊆ taken') {base name : String}
    (hname : Probed taken base name) : Probed taken' base name := by
  obtain ⟨k, heq, hbelow⟩ := hname
  exact ⟨k, heq, fun j hj => h (hbelow j hj)⟩

/-- The attribute name for a property, given the names that are taken. -/
def chosen (taken : List String) (property : Text) : String :=
  if isKept property then baseAttribute property
  else firstFree taken taken.length (baseAttribute property)

theorem assign_cons (taken : List String) (property : Text) (rest : List Text) :
    assign taken (property :: rest)
      = chosen taken property :: assign (chosen taken property :: taken) rest := rfl

theorem chosen_kept {property : Text} (h : isKept property = true) (taken : List String) :
    chosen taken property = baseAttribute property := if_pos h

theorem chosen_not_mem {property : Text} (h : isKept property = false) (taken : List String) :
    chosen taken property ∉ taken := by
  rw [chosen, if_neg (Bool.eq_false_iff.1 h)]
  exact firstFree_not_mem taken _

theorem chosen_probed (taken : List String) (property : Text) :
    Probed taken (baseAttribute property) (chosen taken property) := by
  rw [chosen]
  split
  · exact ⟨0, (underscored_zero _).symm, by simp⟩
  · obtain ⟨k, -, heq, hbelow, -⟩ := firstFree_eq taken taken.length (baseAttribute property)
    exact ⟨k, heq, hbelow⟩

@[simp] theorem length_assign (taken : List String) (properties : List Text) :
    (assign taken properties).length = properties.length := by
  induction properties generalizing taken with
  | nil => rfl
  | cons property rest ih => rw [assign_cons, List.length_cons, List.length_cons, ih]

/-- What one step says of its property stays true to the end of the run. -/
theorem assign_probed (taken : List String) (properties : List Text) :
    List.Forall₂ (fun property name =>
      Probed (taken ++ assign taken properties) (baseAttribute property) name)
      properties (assign taken properties) := by
  induction properties generalizing taken with
  | nil => exact .nil
  | cons property rest ih =>
    rw [assign_cons]
    refine .cons ((chosen_probed taken property).mono (List.subset_append_left _ _)) ?_
    refine (ih _).imp fun other name h => h.mono ?_
    intro held hheld
    simp only [List.cons_append, List.mem_cons, List.mem_append] at hheld ⊢
    tauto

/-- A property that is fit keeps its name. -/
theorem assign_kept (taken : List String) (properties : List Text) :
    List.Forall₂ (fun property name => isKept property = true → name = baseAttribute property)
      properties (assign taken properties) := by
  induction properties generalizing taken with
  | nil => exact .nil
  | cons property rest ih =>
    rw [assign_cons]
    exact .cons (fun hkept => chosen_kept hkept taken) (ih _)

/-- The only names given that were taken before are those that properties keep. -/
theorem kept_of_mem_taken {taken : List String} {properties : List Text} {name : String}
    (h : name ∈ assign taken properties) (htaken : name ∈ taken) :
    ∃ property ∈ properties, isKept property = true ∧ baseAttribute property = name := by
  induction properties generalizing taken with
  | nil => exact absurd h List.not_mem_nil
  | cons property rest ih =>
    rw [assign_cons] at h
    rcases List.mem_cons.1 h with rfl | h
    · cases hkept : isKept property with
      | true => exact ⟨property, List.mem_cons_self, hkept, (chosen_kept hkept taken).symm⟩
      | false => exact absurd htaken (chosen_not_mem hkept taken)
    · obtain ⟨other, hother, hfit⟩ := ih h (List.mem_cons_of_mem _ htaken)
      exact ⟨other, List.mem_cons_of_mem _ hother, hfit⟩

theorem eq_ofString_of_isKept {property : Text} (h : isKept property = true) :
    property = .ofString (baseAttribute property) := eq_of_beq h

theorem keptNames_subset_of_cons {property : Text} {rest : List Text} {taken : List String}
    (h : keptNames (property :: rest) ⊆ taken) : keptNames rest ⊆ taken := by
  intro name hname
  refine h (List.map_subset _ ?_ hname)
  exact List.filter_subset _ (List.subset_cons_self property rest)

theorem assign_nodup {taken : List String} {properties : List Text} (h : properties.Nodup)
    (hkept : keptNames properties ⊆ taken) : (assign taken properties).Nodup := by
  induction properties generalizing taken with
  | nil => exact List.nodup_nil
  | cons property rest ih =>
    rw [List.nodup_cons] at h
    have hrest : keptNames rest ⊆ taken := keptNames_subset_of_cons hkept
    rw [assign_cons, List.nodup_cons]
    refine ⟨fun hmem => ?_, ih h.2 fun name hname => List.mem_cons_of_mem _ (hrest hname)⟩
    obtain ⟨other, hother, hfit, hbase⟩ := kept_of_mem_taken hmem List.mem_cons_self
    cases hproperty : isKept property with
    | true =>
      rw [chosen_kept hproperty] at hbase
      have heq : other = property := by
        rw [eq_ofString_of_isKept hfit, hbase, ← eq_ofString_of_isKept hproperty]
      exact h.1 (heq ▸ hother)
    | false =>
      refine chosen_not_mem hproperty taken (hrest ?_)
      rw [← hbase]
      exact List.mem_map_of_mem (List.mem_filter.2 ⟨hother, hfit⟩)

/-! ## The attributes of an entity -/

variable {properties : List Text}

@[simp] theorem length_attributeNames (properties : List Text) :
    (attributeNames properties).length = properties.length := length_assign _ _

/-- **No attribute name is given twice.** -/
theorem attributeNames_nodup (h : properties.Nodup) : (attributeNames properties).Nodup :=
  assign_nodup h (List.Subset.refl _)

/-- The properties with their attribute names. -/
def namedProperties (properties : List Text) : List (Text × String) :=
  properties.zip (attributeNames properties)

theorem namedProperties_fst (properties : List Text) :
    (namedProperties properties).map Prod.fst = properties :=
  List.map_fst_zip (Nat.le_of_eq (length_attributeNames properties).symm)

theorem namedProperties_snd (properties : List Text) :
    (namedProperties properties).map Prod.snd = attributeNames properties :=
  List.map_snd_zip (Nat.le_of_eq (length_attributeNames properties))

theorem exists_attribute {property : Text} (h : property ∈ properties) :
    ∃ name, (property, name) ∈ namedProperties properties := by
  rw [← namedProperties_fst properties] at h
  obtain ⟨⟨_, name⟩, hp, rfl⟩ := List.mem_map.1 h
  exact ⟨name, hp⟩

theorem attribute_kept {p : Text × String} (h : p ∈ namedProperties properties)
    (hkept : isKept p.1 = true) : p.2 = baseAttribute p.1 :=
  (List.forall₂_iff_zip.1 (assign_kept _ properties)).2 h hkept

theorem keptNames_subset (properties : List Text) :
    keptNames properties ⊆ attributeNames properties := by
  intro name hname
  obtain ⟨property, hproperty, rfl⟩ := List.mem_map.1 hname
  obtain ⟨hmem, hkept⟩ := List.mem_filter.1 hproperty
  obtain ⟨name, hp⟩ := exists_attribute hmem
  rw [← namedProperties_snd properties, ← attribute_kept hp hkept]
  exact List.mem_map_of_mem hp

/-- What lies between a base name and the attribute name is given to other properties. -/
theorem attributeNames_probed {p : Text × String} (h : p ∈ namedProperties properties) :
    Probed (attributeNames properties) (baseAttribute p.1) p.2 := by
  have hrun := assign_probed (keptNames properties) properties
  refine ((List.forall₂_iff_zip.1 hrun).2 h).mono ?_
  exact List.append_subset.2 ⟨keptNames_subset properties, List.Subset.refl _⟩

theorem exists_property {name : String} (h : name ∈ attributeNames properties) :
    ∃ property, (property, name) ∈ namedProperties properties := by
  rw [← namedProperties_snd properties] at h
  obtain ⟨⟨property, _⟩, hp, rfl⟩ := List.mem_map.1 h
  exact ⟨property, hp⟩

theorem attribute_unique (h : properties.Nodup) {property : Text} {name name' : String}
    (hname : (property, name) ∈ namedProperties properties)
    (hname' : (property, name') ∈ namedProperties properties) : name = name' := by
  rw [← namedProperties_fst properties] at h
  exact congrArg Prod.snd (List.inj_on_of_nodup_map h hname hname' rfl)

theorem property_unique (h : properties.Nodup) {property property' : Text} {name : String}
    (hname : (property, name) ∈ namedProperties properties)
    (hname' : (property', name) ∈ namedProperties properties) : property = property' := by
  have hnodup := attributeNames_nodup h
  rw [← namedProperties_snd properties] at hnodup
  exact congrArg Prod.fst (List.inj_on_of_nodup_map hnodup hname hname' rfl)

/-! ## Which names are given -/

/-- The properties whose base names become a name by at most `k` underscores. -/
def within (properties : List Text) (name : String) (k : Nat) : List Text :=
  properties.filter fun p => ∃ j ≤ k, underscored (baseAttribute p) j = name

theorem mem_within {name : String} {k : Nat} {p : Text} : p ∈ within properties name k ↔
    p ∈ properties ∧ ∃ j ≤ k, underscored (baseAttribute p) j = name := by
  rw [within, List.mem_filter, decide_eq_true_eq]

/-- The attribute of a property becomes a name by `d` underscores. -/
def Reaches (properties : List Text) (name : String) (property : Text) (d : Nat) : Prop :=
  ∃ x, (property, x) ∈ namedProperties properties ∧ underscored x d = name

theorem Reaches.distance_unique (h : properties.Nodup) {name : String} {property : Text}
    {d d' : Nat} (hd : Reaches properties name property d)
    (hd' : Reaches properties name property d') : d = d' := by
  obtain ⟨x, hx, hreach⟩ := hd
  obtain ⟨x', hx', hreach'⟩ := hd'
  rw [attribute_unique h hx hx', ← hreach'] at hreach
  exact underscored_right_inj.1 hreach

theorem Reaches.property_unique (h : properties.Nodup) {name : String} {property property' : Text}
    {d : Nat} (hd : Reaches properties name property d)
    (hd' : Reaches properties name property' d) : property = property' := by
  obtain ⟨x, hx, hreach⟩ := hd
  obtain ⟨x', hx', hreach'⟩ := hd'
  rw [← hreach', underscored_left_inj] at hreach
  subst hreach
  exact Names.property_unique h hx hx'

/-- The names that become `name` by underscores and are given, without a gap, end somewhere. -/
theorem exists_run_end (names : List String) {name : String} (h : name ∈ names) :
    ∃ k, (∀ i ≤ k, ∃ x ∈ names, underscored x i = name) ∧
      ∀ x ∈ names, underscored x (k + 1) ≠ name := by
  have hgap : ∃ n, ∀ x ∈ names, underscored x n ≠ name := by
    refine ⟨name.toList.length + 1, fun x _ hx => ?_⟩
    have hlength := congrArg (List.length ∘ String.toList) hx
    rw [Function.comp_apply, toList_underscored, List.length_append, List.length_replicate,
      Function.comp_apply] at hlength
    omega
  have hzero : Nat.find hgap ≠ 0 := by
    intro hfind
    have hnone := Nat.find_spec hgap
    rw [hfind] at hnone
    exact hnone name h (underscored_zero name)
  obtain ⟨k, hk⟩ := Nat.exists_eq_succ_of_ne_zero hzero
  have hspec := Nat.find_spec hgap
  rw [hk] at hspec
  refine ⟨k, fun i hi => ?_, hspec⟩
  have hbefore := Nat.find_min hgap (show i < Nat.find hgap by omega)
  simpa only [not_forall, not_not, exists_prop] using hbefore

/-- Who fills a run has started in it: coming from below, it would have filled the place before. -/
theorem mem_within_of_run_end {name : String} {k d : Nat} {property : Text} (hd : d ≤ k)
    (hend : ∀ x ∈ attributeNames properties, underscored x (k + 1) ≠ name)
    (h : Reaches properties name property d) : property ∈ within properties name k := by
  obtain ⟨x, hx, hreach⟩ := h
  obtain ⟨j, hj, hbelow⟩ := attributeNames_probed hx
  have hbase : underscored (baseAttribute property) (j + d) = name := by
    rw [← underscored_underscored, ← hj, hreach]
  refine mem_within.2 ⟨?_, j + d, ?_, hbase⟩
  · rw [← namedProperties_fst properties]
    exact List.mem_map_of_mem hx
  · by_contra hlt
    refine hend _ (hbelow (j + d - (k + 1)) (by omega)) ?_
    rw [underscored_underscored, Nat.sub_add_cancel (by omega), hbase]

/-- A name that is given is the last of a run, which as many properties as it is long have filled. -/
theorem crowded_of_mem (h : properties.Nodup) {name : String}
    (hname : name ∈ attributeNames properties) : ∃ k, k < (within properties name k).length := by
  obtain ⟨k, hrun, hend⟩ := exists_run_end _ hname
  have hlength : (List.range (k + 1)).length ≤ (within properties name k).length := by
    refine length_le_of_places List.nodup_range (R := fun d p => Reaches properties name p d)
      (fun d hd => ?_) fun hd hd' => hd.distance_unique h hd'
    have hdk := Nat.le_of_lt_succ (List.mem_range.1 hd)
    obtain ⟨x, hx, hreach⟩ := hrun d hdk
    obtain ⟨property, hproperty⟩ := exists_property hx
    exact ⟨property, mem_within_of_run_end hdk hend ⟨x, hproperty, hreach⟩, x, hproperty, hreach⟩
  rw [List.length_range] at hlength
  exact ⟨k, hlength⟩

/-- Who starts at most `k` below a name that is free stays below it. -/
theorem reaches_of_mem_within {name : String} {k : Nat} (hfree : name ∉ attributeNames properties)
    {property : Text} (h : property ∈ within properties name k) :
    ∃ d ∈ List.range' 1 k, Reaches properties name property d := by
  obtain ⟨hmem, j, hj, hbase⟩ := mem_within.1 h
  obtain ⟨x, hx⟩ := exists_attribute hmem
  obtain ⟨i, hi, hbelow⟩ := attributeNames_probed hx
  have hij : i < j := by
    rcases Nat.lt_trichotomy i j with hlt | heq | hgt
    · exact hlt
    · refine absurd ?_ hfree
      rw [← hbase, ← heq, ← hi, ← namedProperties_snd properties]
      exact List.mem_map_of_mem hx
    · exact absurd (hbase ▸ hbelow j hgt) hfree
  refine ⟨j - i, List.mem_range'_1.2 ⟨by omega, by omega⟩, x, hx, ?_⟩
  have hname : x = underscored (baseAttribute property) i := hi
  rw [hname, underscored_underscored, Nat.add_sub_cancel' (Nat.le_of_lt hij), hbase]

/-- More than `k` properties cannot stay below a name that is at most `k` underscores away. -/
theorem mem_of_crowded (h : properties.Nodup) {name : String} {k : Nat}
    (hk : k < (within properties name k).length) : name ∈ attributeNames properties := by
  by_contra hfree
  have hlength : (within properties name k).length ≤ (List.range' 1 k).length :=
    length_le_of_places (h.filter _) (fun property hp => reaches_of_mem_within hfree hp)
      fun hd hd' => hd.property_unique h hd'
  rw [List.length_range'] at hlength
  omega

/-- **Which names are given.**  Those that too many properties want, for the room that there is: for
some `k`, more than `k` properties have base names that become the name by at most `k` underscores.
The order of the properties does not matter. -/
theorem mem_attributeNames_iff (h : properties.Nodup) {name : String} :
    name ∈ attributeNames properties ↔ ∃ k, k < (within properties name k).length :=
  ⟨crowded_of_mem h, fun ⟨_, hk⟩ => mem_of_crowded h hk⟩

end EntityService.Names
