import EntityService.Entity
import EntityService.Proofs.AttributeIdentifiers
import EntityService.Proofs.NameCharacters

/-!
# Names and their normal forms

The generated language reads a name in its normal form, in which a letter of full width, such as `ａ`,
is the letter of ASCII that it looks like.  The rules for names look at the characters as they stand.
So a name that is spelled with letters of full width passes rules that its normal form breaks: it may
be a name that the program needs, and two names may be one.

Only so much is used of normal forms: in a name of ASCII and letters of full width, each letter of
full width is replaced and nothing else is changed.

## What is here

* `isWide`, `narrowChar`, `narrow`, `IsPlain`, `Normalises` — letters of full width, and what is
  known of normal forms.
* `isIdentifier_narrow`, `classNameFault?_narrow` — what the rules for classes say of normal forms.
* `PlainWords`, `isPlain_attribute` — the properties whose attributes have known normal forms.
* `normal_forms_fit_iff` — the main statement.
* `wideNames_unfit` — names that pass although their normal forms do not.
-/

set_option autoImplicit false

namespace EntityService

namespace Text

/-! ## Letters of full width -/

/-- A letter of full width: `Ａ` to `Ｚ` and `ａ` to `ｚ`. -/
def isWide (c : Char) : Bool :=
  (0xff21 ≤ c.toNat && c.toNat ≤ 0xff3a) || (0xff41 ≤ c.toNat && c.toNat ≤ 0xff5a)

/-- The letter of ASCII that a letter of full width looks like. -/
def narrowChar (c : Char) : Char := if isWide c then Char.ofNat (c.toNat - 0xfee0) else c

/-- A name with letters of ASCII for those of full width. -/
def narrow (name : String) : String := String.ofList (name.toList.map narrowChar)

/-- A name of ASCII and letters of full width. -/
def IsPlain (name : String) : Prop := ∀ c ∈ name.toList, c.toNat < 0x80 ∨ isWide c = true

instance (name : String) : Decidable (IsPlain name) :=
  inferInstanceAs (Decidable (∀ c ∈ name.toList, c.toNat < 0x80 ∨ isWide c = true))

/-- What is known of how names are brought to normal form. -/
def Normalises (normal : String → String) : Prop :=
  ∀ name, IsPlain name → normal name = narrow name

theorem narrowChar_of_isWide {c : Char} (h : isWide c = true) :
    ∃ i < 26, narrowChar c = Char.ofNat (0x41 + i) ∨ narrowChar c = Char.ofNat (0x61 + i) := by
  rw [narrowChar, if_pos h]
  simp only [isWide, Bool.or_eq_true, Bool.and_eq_true, decide_eq_true_eq] at h
  rcases h with ⟨hlo, hhi⟩ | ⟨hlo, hhi⟩
  · exact ⟨c.toNat - 0xff21, by omega, .inl (congrArg Char.ofNat (by omega))⟩
  · exact ⟨c.toNat - 0xff41, by omega, .inr (congrArg Char.ofNat (by omega))⟩

/-- What holds of a character and of all letters of ASCII holds of the narrow character. -/
theorem narrowChar_induction {P : Char → Prop}
    (hletter : ∀ i < 26, P (Char.ofNat (0x41 + i)) ∧ P (Char.ofNat (0x61 + i))) {c : Char}
    (hc : P c) : P (narrowChar c) := by
  cases hwide : isWide c with
  | false =>
    rw [narrowChar, hwide]
    exact hc
  | true =>
    obtain ⟨i, hi, h | h⟩ := narrowChar_of_isWide hwide
    · rw [h]
      exact (hletter i hi).1
    · rw [h]
      exact (hletter i hi).2

theorem isWide_of_ascii {c : Char} (h : c.toNat < 0x80) : isWide c = false := by
  rw [Bool.eq_false_iff]
  intro hwide
  simp only [isWide, Bool.or_eq_true, Bool.and_eq_true, decide_eq_true_eq] at hwide
  omega

/-- A name in ASCII is narrow. -/
theorem narrow_of_ascii {name : String} (h : ∀ c ∈ name.toList, c.toNat < 0x80) :
    narrow name = name := by
  have hmap : name.toList.map narrowChar = name.toList := by
    refine (List.map_congr_left fun c hc => ?_).trans (List.map_id _)
    rw [narrowChar, isWide_of_ascii (h c hc)]
    rfl
  rw [narrow, hmap, String.ofList_toList]

/-- The normal form of a name in ASCII is the name. -/
theorem Normalises.of_ascii {normal : String → String} (h : Normalises normal) {name : String}
    (hname : ∀ c ∈ name.toList, c.toNat < 0x80) : normal name = name := by
  rw [h name fun c hc => .inl (hname c hc), narrow_of_ascii hname]

/-- **A narrow identifier is an identifier.** -/
theorem isIdentifier_narrow {name : String} (h : isIdentifier name = true) :
    isIdentifier (narrow name) = true := by
  -- Every letter of ASCII can start an identifier, and so it can continue one.
  have hletters : ∀ i < 26, (isIdentifierStart (Char.ofNat (0x41 + i)) = true) ∧
      isIdentifierStart (Char.ofNat (0x61 + i)) = true := by
    decide +kernel
  rw [← String.ofList_toList (s := name)] at h
  rw [narrow]
  cases hcs : name.toList with
  | nil =>
    rw [hcs] at h
    exact absurd h (by decide)
  | cons c rest =>
    rw [hcs, isIdentifier_cons] at h
    rw [List.map_cons, isIdentifier_cons, List.forall_mem_map]
    refine ⟨narrowChar_induction (P := (isIdentifierStart · = true)) hletters h.1, fun d hd => ?_⟩
    refine narrowChar_induction (P := (isIdentifierContinue · = true)) (fun i hi => ?_) (h.2 d hd)
    exact (hletters i hi).imp isIdentifierContinue_of_isIdentifierStart
      isIdentifierContinue_of_isIdentifierStart

theorem head?_narrow {name : String} (h : name.toList.head? ≠ some '_') :
    (narrow name).toList.head? ≠ some '_' := by
  rw [narrow, String.toList_ofList, List.head?_map]
  cases hc : name.toList.head? with
  | none => exact nofun
  | some c =>
    rw [hc, Ne, Option.some_inj] at h
    rw [Option.map_some, Ne, Option.some_inj]
    exact narrowChar_induction (P := (· ≠ '_')) (by decide) h

end Text

namespace Names

open EntityService.Text

/-! ## Names of classes -/

/-- What the rules say of the normal form of a name that has passed them. -/
def narrowFault? (name : String) : Option NameFault :=
  if narrow name ∈ keywords then some .notIdentifier
  else if narrow name ∈ moduleNames ∨ narrow name ∈ builtins then some .reserved
  else none

/-- **The normal form of a name that has passed** is an identifier without an underscore in front,
so the only rules that it can break are those that name what must not be used. -/
theorem classNameFault?_narrow {name : String} (h : classNameFault? name = none) :
    classNameFault? (narrow name) = narrowFault? name := by
  obtain ⟨⟨hidentifier, -⟩, hhead, -⟩ := classNameFault?_eq_none_iff.1 h
  rw [classNameFault?, isIdentifier_narrow hidentifier, if_neg (head?_narrow hhead), narrowFault?]
  simp only [Bool.true_eq_false, false_or]

/-! ## Attributes -/

/-- What holds of all characters that a property is read as, of the underscore, and of the letter
that may be put in front, holds of the characters of its attribute. -/
theorem forall_mem_attribute {P : Char → Prop} (hunderscore : P '_') (hf : P 'f')
    {properties : List Text} (h : ∀ property ∈ properties, ∀ x ∈ property, P (wordChar x))
    {name : String} (hname : name ∈ attributeNames properties) : ∀ c ∈ name.toList, P c := by
  obtain ⟨property, hpair⟩ := exists_property hname
  obtain ⟨k, hk, -⟩ := attributeNames_probed hpair
  have hproperty : property ∈ properties := by
    rw [← namedProperties_fst properties]
    exact List.mem_map_of_mem hpair
  -- The steps to an attribute, in their order: each adds no characters but these two.
  have hsanitize : ∀ c ∈ sanitize property, P c := by
    intro c hc
    obtain ⟨x, hx, rfl⟩ := List.mem_map.1 ((List.dropWhile_sublist _).subset hc)
    exact h property hproperty x hx
  have hletter : ∀ c ∈ withLetter (sanitize property), P c := by
    cases hcs : sanitize property with
    | nil => exact List.forall_mem_cons.2 ⟨hf, List.forall_mem_singleton.2 hunderscore⟩
    | cons c rest =>
      rw [hcs] at hsanitize
      rw [withLetter]
      split
      · exact List.forall_mem_cons.2 ⟨hf, List.forall_mem_cons.2 ⟨hunderscore, hsanitize⟩⟩
      · exact hsanitize
  have hunderscores : ∀ n, ∀ c ∈ List.replicate n '_', P c := by
    intro n c hc
    rwa [List.eq_of_mem_replicate hc]
  rw [show name = underscored (baseAttribute property) k from hk, toList_underscored, baseAttribute,
    String.toList_ofList, withUnderscore_eq]
  exact List.forall_mem_append.2 ⟨List.forall_mem_append.2 ⟨hletter, hunderscores _⟩,
    hunderscores k⟩

/-- The word characters of a property are in ASCII or letters of full width. -/
def PlainWords (property : Text) : Prop :=
  ∀ x ∈ property, (wordChar x).toNat < 0x80 ∨ isWide (wordChar x) = true

instance (property : Text) : Decidable (PlainWords property) :=
  inferInstanceAs (Decidable (∀ x ∈ property, (wordChar x).toNat < 0x80 ∨
    isWide (wordChar x) = true))

/-- **Attributes are as plain as properties.** -/
theorem isPlain_attribute {properties : List Text} (h : ∀ p ∈ properties, PlainWords p)
    {name : String} (hname : name ∈ attributeNames properties) : IsPlain name :=
  forall_mem_attribute (.inl (by decide)) (.inl (by decide)) h hname

/-- More properties come down to a name, or to one that it is reached from, than there is room for
below it.  These are the names that are given. -/
def Wanted (properties : List Text) (name : String) : Prop :=
  ∃ k, k < (within properties name k).length

/-- Whether attributes keep apart in normal form, told from the properties. -/
theorem attributeNames_normal_nodup_iff {properties : List Text} (h : properties.Nodup)
    (hplain : ∀ p ∈ properties, PlainWords p) {normal : String → String}
    (hnormal : Normalises normal) :
    ((attributeNames properties).map normal).Nodup ↔
      ∀ name name', Wanted properties name → Wanted properties name' →
        narrow name = narrow name' → name = name' := by
  have hnarrow : (attributeNames properties).map normal = (attributeNames properties).map narrow :=
    List.map_congr_left fun name hname => hnormal name (isPlain_attribute hplain hname)
  rw [hnarrow, List.nodup_map_iff_inj_on (attributeNames_nodup h)]
  simp only [Wanted, ← mem_attributeNames_iff h]
  exact ⟨fun hinj name name' hname hname' => hinj name hname name' hname',
    fun hinj name hname name' hname' => hinj name name' hname hname'⟩

/-- **What is left of the rules in normal form.**  Of a name that can name a class, the normal form
is refused if and only if it is a keyword or a name that the program or the language has a use for;
a name in ASCII stays as it is.  The attributes of different properties have different normal forms
if and only if no two names that too many properties want have one normal form; in ASCII, attributes
stay as they are. -/
theorem normal_forms_fit_iff {normal : String → String} (hnormal : Normalises normal) :
    (∀ name, classNameFault? name = none → IsPlain name →
      classNameFault? (normal name) = narrowFault? name) ∧
    (∀ name, classNameFault? name = none → (∀ c ∈ name.toList, c.toNat < 0x80) →
      classNameFault? (normal name) = none) ∧
    (∀ e : Entity, e.columns.Nodup → (∀ property ∈ e.columns, PlainWords property) →
      (((attributeNames e.columns).map normal).Nodup ↔
        ∀ name name', Wanted e.columns name → Wanted e.columns name' →
          narrow name = narrow name' → name = name')) ∧
    ∀ e : Entity, e.columns.Nodup →
      (∀ property ∈ e.columns, ∀ x ∈ property, (wordChar x).toNat < 0x80) →
        ((attributeNames e.columns).map normal).Nodup := by
  refine ⟨fun name h hplain => ?_, fun name h hascii => ?_,
    fun e h hplain => attributeNames_normal_nodup_iff h hplain hnormal, fun e h hascii => ?_⟩
  · rw [hnormal name hplain, classNameFault?_narrow h]
  · rw [hnormal.of_ascii hascii, h]
  · have hstay : (attributeNames e.columns).map normal = attributeNames e.columns := by
      refine (List.map_congr_left fun name hname => ?_).trans (List.map_id _)
      exact hnormal.of_ascii (forall_mem_attribute (by decide) (by decide) hascii hname)
    rw [hstay]
    exact attributeNames_nodup h

/-- The name `list` with a letter of full width. -/
def wideList : String := "\uff4cist"

/-- An entity with the property `id` and one that has this name in normal form. -/
def wideEntity : Entity := .ofProperties "Doc" [("id", .i64), ("\uff49d", .string)]

theorem normal_forms_wideEntity : Normalises narrow ∧
    (classNameFault? wideList = none ∧ IsPlain wideList ∧
      classNameFault? (narrow wideList) = some .reserved) ∧
    (classNameFault? "Order" = none ∧ classNameFault? (narrow "Order") = none) ∧
    (wideEntity.columns.Nodup ∧ (∀ property ∈ wideEntity.columns, PlainWords property) ∧
      ¬ ((attributeNames wideEntity.columns).map narrow).Nodup) ∧
    ((attributeNames [Text.ofString "id", "_id"]).map narrow).Nodup := by
  have hnormal : Normalises narrow := fun _ _ => rfl
  have hlist : classNameFault? wideList = none := by decide +kernel
  have hplain : IsPlain wideList := by decide
  have horder : classNameFault? "Order" = none := by decide +kernel
  have hnodup : wideEntity.columns.Nodup := by decide +kernel
  have hwords : ∀ property ∈ wideEntity.columns, PlainWords property := by decide +kernel
  obtain ⟨hnarrow, hascii, hnarrows, hasciis⟩ := normal_forms_fit_iff hnormal
  refine ⟨hnormal, ⟨hlist, hplain, ?_⟩, ⟨horder, hascii "Order" horder (by decide)⟩,
    ⟨hnodup, hwords, fun h => ?_⟩, ?_⟩
  · rw [hnarrow wideList hlist hplain]
    decide +kernel
  · have hgiven : ∀ name ∈ ["id", "\uff49d"], Wanted wideEntity.columns name := by
      refine List.forall_mem_cons.2 ⟨⟨0, by decide +kernel⟩, List.forall_mem_singleton.2 ?_⟩
      exact ⟨0, by decide +kernel⟩
    have heq := (hnarrows wideEntity hnodup hwords).1 h "id" "\uff49d" (hgiven _ (by decide))
      (hgiven _ (by decide)) (by decide)
    exact absurd heq (by decide)
  · exact hasciis (.ofProperties "Doc" [("id", .i64), ("_id", .string)]) (by decide +kernel)
      (by decide +kernel)

/-- It is not so that normal forms pass the rules that names have passed, nor that the attributes of
different properties keep apart in normal form. -/
theorem wideNames_unfit : Normalises narrow ∧
    narrow wideList = "list" ∧ attributeNames wideEntity.columns = ["id", "\uff49d"] ∧
    (attributeNames wideEntity.columns).map narrow = ["id", "id"] ∧
    (¬ ∀ name, classNameFault? name = none → classNameFault? (narrow name) = none) ∧
    ¬ ∀ e : Entity, e.columns.Nodup → ((attributeNames e.columns).map narrow).Nodup := by
  have hlist : narrow wideList = "list" := by decide
  have hnames : attributeNames wideEntity.columns = ["id", "\uff49d"] := by decide +kernel
  have hsame : (attributeNames wideEntity.columns).map narrow = ["id", "id"] := by
    rw [hnames]
    decide
  refine ⟨fun _ _ => rfl, hlist, hnames, hsame, fun hall => ?_, fun hall => ?_⟩
  · have hpass := hall wideList (by decide +kernel)
    rw [hlist] at hpass
    exact absurd hpass (by decide +kernel)
  · have hnodup := hall wideEntity (by decide +kernel)
    rw [hsame] at hnodup
    exact absurd hnodup (by decide)

end Names

end EntityService
