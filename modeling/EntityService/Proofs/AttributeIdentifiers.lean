import EntityService.Proofs.AttributeSearch
import EntityService.Text.Identifier
import Mathlib.Data.List.TakeWhile

/-!
# Attributes that are identifiers

An attribute stands in the program as a name, so it should be an identifier.  It is made of word
characters, and the first of them is neither an underscore nor a digit.  The language draws the line
elsewhere: superscripts, fractions and a few ligatures are word characters that cannot stand in an
identifier, and some letters can stand in it but not come first.

So an attribute is an identifier or not, and which of the two depends on its property alone.  What
is put before or after the characters of a property belongs to identifiers, and so it makes no
difference how many underscores an attribute takes to be free.

## What is here

* `Text.Ranges.covers`, `Text.isIdentifierContinue_of_isIdentifierStart` — what can start an
  identifier can also continue one.
* `SpellsIdentifier` — the properties whose characters make identifiers.
* `forall_mem_sanitize_iff`, `head?_sanitize` — the characters of a property that are kept, and the
  first of them.
* `isIdentifier_withLetter_iff`, `isIdentifier_attribute_iff` — a property on its own, and among the
  others.
* `spellsIdentifier_of_ascii` — properties written in ASCII.
* `attributes_isIdentifier_iff` — the main statement, with a property that has a superscript.
-/

set_option autoImplicit false

namespace EntityService

namespace Text

/-! ## Starting and continuing an identifier -/

/-- Whether each of some ranges lies in one of the others, both in ascending order.  Every outer
range takes away the inner ones that it covers. -/
def Ranges.covers : Ranges → Ranges → Bool
  | [], inner => inner.isEmpty
  | (lo, hi) :: outer, inner =>
    Ranges.covers outer (inner.dropWhile fun r => lo ≤ r.1 && r.2 ≤ hi)

theorem Ranges.exists_of_covers {outer inner : Ranges} (h : outer.covers inner = true) :
    ∀ r ∈ inner, ∃ r' ∈ outer, r'.1 ≤ r.1 ∧ r.2 ≤ r'.2 := by
  induction outer generalizing inner with
  | nil =>
    rw [covers, List.isEmpty_iff] at h
    rw [h]
    exact List.forall_mem_nil _
  | cons first outer ih =>
    intro r hr
    rw [← List.takeWhile_append_dropWhile (p := fun r => first.1 ≤ r.1 && r.2 ≤ first.2)
      (l := inner), List.mem_append] at hr
    rcases hr with hr | hr
    · have hcovered := List.mem_takeWhile_imp hr
      rw [Bool.and_eq_true, decide_eq_true_eq, decide_eq_true_eq] at hcovered
      exact ⟨first, List.mem_cons_self, hcovered⟩
    · obtain ⟨r', hr', hcovered⟩ := ih h r hr
      exact ⟨r', List.mem_cons_of_mem _ hr', hcovered⟩

theorem Ranges.contains_of_covers {outer inner : Ranges} (houter : outer.Ascending = true)
    (hinner : inner.Ascending = true) (h : outer.covers inner = true) {n : Nat}
    (hn : inner.contains n = true) : outer.contains n = true := by
  obtain ⟨r, hr, hlo, hhi⟩ := (contains_iff hinner n).1 hn
  obtain ⟨r', hr', hlo', hhi'⟩ := exists_of_covers h r hr
  exact (contains_iff houter n).2 ⟨r', hr', hlo'.trans hlo, hhi.trans hhi'⟩

theorem isIdentifierContinue_underscore : isIdentifierContinue '_' = true := by decide +kernel

/-- **What can start an identifier can continue one.** -/
theorem isIdentifierContinue_of_isIdentifierStart {c : Char} (h : isIdentifierStart c = true) :
    isIdentifierContinue c = true := by
  rw [isIdentifierStart, Bool.or_eq_true, beq_iff_eq] at h
  rcases h with rfl | h
  · exact isIdentifierContinue_underscore
  · exact Ranges.contains_of_covers identifierContinueRanges_ascending
      identifierStartRanges_ascending (by decide +kernel) h

theorem isIdentifier_cons (c : Char) (rest : List Char) :
    isIdentifier (String.ofList (c :: rest)) = true ↔
      isIdentifierStart c = true ∧ ∀ d ∈ rest, isIdentifierContinue d = true := by
  rw [isIdentifier, String.toList_ofList]
  simp only [Bool.and_eq_true, List.all_eq_true]

/-- Underscores after a name do not decide whether it is an identifier. -/
theorem isIdentifier_append_underscores {cs : List Char} (h : cs ≠ []) (k : Nat) :
    isIdentifier (String.ofList (cs ++ List.replicate k '_')) = true ↔
      isIdentifier (String.ofList cs) = true := by
  cases cs with
  | nil => exact absurd rfl h
  | cons c rest =>
    rw [List.cons_append, isIdentifier_cons, isIdentifier_cons, List.forall_mem_append]
    refine and_congr_right fun _ => and_iff_left fun d hd => ?_
    rw [List.eq_of_mem_replicate hd]
    exact isIdentifierContinue_underscore

end Text

namespace Names

open EntityService.Text

/-! ## The characters of a property -/

/-- The word character that a code point is, unless it is an underscore. -/
def wordOf? : CodePoint → Option Char
  | .char c => if isWord c && c != '_' then some c else none
  | .half _ => none

/-- The first word character of a property, underscores left aside. -/
def firstWord? (property : Text) : Option Char := property.findSome? wordOf?

/-- The characters of a property make an identifier. -/
structure SpellsIdentifier (property : Text) : Prop where
  /-- Every word character in it can continue an identifier. -/
  continues : ∀ c, .char c ∈ property → isWord c = true → isIdentifierContinue c = true
  /-- The first of them can start an identifier, or it is a digit and something comes before it. -/
  starts : ∀ c, firstWord? property = some c → isDigit c = true ∨ isIdentifierStart c = true

theorem wordOf?_eq (p : CodePoint) :
    wordOf? p = if wordChar p = '_' then none else some (wordChar p) := by
  cases p with
  | half index => rfl
  | char c =>
    rw [wordOf?, wordChar]
    by_cases hword : isWord c = true
    · by_cases hc : c = '_' <;> simp [hword, hc]
    · simp [hword]

/-- **The first character that is kept** of a property is its first word character. -/
theorem head?_sanitize (property : Text) : (sanitize property).head? = firstWord? property := by
  induction property with
  | nil => rfl
  | cons p rest ih =>
    rw [firstWord?, List.findSome?_cons, wordOf?_eq, sanitize, List.map_cons]
    by_cases hp : wordChar p = '_'
    · rw [List.dropWhile_cons_of_pos (by simpa using hp), if_pos hp]
      exact ih
    · rw [List.dropWhile_cons_of_neg (by simpa using hp), if_neg hp]
      rfl

/-- **The characters that are kept** are the word characters, but for underscores. -/
theorem forall_mem_sanitize_iff {property : Text} :
    (∀ c ∈ sanitize property, isIdentifierContinue c = true) ↔
      ∀ c, .char c ∈ property → isWord c = true → isIdentifierContinue c = true := by
  constructor
  · intro h c hc hword
    have hmem : c ∈ property.map wordChar := List.mem_map.2 ⟨.char c, hc, if_pos hword⟩
    rw [← List.takeWhile_append_dropWhile (p := (· == '_')) (l := property.map wordChar),
      List.mem_append] at hmem
    rcases hmem with hmem | hmem
    · have hunderscore := List.mem_takeWhile_imp hmem
      rw [beq_iff_eq] at hunderscore
      rw [hunderscore]
      exact isIdentifierContinue_underscore
    · exact h c hmem
  · intro h c hc
    obtain ⟨p, hp, rfl⟩ := List.mem_map.1 ((List.dropWhile_sublist _).subset hc)
    cases p with
    | half index => exact isIdentifierContinue_underscore
    | char c =>
      rw [wordChar]
      split
      · rename_i hword
        exact h c hp hword
      · exact isIdentifierContinue_underscore

/-! ## Attributes -/

/-- **A property on its own.**  The cases are those of `withLetter`: nothing is kept of the
property, what is kept starts with a digit, or it starts with something else. -/
theorem isIdentifier_withLetter_iff (property : Text) :
    isIdentifier (String.ofList (withLetter (sanitize property))) = true ↔
      SpellsIdentifier property := by
  have hcontinues := @forall_mem_sanitize_iff property
  have hfirst := head?_sanitize property
  have hletter : isIdentifierStart 'f' = true := by decide +kernel
  cases hcs : sanitize property with
  | nil =>
    rw [hcs] at hcontinues hfirst
    refine iff_of_true (by decide +kernel) ⟨hcontinues.1 (List.forall_mem_nil _), fun c hc => ?_⟩
    rw [← hfirst] at hc
    cases hc
  | cons c rest =>
    rw [hcs] at hcontinues hfirst
    have hstarts : ∀ d, firstWord? property = some d ↔ d = c := fun d => by
      rw [← hfirst, List.head?_cons, Option.some_inj, eq_comm]
    rw [withLetter]
    split
    · rename_i hdigit
      rw [isIdentifier_cons, List.forall_mem_cons, hcontinues]
      constructor
      · rintro ⟨-, -, hall⟩
        exact ⟨hall, fun d hd => .inl ((hstarts d).1 hd ▸ hdigit)⟩
      · rintro ⟨hall, -⟩
        exact ⟨hletter, isIdentifierContinue_underscore, hall⟩
    · rename_i hdigit
      rw [isIdentifier_cons]
      constructor
      · rintro ⟨hstart, hrest⟩
        refine ⟨hcontinues.1 (List.forall_mem_cons.2 ⟨?_, hrest⟩), fun d hd => .inr ?_⟩
        · exact isIdentifierContinue_of_isIdentifierStart hstart
        · exact (hstarts d).1 hd ▸ hstart
      · rintro ⟨hall, hstart⟩
        refine ⟨(hstart c ((hstarts c).2 rfl)).resolve_left hdigit, ?_⟩
        exact (List.forall_mem_cons.1 (hcontinues.2 hall)).2

/-- **A property among others.**  They only decide how many underscores its attribute ends in. -/
theorem isIdentifier_attribute_iff {properties : List Text} {p : Text × String}
    (h : p ∈ namedProperties properties) :
    isIdentifier p.2 = true ↔ SpellsIdentifier p.1 := by
  obtain ⟨k, hk, -⟩ := attributeNames_probed h
  obtain ⟨c, rest, hcs, -⟩ := (isFit_withLetter p.1).start
  have hne : withLetter (sanitize p.1) ≠ [] := by
    rw [hcs]
    exact List.cons_ne_nil c rest
  have hname : p.2 = String.ofList (withLetter (sanitize p.1) ++ List.replicate
      ((if isModelReserved (withLetter (sanitize p.1)) then 1 else 0) + k) '_') := by
    rw [hk, ← String.toList_inj, toList_underscored, baseAttribute, String.toList_ofList,
      String.toList_ofList, withUnderscore_eq, List.append_assoc,
      List.replicate_append_replicate]
  rw [hname, isIdentifier_append_underscores hne, isIdentifier_withLetter_iff]

/-- **Properties written in ASCII** make identifiers: there, word characters are letters, digits and
the underscore. -/
theorem spellsIdentifier_of_ascii {property : Text}
    (h : ∀ c, .char c ∈ property → c.toNat < 0x80) : SpellsIdentifier property := by
  have hascii : ∀ n < 0x80, isWord (Char.ofNat n) = true →
      isIdentifierContinue (Char.ofNat n) = true ∧
        (Char.ofNat n ≠ '_' → isDigit (Char.ofNat n) = true ∨
          isIdentifierStart (Char.ofNat n) = true) := by
    decide +kernel
  have hchar : ∀ c, .char c ∈ property → isWord c = true → isIdentifierContinue c = true ∧
      (c ≠ '_' → isDigit c = true ∨ isIdentifierStart c = true) := by
    intro c hc
    have hsettled := hascii c.toNat (h c hc)
    rwa [Char.ofNat_toNat] at hsettled
  refine ⟨fun c hc hword => (hchar c hc hword).1, fun c hfirst => ?_⟩
  obtain ⟨p, hp, hfound⟩ := List.exists_of_findSome?_eq_some hfirst
  cases p with
  | half index => cases hfound
  | char d =>
    rw [wordOf?] at hfound
    split at hfound
    · rename_i hword
      rw [Bool.and_eq_true, bne_iff_ne] at hword
      rw [← Option.some.inj hfound]
      exact (hchar d hp hword.1).2 hword.2
    · cases hfound

/-- **Which attributes are identifiers.**  An attribute is one if and only if its property spells
one, whatever the other properties are; it is never a keyword.  Properties in ASCII are no trouble. -/
theorem attributes_isIdentifier_iff (e : Entity) :
    ((∀ name ∈ attributeNames e.columns, isIdentifier name = true) ↔
      ∀ property ∈ e.columns, SpellsIdentifier property) ∧
    (∀ p ∈ namedProperties e.columns,
      (isIdentifier p.2 = true ↔ SpellsIdentifier p.1) ∧ p.2 ∉ keywords) ∧
    ((∀ property ∈ e.columns, ∀ c, .char c ∈ property → c.toNat < 0x80) →
      ∀ name ∈ attributeNames e.columns, isIdentifier name = true) := by
  have hpair : ∀ p ∈ namedProperties e.columns,
      (isIdentifier p.2 = true ↔ SpellsIdentifier p.1) := fun p hp => isIdentifier_attribute_iff hp
  have hspelled : (∀ property ∈ e.columns, SpellsIdentifier property) →
      ∀ name ∈ attributeNames e.columns, isIdentifier name = true := by
    intro hall name hname
    obtain ⟨property, hp⟩ := exists_property hname
    exact (hpair _ hp).2 (hall property (List.of_mem_zip hp).1)
  refine ⟨⟨fun hall property hproperty => ?_, hspelled⟩, fun p hp => ?_, fun hascii =>
    hspelled fun property hproperty => spellsIdentifier_of_ascii (hascii property hproperty)⟩
  · obtain ⟨name, hp⟩ := exists_attribute hproperty
    exact (hpair _ hp).1 (hall name (List.of_mem_zip hp).2)
  · refine ⟨hpair p hp, ?_⟩
    obtain ⟨k, hk, -⟩ := attributeNames_probed hp
    rw [hk]
    exact (underscored_not_reserved p.1 k).1

/-- A property with a superscript, beside one that starts with a digit. -/
def parcelEntity : Entity := .ofProperties "Parcel" [("area_m²", .f64), ("2nd-owner", .string)]

theorem attributes_parcelEntity :
    (("area_m²" : Text), "area_m²") ∈ namedProperties parcelEntity.columns ∧
    (("2nd-owner" : Text), "f_2nd_owner") ∈ namedProperties parcelEntity.columns ∧
    ¬ SpellsIdentifier "area_m²" ∧ SpellsIdentifier "2nd-owner" ∧ "f_2nd_owner" ∉ keywords := by
  have harea : (("area_m²" : Text), "area_m²") ∈ namedProperties parcelEntity.columns := by
    decide +kernel
  have howner : (("2nd-owner" : Text), "f_2nd_owner") ∈ namedProperties parcelEntity.columns := by
    decide +kernel
  obtain ⟨-, hpair, -⟩ := attributes_isIdentifier_iff parcelEntity
  refine ⟨harea, howner, fun hspells => ?_, ?_, (hpair _ howner).2⟩
  · exact absurd ((hpair _ harea).1.2 hspells) (by decide +kernel)
  · exact (hpair _ howner).1.1 (by decide +kernel)

/-- The attribute keeps the superscript and is no identifier. -/
theorem parcelEntity_not_identifier :
    parcelEntity.columns.Nodup ∧
    attributeNames parcelEntity.columns = ["area_m²", "f_2nd_owner"] ∧
    isIdentifier "area_m²" = false ∧
    ¬ ∀ e : Entity, e.columns.Nodup →
      ∀ name ∈ attributeNames e.columns, isIdentifier name = true := by
  have hnodup : parcelEntity.columns.Nodup := by decide +kernel
  have hnames : attributeNames parcelEntity.columns = ["area_m²", "f_2nd_owner"] := by
    decide +kernel
  have hrefused : isIdentifier "area_m²" = false := by decide +kernel
  refine ⟨hnodup, hnames, hrefused, fun hall => ?_⟩
  have haccepted := hall parcelEntity hnodup "area_m²" (by rw [hnames]; exact List.mem_cons_self)
  rw [hrefused] at haccepted
  cases haccepted

end Names

end EntityService
