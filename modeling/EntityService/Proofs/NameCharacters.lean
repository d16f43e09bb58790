import EntityService.Names.ClassName
import EntityService.Proofs.AttributeShape
import EntityService.Proofs.LowerCase
import EntityService.Proofs.Resources

/-!
# The characters of names

A name stands in the program as it is, without quotes, so it must not hold anything that the program
could be read by: no blanks, no marks, no ends of lines.  Three kinds of names come from a schema, and
each is checked or made in its own way.

* The name of a class is an identifier.
* The name of a handler holds the name of a class in lower case.
* The name of an attribute is made of word characters.

A reader that has begun a name goes on through letters, digits and underscores of ASCII and through
everything beyond ASCII.  This file shows that all names are made of such characters.

## What is here

* `Text.isNameChar`, `Text.IsName` — the characters that a name is read through, and the texts that
  are read as one name.
* `Text.IsName.not_mem` — what is not in a name.
* `Names.classNameFault?_eq_none_iff` — the names that can name a class.
* `Entity.isName_name`, `Entity.isName_handlerName`, `Names.isName_attribute` — the three kinds.
* `Resource.IsNamed`, `Entity.isNamed` — all of them together.
-/

set_option autoImplicit false

namespace EntityService

namespace Text

/-! ## Characters -/

/-- What holds of all characters of a text is decided along the text.  Another instance would go
through all characters that there are. -/
instance decidableForallMem (cs : List Char) (p : Char → Prop) [DecidablePred p] :
    Decidable (∀ c ∈ cs, p c) :=
  List.decidableBAll p cs

/-- A character that a name is read through. -/
def isNameChar (c : Char) : Bool := c.isAlphanum || c == '_' || 0x80 ≤ c.toNat

/-- A text that is read as one name. -/
structure IsName (name : String) : Prop where
  ne_nil : name.toList ≠ []
  chars : ∀ c ∈ name.toList, isNameChar c = true

/-- It is enough to look at the characters of ASCII. -/
theorem isNameChar_of_ascii {p : Char → Bool}
    (h : ∀ n < 0x80, p (Char.ofNat n) = true → isNameChar (Char.ofNat n) = true) {c : Char}
    (hc : p c = true) : isNameChar c = true := by
  rcases Nat.lt_or_ge c.toNat 0x80 with hlt | hge
  · have hascii := h c.toNat hlt
    rw [Char.ofNat_toNat] at hascii
    exact hascii hc
  · rw [isNameChar, decide_eq_true hge, Bool.or_true]

theorem isNameChar_of_isIdentifierStart {c : Char} (h : isIdentifierStart c = true) :
    isNameChar c = true :=
  isNameChar_of_ascii (by decide +kernel) h

theorem isNameChar_of_isIdentifierContinue {c : Char} (h : isIdentifierContinue c = true) :
    isNameChar c = true :=
  isNameChar_of_ascii (by decide +kernel) h

theorem isNameChar_of_isWord {c : Char} (h : isWord c = true) : isNameChar c = true :=
  isNameChar_of_ascii (by decide +kernel) h

theorem isNameChar_of_isLetterCode {c : Char} (h : IsLetterCode c.toNat) : isNameChar c = true :=
  isNameChar_of_ascii (p := fun c => decide (IsLetterCode c.toNat)) (by decide +kernel)
    (decide_eq_true h)

/-- None of the characters that are not in names is in a name. -/
theorem IsName.not_mem {name : String} (h : IsName name) {marks : List Char}
    (hmarks : ∀ c ∈ marks, isNameChar c = false) {c : Char} (hc : c ∈ name.toList) :
    c ∉ marks := by
  intro hmark
  have hchar := h.chars c hc
  rw [hmarks c hmark] at hchar
  cases hchar

/-- A number is read like a name. -/
theorem isName_repr (n : Nat) : IsName n.repr where
  ne_nil := by
    rw [Nat.repr_eq_ofList_toDigits, String.toList_ofList]
    exact Nat.toDigits_ne_nil
  chars c hc := by
    rw [Nat.repr_eq_ofList_toDigits, String.toList_ofList] at hc
    have hdigit := Nat.isDigit_of_mem_toDigits (by decide) (by decide) hc
    simp [isNameChar, Char.isAlphanum, hdigit]

/-- Lower-casing makes names of names. -/
theorem IsName.lower {name : String} (h : IsName name) : IsName (lower name) where
  ne_nil := by
    have hlength := length_le_length_lower name
    have hpos := List.length_pos_iff.2 h.ne_nil
    exact List.length_pos_iff.1 (by omega)
  chars c hc := by
    rcases mem_lower hc with hc | hletter
    · exact h.chars c hc
    · exact isNameChar_of_isLetterCode hletter

end Text

open EntityService.Text

/-! ## Names of classes -/

namespace Names

theorem classNameFault?_eq_none_iff {name : String} :
    classNameFault? name = none ↔ (isIdentifier name = true ∧ name ∉ keywords) ∧
      name.toList.head? ≠ some '_' ∧ name ∉ moduleNames ∧ name ∉ builtins := by
  rw [classNameFault?]
  split
  · rename_i h
    refine ⟨nofun, fun hfine => ?_⟩
    rcases h with h | h
    · rw [hfine.1.1] at h
      cases h
    · exact absurd h hfine.1.2
  · rename_i hidentifier
    rw [not_or, Bool.not_eq_false] at hidentifier
    split
    · rename_i h
      exact ⟨nofun, fun hfine => absurd h hfine.2.1⟩
    · rename_i hunderscore
      split
      · rename_i h
        refine ⟨nofun, fun hfine => ?_⟩
        exact absurd h (not_or.2 hfine.2.2)
      · rename_i hreserved
        exact ⟨fun _ => ⟨hidentifier, hunderscore, not_or.1 hreserved⟩, fun _ => rfl⟩

theorem isName_of_isIdentifier {name : String} (h : isIdentifier name = true) : IsName name := by
  rw [isIdentifier] at h
  cases hcs : name.toList with
  | nil =>
    rw [hcs] at h
    cases h
  | cons c rest =>
    rw [hcs] at h
    obtain ⟨hstart, hrest⟩ := Bool.and_eq_true_iff.1 h
    constructor
    · rw [hcs]
      exact List.cons_ne_nil c rest
    · rw [hcs, List.forall_mem_cons]
      refine ⟨isNameChar_of_isIdentifierStart hstart, fun d hd => ?_⟩
      exact isNameChar_of_isIdentifierContinue (List.all_eq_true.1 hrest d hd)

end Names

/-! ## Names of handlers -/

namespace Entity

variable (e : Entity)

theorem isName_name (h : Names.classNameFault? e.name = none) : IsName e.name :=
  Names.isName_of_isIdentifier (Names.classNameFault?_eq_none_iff.1 h).1.1

theorem toList_handlerName (v : Verb) :
    (e.handlerName v.name).toList = v.name.toList ++ '_' :: e.lowerName.toList := by
  rw [handlerName, String.toList_append, String.toList_append, List.append_assoc]
  rfl

theorem isName_handlerName (h : Names.classNameFault? e.name = none) (v : Verb) :
    IsName (e.handlerName v.name) where
  ne_nil := by
    rw [toList_handlerName]
    exact List.append_ne_nil_of_right_ne_nil _ (List.cons_ne_nil _ _)
  chars c hc := by
    have hverb : ∀ u : Verb, ∀ d ∈ u.name.toList, isNameChar d = true := by
      intro u
      cases u <;> decide
    rw [toList_handlerName, List.mem_append, List.mem_cons] at hc
    rcases hc with hc | rfl | hc
    · exact hverb v c hc
    · decide
    · exact (e.isName_name h).lower.chars c hc

end Entity

/-! ## Names of attributes -/

theorem Names.isName_attribute {properties : List Text} {name : String}
    (h : name ∈ attributeNames properties) : IsName name := by
  obtain ⟨property, hproperty⟩ := exists_property h
  have hfit := isFit_attribute hproperty
  obtain ⟨c, rest, hcs, -⟩ := hfit.start
  constructor
  · rw [hcs]
    exact List.cons_ne_nil c rest
  · exact fun d hd => isNameChar_of_isWord (hfit.word d hd)

/-! ## All names of a resource -/

/-- All names that a resource puts into the program are read as names. -/
structure Resource.IsNamed (r : Resource) : Prop where
  entity : IsName r.entity.name
  members : ∀ m ∈ r.members, IsName m.name
  handlers : ∀ p ∈ r.handlers, IsName p.2

theorem Resource.IsNamed.handler {r : Resource} (h : r.IsNamed) {v : Verb} {handler : String}
    (hhandler : r.handler? v = some handler) : IsName handler := by
  obtain ⟨before, after, hmem, -⟩ := List.lookup_eq_some_iff.1 hhandler
  refine h.handlers (v, handler) ?_
  rw [hmem]
  exact List.mem_append_right _ List.mem_cons_self

theorem Entity.isName_member (e : Entity) {m : Member} (hm : m ∈ e.members) : IsName m.name := by
  obtain ⟨⟨f, name⟩, hp, rfl⟩ := List.mem_map.1 hm
  exact Names.isName_attribute (List.of_mem_zip hp).2

/-- **All names of an entity that was accepted are read as names.** -/
theorem Entity.isNamed {e : Entity} (h : Names.classNameFault? e.name = none) (schema : Text) :
    (e.resource schema).IsNamed where
  entity := e.isName_name h
  members _ hm := e.isName_member hm
  handlers p hp := by
    rw [resource_handlers] at hp
    obtain ⟨v, -, rfl⟩ := List.mem_map.1 hp
    exact e.isName_handlerName h v

end EntityService
