import EntityService.Names.Attribute
import EntityService.Proofs.AttributeNames

/-!
# What an attribute name looks like

Whatever a property is called, its attribute can be written in the program: it is made of word
characters, and the first of them is neither an underscore nor a digit.  On names that look so, the
first steps of `baseAttribute` do nothing, and only the last one, the underscore after a name that a
model refuses, can change them.

That last step keeps attributes away from the names that a model refuses, with one exception.  The
refused names end in no underscore, so an attribute that took one is none of them; but a name that
starts with `model_` still does so with an underscore after it.

## What is here

* `IsFit` — the characters of attribute names, and `isFit_attribute`.
* `baseAttribute_of_isFit`, `isKept_iff` — what becomes of a property that looks like an attribute.
* `prefix_of_reserved` — the exception.
-/

set_option autoImplicit false

namespace EntityService.Names

open EntityService.Text

/-- Characters that can be written as an attribute. -/
structure IsFit (cs : List Char) : Prop where
  word : ∀ c ∈ cs, isWord c = true
  start : ∃ c rest, cs = c :: rest ∧ c ≠ '_' ∧ isDigit c = false

theorem IsFit.append {cs ds : List Char} (h : IsFit cs) (hds : ∀ d ∈ ds, isWord d = true) :
    IsFit (cs ++ ds) := by
  obtain ⟨c, rest, rfl, hc⟩ := h.start
  refine ⟨fun d hd => ?_, c, rest ++ ds, rfl, hc⟩
  rcases List.mem_append.1 hd with hd | hd
  · exact h.word d hd
  · exact hds d hd

theorem isWord_underscore : isWord '_' = true := by decide

theorem isWord_f : isWord 'f' = true := by decide

theorem IsFit.append_underscores {cs : List Char} (h : IsFit cs) (k : Nat) :
    IsFit (cs ++ List.replicate k '_') :=
  h.append fun d hd => by rw [List.eq_of_mem_replicate hd, isWord_underscore]

/-! ## The steps of a base name -/

theorem isWord_wordChar (p : CodePoint) : isWord (wordChar p) = true := by
  cases p with
  | half index => exact isWord_underscore
  | char c =>
    rw [wordChar]
    split
    · assumption
    · exact isWord_underscore

theorem isWord_of_mem_sanitize {name : Text} {c : Char} (h : c ∈ sanitize name) :
    isWord c = true := by
  obtain ⟨p, -, rfl⟩ := List.mem_map.1 ((List.dropWhile_sublist _).subset h)
  exact isWord_wordChar p

theorem isFit_withLetter (name : Text) : IsFit (withLetter (sanitize name)) := by
  have hword : ∀ c ∈ sanitize name, isWord c = true := fun c hc => isWord_of_mem_sanitize hc
  have hhead := List.head?_dropWhile_not (· == '_') (name.map wordChar)
  rw [← sanitize] at hhead
  cases hcs : sanitize name with
  | nil =>
    refine ⟨?_, 'f', ['_'], rfl, by decide, by decide +kernel⟩
    exact List.forall_mem_cons.2 ⟨isWord_f, List.forall_mem_singleton.2 isWord_underscore⟩
  | cons c rest =>
    rw [hcs] at hword hhead
    rw [withLetter]
    split
    · refine ⟨?_, 'f', _, rfl, by decide, by decide +kernel⟩
      exact List.forall_mem_cons.2 ⟨isWord_f, List.forall_mem_cons.2 ⟨isWord_underscore, hword⟩⟩
    · rename_i hdigit
      exact ⟨hword, c, rest, rfl, by simpa using hhead, Bool.eq_false_iff.2 hdigit⟩

theorem withUnderscore_eq (cs : List Char) :
    withUnderscore cs = cs ++ List.replicate (if isModelReserved cs then 1 else 0) '_' := by
  rw [withUnderscore]
  split
  · rfl
  · exact (List.append_nil cs).symm

theorem isFit_baseAttribute (property : Text) : IsFit (baseAttribute property).toList := by
  rw [baseAttribute, String.toList_ofList, withUnderscore_eq]
  exact (isFit_withLetter property).append_underscores _

theorem isFit_underscored {name : String} (h : IsFit name.toList) (k : Nat) :
    IsFit (underscored name k).toList := by
  rw [toList_underscored]
  exact h.append_underscores k

/-- **Every attribute can be written.** -/
theorem isFit_attribute {properties : List Text} {p : Text × String}
    (h : p ∈ namedProperties properties) : IsFit p.2.toList := by
  obtain ⟨k, hk, -⟩ := attributeNames_probed h
  rw [hk]
  exact isFit_underscored (isFit_baseAttribute p.1) k

/-! ## Properties that look like attributes -/

theorem sanitize_of_isFit {name : String} (h : IsFit name.toList) :
    sanitize (.ofString name) = name.toList := by
  have hmap : (Text.ofString name).map wordChar = name.toList := by
    rw [Text.ofString, Text.ofChars, List.map_map]
    refine (List.map_congr_left fun c hc => ?_).trans (List.map_id _)
    rw [Function.comp_apply, wordChar, if_pos (h.word c hc), id]
  obtain ⟨c, rest, hcs, hc, -⟩ := h.start
  rw [sanitize, hmap, hcs, List.dropWhile_cons_of_neg (by simpa using hc)]

theorem withLetter_of_isFit {cs : List Char} (h : IsFit cs) : withLetter cs = cs := by
  obtain ⟨c, rest, rfl, -, hdigit⟩ := h.start
  rw [withLetter, if_neg (Bool.eq_false_iff.1 hdigit)]

theorem baseAttribute_of_isFit {name : String} (h : IsFit name.toList) :
    baseAttribute (.ofString name)
      = underscored name (if isModelReserved name.toList then 1 else 0) := by
  rw [baseAttribute, sanitize_of_isFit h, withLetter_of_isFit h, withUnderscore_eq,
    ← String.toList_inj, String.toList_ofList, toList_underscored]

theorem isKept_iff {name : String} (h : IsFit name.toList) :
    isKept (.ofString name) = true ↔ isModelReserved name.toList = false := by
  rw [isKept, beq_iff_eq, Text.ofString_inj, baseAttribute_of_isFit h]
  nth_rewrite 1 [← underscored_zero name]
  rw [underscored_right_inj]
  cases isModelReserved name.toList <;> simp

/-! ## Names that a model refuses -/

theorem reserved_getLast? :
    ∀ name ∈ keywords ++ modelNames, name.toList.getLast? ≠ some '_' := by
  decide +kernel

theorem prefix_of_reserved_append {cs : List Char} (h : isModelReserved (cs ++ ['_']) = true) :
    "model_".toList <+: cs ++ ['_'] := by
  have hnot : String.ofList (cs ++ ['_']) ∉ keywords ++ modelNames := by
    intro hname
    refine reserved_getLast? _ hname ?_
    rw [String.toList_ofList, List.getLast?_append, List.getLast?_singleton]
    rfl
  rw [List.mem_append, not_or] at hnot
  simp only [isModelReserved, Bool.or_eq_true, decide_eq_true_eq] at h
  rcases h with (h | h) | h
  · exact absurd h hnot.1
  · exact absurd h hnot.2
  · exact List.isPrefixOf_iff_prefix.1 h

/-- **The exception.**  The only refused names among those that start from the base name of a
property are names that start with `model_`. -/
theorem prefix_of_reserved {property : Text} {k : Nat}
    (h : isModelReserved (underscored (baseAttribute property) k).toList = true) :
    "model_".toList <+: (underscored (baseAttribute property) k).toList := by
  cases k with
  | succ k =>
    have hsucc : (underscored (baseAttribute property) (k + 1)).toList
        = (underscored (baseAttribute property) k).toList ++ ['_'] := by
      rw [toList_underscored, toList_underscored, List.replicate_succ', List.append_assoc]
    rw [hsucc] at h ⊢
    exact prefix_of_reserved_append h
  | zero =>
    have hbase : (baseAttribute property).toList
        = withUnderscore (withLetter (sanitize property)) := String.toList_ofList
    rw [underscored_zero, hbase, withUnderscore] at h ⊢
    split at h
    · rename_i hreserved
      rw [if_pos hreserved]
      exact prefix_of_reserved_append h
    · rename_i hfree
      exact absurd h hfree

end EntityService.Names
