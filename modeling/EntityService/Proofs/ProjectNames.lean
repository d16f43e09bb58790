import EntityService.Proofs.PathText

/-!
# Names of projects and of distributions

A project is distributed under its name, so its name should be the name of a distribution: letters
and digits of ASCII, with points, underscores and hyphens between them.  The test for the name of a
project lets more through.  Four characters beyond ASCII count as letters, because a letter of ASCII
is a case variant of each, and a line feed at the end is overlooked.

This file says exactly how much more.  Put the letters of ASCII in the place of their variants and
take the line feed away: what is left of the name of a project is the name of a distribution, and
there is no other way to get one.

## What is here

* `IsDistributionName` — the names of distributions.
* `asciiVariant`, `withoutLineFeed` — what the test overlooks.
* `isProjectLetter_iff`, `isProjectChar_iff`, `isProjectStem_iff` — single characters and whole
  names.
* `isProjectName_iff` — the names that pass the test.
* `isDistributionName_iff` — those of them that are the names of distributions.
-/

set_option autoImplicit false

namespace EntityService.Names

/-! ## Names of distributions -/

/-- The marks that may stand between the letters and digits of a name. -/
def nameMarks : List Char := ['.', '_', '-']

/-- The name of a distribution: letters and digits of ASCII, points, underscores and hyphens, of
which the first and the last are letters or digits. -/
structure IsDistributionName (cs : List Char) : Prop where
  chars : ∀ c ∈ cs, c.isAlphanum = true ∨ c ∈ nameMarks
  first : ∃ c, cs.head? = some c ∧ c.isAlphanum = true
  last : ∃ c, cs.getLast? = some c ∧ c.isAlphanum = true

/-! ## What the test overlooks -/

/-- The characters beyond ASCII that have case variants in ASCII, with these. -/
def caseVariants : List (Char × Char) :=
  [('\u0130', 'i'), ('\u0131', 'i'), ('\u017f', 's'), ('\u212a', 'k')]

/-- These characters alone. -/
def variantLetters : List Char := caseVariants.map (·.1)

/-- A character, or its case variant in ASCII if it is not in ASCII and has one. -/
def asciiVariant (c : Char) : Char := (caseVariants.lookup c).getD c

/-- A text without the line feed that it may end in. -/
def withoutLineFeed (cs : List Char) : List Char :=
  if cs.getLast? = some '\n' then cs.dropLast else cs

theorem asciiVariant_eq_self {c : Char} (h : c ∉ variantLetters) : asciiVariant c = c := by
  simp only [variantLetters, caseVariants, List.map_cons, List.map_nil, List.mem_cons,
    List.not_mem_nil, or_false, not_or] at h
  simp only [asciiVariant, caseVariants, List.lookup_cons, List.lookup_nil, beq_false_of_ne h.1,
    beq_false_of_ne h.2.1, beq_false_of_ne h.2.2.1, beq_false_of_ne h.2.2.2, Option.getD_none]

/-! ## Characters -/

/-- The variants count as letters, as those do that they are variants of.  They are no letters of
ASCII themselves. -/
theorem variantLetter_facts : ∀ d ∈ variantLetters, isProjectLetter d = true ∧
    (asciiVariant d).isAlphanum = true ∧ d.isAlphanum = false ∧ d ∉ nameMarks := by
  have hall : variantLetters.all (fun d => isProjectLetter d && (asciiVariant d).isAlphanum
      && !d.isAlphanum && !nameMarks.contains d) = true := by
    decide
  intro d hd
  have hd := List.all_eq_true.1 hall d hd
  simpa [and_assoc] using hd

theorem isProjectLetter_iff (c : Char) :
    isProjectLetter c = true ↔ (asciiVariant c).isAlphanum = true := by
  by_cases hc : c ∈ variantLetters
  · exact iff_of_true (variantLetter_facts c hc).1 (variantLetter_facts c hc).2.1
  rw [asciiVariant_eq_self hc, isProjectLetter]
  simp only [variantLetters, caseVariants, List.map_cons, List.map_nil, List.mem_cons,
    List.not_mem_nil, or_false, not_or] at hc
  have halphanum : c.isAlphanum = ((c.isUpper || c.isLower) || c.isDigit) := rfl
  have hupper : c.isUpper = true ↔ 'A' ≤ c ∧ c ≤ 'Z' := decide_eq_true_iff
  have hlower : c.isLower = (decide ('a' ≤ c) && decide (c ≤ 'z')) := rfl
  have hdigit : c.isDigit = (decide ('0' ≤ c) && decide (c ≤ '9')) := rfl
  simp only [halphanum, hupper, hlower, hdigit, hc.1, hc.2.1, hc.2.2.1, hc.2.2.2, beq_iff_eq,
    Bool.or_eq_true, Bool.and_eq_true, decide_eq_true_eq, or_false]
  exact or_assoc.trans or_comm

theorem isProjectChar_iff (c : Char) :
    isProjectChar c = true ↔ (asciiVariant c).isAlphanum = true ∨ asciiVariant c ∈ nameMarks := by
  have hmark : isProjectChar c = true ↔ isProjectLetter c = true ∨ c ∈ nameMarks := by
    simp only [isProjectChar, nameMarks, Bool.or_eq_true, beq_iff_eq, List.mem_cons,
      List.not_mem_nil, or_false, or_assoc]
  rw [hmark, isProjectLetter_iff]
  by_cases hc : c ∈ variantLetters
  · have hletter := (variantLetter_facts c hc).2.1
    exact iff_of_true (.inl hletter) (.inl hletter)
  · rw [asciiVariant_eq_self hc]

/-! ## Names -/

theorem any_isProjectLetter_iff (c? : Option Char) :
    c?.any isProjectLetter = true ↔
      ∃ c, c?.map asciiVariant = some c ∧ c.isAlphanum = true := by
  cases c? with
  | none => simp
  | some c => simp [isProjectLetter_iff]

theorem isProjectStem_iff (cs : List Char) :
    isProjectStem cs = true ↔ IsDistributionName (cs.map asciiVariant) := by
  rw [isProjectStem, Bool.and_eq_true, Bool.and_eq_true, any_isProjectLetter_iff,
    any_isProjectLetter_iff, ← List.head?_map, ← List.getLast?_map, List.all_eq_true]
  constructor
  · rintro ⟨⟨hfirst, hlast⟩, hchars⟩
    exact ⟨List.forall_mem_map.2 fun c hc => (isProjectChar_iff c).1 (hchars c hc), hfirst, hlast⟩
  · rintro ⟨hchars, hfirst, hlast⟩
    exact ⟨⟨hfirst, hlast⟩, fun c hc =>
      (isProjectChar_iff c).2 (List.forall_mem_map.1 hchars c hc)⟩

/-- **The names that pass the test:** the names of distributions, with variants in the place of
letters and a line feed at the end, or without. -/
theorem isProjectName_iff (name : String) :
    isProjectName name = true ↔
      IsDistributionName ((withoutLineFeed name.toList).map asciiVariant) :=
  isProjectStem_iff _

/-- What comes before the line feed is not empty and holds only characters that are allowed. -/
theorem stem_of_isProjectName {name : String} (h : isProjectName name = true) :
    withoutLineFeed name.toList ≠ [] ∧
      ∀ c ∈ withoutLineFeed name.toList, isProjectChar c = true := by
  have hstem : isProjectStem (withoutLineFeed name.toList) = true := h
  rw [isProjectStem, Bool.and_eq_true, Bool.and_eq_true, List.all_eq_true] at hstem
  refine ⟨fun hempty => ?_, hstem.2⟩
  rw [hempty] at hstem
  exact absurd hstem.1.1 (by decide)

/-- The name of a distribution ends in no line feed and holds no variants. -/
theorem IsDistributionName.plain {cs : List Char} (h : IsDistributionName cs) :
    cs.getLast? ≠ some '\n' ∧ ∀ c ∈ cs, c ∉ variantLetters := by
  constructor
  · obtain ⟨c, hlast, halnum⟩ := h.last
    rw [hlast]
    rintro heq
    cases heq
    exact absurd halnum (by decide)
  · intro c hc hvariant
    obtain ⟨-, -, hletter, hmark⟩ := variantLetter_facts c hvariant
    rcases h.chars c hc with halnum | hmem
    · rw [hletter] at halnum
      cases halnum
    · exact hmark hmem

/-- **The names of distributions** are the names that pass the test and give it nothing to
overlook. -/
theorem isDistributionName_iff (name : String) :
    IsDistributionName name.toList ↔ isProjectName name = true ∧
      name.toList.getLast? ≠ some '\n' ∧ ∀ c ∈ name.toList, c ∉ variantLetters := by
  have hsame : name.toList.getLast? ≠ some '\n' → (∀ c ∈ name.toList, c ∉ variantLetters) →
      (withoutLineFeed name.toList).map asciiVariant = name.toList := by
    intro hlast hplain
    rw [withoutLineFeed, if_neg hlast]
    exact (List.map_congr_left fun c hc => asciiVariant_eq_self (hplain c hc)).trans (List.map_id _)
  constructor
  · intro h
    obtain ⟨hlast, hplain⟩ := h.plain
    refine ⟨(isProjectName_iff name).2 ?_, hlast, hplain⟩
    rwa [hsame hlast hplain]
  · rintro ⟨haccepted, hlast, hplain⟩
    have hname := (isProjectName_iff name).1 haccepted
    rwa [hsame hlast hplain] at hname

end EntityService.Names
