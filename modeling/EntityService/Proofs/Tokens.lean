import EntityService.Proofs.LiteralReading
import EntityService.Proofs.NameCharacters

/-!
# Tokens

The generated language reads a line as a sequence of tokens: names, literals and marks.  Keywords and
numbers count as names here, and every mark is a token of its own; blanks only keep names apart.
This file says how a line is read, and how a line is read that was put together from texts.

Reading is cut wherever one name cannot go on into the next: `lex_append`.  So a line is read text by
text.  Fixed texts are read by evaluation, a name is read as one token, and so is a literal.

## What is here

* `Token`, `lex`, `tokens` — reading a text.
* `EndsName`, `IsClosed`, `lex_append`, `lex_text` — where reading can be cut.
* `lex_name`, `lex_literal`, `lex_named_literal`, `lex_number` — reading what schemas put into a
  line.
-/

set_option autoImplicit false

namespace EntityService.Text

/-- What a line is read as. -/
inductive Token
  /-- A name, a keyword or a number. -/
  | word (name : String)
  /-- A literal with this content. -/
  | literal (content : List Char)
  /-- Anything else but a blank. -/
  | mark (c : Char)
deriving DecidableEq, Repr

/-- The name that was read, if there is one. -/
def ended (name : List Char) : List Token := if name = [] then [] else [.word (String.ofList name)]

/-- Reads on, with the characters of the name that has begun and the number of characters to leave
out, which belong to a literal. -/
def lex : List Char → Nat → List Char → List Token
  | name, _, [] => ended name
  | name, skipped + 1, _ :: cs => lex name skipped cs
  | name, 0, c :: cs =>
    if isNameChar c then lex (name ++ [c]) 0 cs
    else
      ended name ++
        match splitLiteral (c :: cs) with
        | some (content, rest) => .literal content :: lex [] (cs.length - rest.length) cs
        | none => if c = ' ' then lex [] 0 cs else .mark c :: lex [] 0 cs

/-- The tokens of a text. -/
def tokens (text : String) : List Token := lex [] 0 text.toList

/-! ## One step -/

/-- A name ends before these characters. -/
def EndsName (cs : List Char) : Prop := ∀ c ∈ cs.head?, isNameChar c = false

theorem endsName_of_head {cs : List Char} {c : Char} (h : cs.head? = some c)
    (hc : isNameChar c = false) : EndsName cs := by
  intro d hd
  rw [h] at hd
  rw [← Option.some.inj hd, hc]

theorem lex_nil (name : List Char) : lex name 0 [] = ended name := by
  rw [lex]

theorem lex_skip (name cs rest : List Char) : lex name cs.length (cs ++ rest) = lex name 0 rest := by
  induction cs with
  | nil => rfl
  | cons c cs ih => rw [List.length_cons, List.cons_append, lex, ih]

theorem lex_chars {name cs : List Char} (h : ∀ c ∈ cs, isNameChar c = true) (rest : List Char) :
    lex name 0 (cs ++ rest) = lex (name ++ cs) 0 rest := by
  induction cs generalizing name with
  | nil => rw [List.nil_append, List.append_nil]
  | cons c cs ih =>
    rw [List.forall_mem_cons] at h
    rw [List.cons_append, lex, if_pos h.1, ih h.2, List.append_assoc, List.singleton_append]

/-- What has been read does not matter after the end of a name. -/
theorem lex_end {cs : List Char} (h : EndsName cs) (name : List Char) :
    lex name 0 cs = ended name ++ lex [] 0 cs := by
  cases cs with
  | nil => simp [lex, ended]
  | cons c cs =>
    have hc : ¬ isNameChar c = true := by
      simpa using h c rfl
    rw [lex, if_neg hc, lex, if_neg hc]
    rfl

/-! ## Names and literals -/

/-- **A name is read as one token.** -/
theorem lex_name {name : String} (h : IsName name) {rest : List Char} (hrest : EndsName rest) :
    lex [] 0 (name.toList ++ rest) = .word name :: lex [] 0 rest := by
  rw [lex_chars h.chars, lex_end hrest, List.nil_append, ended, if_neg h.ne_nil,
    String.ofList_toList]
  rfl

theorem lex_split {c : Char} {cs content rest : List Char} (hc : isNameChar c = false)
    (h : splitLiteral (c :: cs ++ rest) = some (content, rest)) :
    lex [] 0 (c :: cs ++ rest) = .literal content :: lex [] 0 rest := by
  rw [List.cons_append] at h ⊢
  rw [lex, if_neg (by simp [hc]), h]
  simp [ended, lex_skip]

theorem quote_endsName {value : Text} : isNameChar (quoteMark value) = false := by
  rcases quoteMark_eq value with h | h <;> rw [h] <;> decide

/-- **A literal is read as one token.** -/
theorem lex_literal (value : Text) {rest : List Char} (h : rest.head? ≠ some (quoteMark value)) :
    lex [] 0 (literalChars value ++ rest)
      = .literal (value.flatMap (escapePoint (quoteMark value))) :: lex [] 0 rest := by
  have hsplit := splitLiteral_literalChars value h
  rw [literalChars] at hsplit ⊢
  exact lex_split quote_endsName hsplit

/-- A literal in which nothing is escaped is read as one token. -/
theorem lex_unescaped {content : List Char}
    (hcontent : ∀ c ∈ content, c ≠ '\\' ∧ c ≠ '"' ∧ c ∉ lineEnds) (hne : content ≠ [])
    (rest : List Char) :
    lex [] 0 ('"' :: content ++ '"' :: rest) = .literal content :: lex [] 0 rest := by
  have hsingle : ¬ ['"', '"'].isPrefixOf (content ++ '"' :: rest) = true := by
    obtain ⟨c, cs, rfl⟩ := List.exists_cons_of_ne_nil hne
    have hc := (hcontent c List.mem_cons_self).2.1
    rw [List.isPrefixOf_iff_prefix]
    rintro ⟨after, hafter⟩
    exact hc (List.cons.inj hafter).1.symm
  have hsplit : splitLiteral ('"' :: content ++ '"' :: rest) = some (content, rest) := by
    rw [List.cons_append, splitLiteral, if_neg (by decide), if_neg hsingle,
      splitContent_run hcontent, splitContent_close (.inr rfl), Option.map_some, List.append_nil]
  have hskip : '"' :: content ++ '"' :: rest = '"' :: (content ++ ['"']) ++ rest := by
    simp
  rw [hskip] at hsplit ⊢
  exact lex_split (by decide) hsplit

/-! ## Texts without literals -/

/-- The token of a character that is neither in a name nor a quote mark. -/
def markToken (c : Char) : List Token := if c = ' ' then [] else [.mark c]

theorem lex_mark {c : Char} (hc : isNameChar c = false) (hquote : c ≠ '\'' ∧ c ≠ '"')
    (name cs : List Char) :
    lex name 0 (c :: cs) = ended name ++ (markToken c ++ lex [] 0 cs) := by
  have hnone : splitLiteral (c :: cs) = none := by
    rw [splitLiteral, if_pos hquote]
  rw [lex, if_neg (by simp [hc]), hnone, markToken]
  by_cases hblank : c = ' '
  · simp [hblank]
  · simp [hblank]

/-- A text without quote marks. -/
def IsUnquoted (cs : List Char) : Prop := ∀ c ∈ cs, c ≠ '\'' ∧ c ≠ '"'

instance (cs : List Char) : Decidable (IsUnquoted cs) :=
  inferInstanceAs (Decidable (∀ c ∈ cs, c ≠ '\'' ∧ c ≠ '"'))

/-- **Reading can be cut** where no name goes on. -/
theorem lex_append {cs : List Char} (h : IsUnquoted cs) {rest : List Char} (hrest : EndsName rest)
    (name : List Char) : lex name 0 (cs ++ rest) = lex name 0 cs ++ lex [] 0 rest := by
  induction cs generalizing name with
  | nil => rw [List.nil_append, lex_nil, lex_end hrest]
  | cons c cs ih =>
    rw [IsUnquoted, List.forall_mem_cons] at h
    by_cases hc : isNameChar c = true
    · rw [List.cons_append, lex, lex, if_pos hc, if_pos hc, ih h.2]
    · rw [Bool.not_eq_true] at hc
      rw [List.cons_append, lex_mark hc h.1, lex_mark hc h.1, ih h.2]
      simp only [List.append_assoc]

/-- Texts without quote marks that do not end in a name. -/
def IsClosed (cs : List Char) : Prop :=
  IsUnquoted cs ∧ cs.getLast?.all (fun c => !isNameChar c) = true

instance (cs : List Char) : Decidable (IsClosed cs) :=
  inferInstanceAs (Decidable (_ ∧ cs.getLast?.all (fun c => !isNameChar c) = true))

/-- Reading can be cut also behind a mark or a blank. -/
theorem lex_closed {cs : List Char} (h : IsClosed cs) (rest : List Char) :
    lex [] 0 (cs ++ rest) = lex [] 0 cs ++ lex [] 0 rest := by
  obtain ⟨hquotes, hlast⟩ := h
  rcases List.eq_nil_or_concat cs with rfl | ⟨front, c, rfl⟩
  · rw [List.nil_append, lex_nil]
    rfl
  · have hc : isNameChar c = false := by simpa using hlast
    have hends : ∀ more : List Char, EndsName (c :: more) := by
      intro more d hd
      rw [← Option.some.inj hd, hc]
    have hfront : IsUnquoted front := fun d hd => hquotes d (by simp [hd])
    have hquote := hquotes c (by simp)
    rw [List.concat_eq_append, List.append_assoc, List.singleton_append, lex_append hfront (hends rest),
      lex_append hfront (hends []), lex_mark hc hquote, lex_mark hc hquote, lex_nil]
    simp [ended]

theorem lex_text (text : String) (h : IsClosed text.toList) (rest : List Char) :
    lex [] 0 (text.toList ++ rest) = tokens text ++ lex [] 0 rest :=
  lex_closed h rest

/-- Fixed text, then a name, then something that ends the name. -/
theorem lex_text_name (text : String) (h : IsClosed text.toList) {name : String}
    (hname : IsName name) {rest : List Char} (hrest : EndsName rest) :
    lex [] 0 (text.toList ++ (name.toList ++ rest))
      = tokens text ++ .word name :: lex [] 0 rest := by
  rw [lex_text text h, lex_name hname hrest]

/-! ## Literals that hold a name -/

/-- A literal that begins with a name and goes on with fixed text. -/
theorem lex_named_literal {name : String} (h : IsName name) {fixed : List Char}
    (hfixed : ∀ c ∈ fixed, c ≠ '\\' ∧ c ≠ '"' ∧ c ∉ lineEnds) (rest : List Char) :
    lex [] 0 ('"' :: (name.toList ++ (fixed ++ '"' :: rest)))
      = .literal (name.toList ++ fixed) :: lex [] 0 rest := by
  have hplain : ∀ c ∈ name.toList, c ≠ '\\' ∧ c ≠ '"' ∧ c ∉ lineEnds := by
    intro c hc
    have hmarks : c ∉ '\\' :: '"' :: lineEnds := h.not_mem (by decide) hc
    simpa [not_or] using hmarks
  have hcontent : ∀ c ∈ name.toList ++ fixed, c ≠ '\\' ∧ c ≠ '"' ∧ c ∉ lineEnds :=
    List.forall_mem_append.2 ⟨hplain, hfixed⟩
  have hne : name.toList ++ fixed ≠ [] := List.append_ne_nil_of_left_ne_nil h.ne_nil _
  rw [← lex_unescaped hcontent hne rest]
  simp

/-! ## Numbers -/

/-- The tokens of a number. -/
def numberTokens (n : Int) : List Token :=
  if 0 ≤ n then [.word n.toNat.repr] else [.mark '-', .word (-n).toNat.repr]

theorem lex_number (n : Int) {rest : List Char} (h : EndsName rest) :
    lex [] 0 ((toString n).toList ++ rest) = numberTokens n ++ lex [] 0 rest := by
  rw [Int.toString_eq_repr, Int.repr_eq_if, numberTokens]
  split
  · exact lex_name (isName_repr _) h
  · rw [String.toList_append, List.append_assoc]
    show lex [] 0 ('-' :: ((-n).toNat.repr.toList ++ rest)) = _
    rw [lex_mark (by decide) (by decide), lex_name (isName_repr _) h]
    rfl

end EntityService.Text
