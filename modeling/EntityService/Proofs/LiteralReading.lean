import EntityService.Text.Quoted
import Mathlib.Algebra.GroupWithZero.Nat
import Mathlib.Data.List.Basic

/-!
# Literals are read back

`Text.literal` writes a text as a literal of the generated language.  This file says how that
language reads a literal, and shows that it reads the text that was written.

A literal is read in two steps.  First its content is split off, up to the mark that closes it: a
backslash keeps the character after it from closing anything.  Then the escapes in the content are
replaced by what they denote.  The reader knows more than the writer needs: literals that are opened
by three marks, escapes by octal digits and by the names of characters, and backslashes that escape
nothing.

## What is here

* `splitContent`, `splitLiteral` — the first step.
* `escape?`, `unescape` — the second step.  Which names characters have is left open.
* `readLiteral` — both.
* `splitContent_escapePoint`, `unescape_escapePoint` — what each step makes of one code point that
  was written.
* `isPrintable_of_mem_literalChars` — the characters of a literal.
* `readLiteral_literalChars` — the main statement.
-/

set_option autoImplicit false

namespace EntityService.Text

/-! ## The content of a literal -/

/-- The characters that end a line. -/
def lineEnds : List Char := ['\n', '\r']

/-- The content of a literal up to the marks that close it, and what follows them.  A backslash
keeps the next character in the content.  If one mark closes the literal, the content does not go
beyond the line. -/
def splitContent (closing : List Char) : List Char → Option (List Char × List Char)
  | [] => none
  | c :: rest =>
    if c = '\\' then
      match rest with
      | [] => none
      | d :: more => (splitContent closing more).map fun p => (c :: d :: p.1, p.2)
    else if closing.isPrefixOf (c :: rest) then some ([], (c :: rest).drop closing.length)
    else if closing.length = 1 ∧ c ∈ lineEnds then none
    else (splitContent closing rest).map fun p => (c :: p.1, p.2)

/-- The content of the literal that a quote mark opens, and what follows the literal.  Three marks
open a literal that three marks close. -/
def splitLiteral : List Char → Option (List Char × List Char)
  | [] => none
  | mark :: rest =>
    if mark ≠ '\'' ∧ mark ≠ '"' then none
    else if [mark, mark].isPrefixOf rest then splitContent [mark, mark, mark] (rest.drop 2)
    else splitContent [mark] rest

/-! ## The text of a content -/

/-- The escapes of a single letter or mark. -/
def shortEscapes : List (Char × Char) :=
  [('\\', '\\'), ('\'', '\''), ('"', '"'), ('a', '\x07'), ('b', '\x08'), ('f', '\x0c'),
    ('n', '\n'), ('r', '\r'), ('t', '\t'), ('v', '\x0b')]

/-- The escapes by hexadecimal digits, with the number of digits. -/
def hexEscapes : List (Char × Nat) := [('x', 2), ('u', 4), ('U', 8)]

/-- The number that hexadecimal digits write. -/
def hexNumber? (digits : List Char) : Option Nat :=
  digits.foldlM (fun n c => (hexValue? c).map (16 * n + ·)) 0

/-- The number that a width of hexadecimal digits writes, and what follows them. -/
def readHex (width : Nat) (cs : List Char) : Option (Nat × List Char) :=
  if width ≤ cs.length then (hexNumber? (cs.take width)).map fun n => (n, cs.drop width) else none

/-- An octal digit. -/
def isOctalDigit (c : Char) : Bool := '0' ≤ c && c ≤ '7'

/-- The number that one to three octal digits write, and what follows them. -/
def readOctal (cs : List Char) : Nat × List Char :=
  let digits := (cs.takeWhile isOctalDigit).take 3
  (digits.foldl (fun n c => 8 * n + (c.toNat - 48)) 0, cs.drop digits.length)

section Names

variable (named : String → Option Char)

/-- The character whose name stands between braces, and what follows them. -/
def readNamed : List Char → Option (Char × List Char)
  | '\x7b' :: rest =>
    match rest.dropWhile (· ≠ '\x7d') with
    | _ :: left => (named (String.ofList (rest.takeWhile (· ≠ '\x7d')))).map fun c => (c, left)
    | [] => none
  | _ => none

/-- What a backslash and some of the characters after it denote, and the others.  A line that ends
in a backslash goes on in the next one; a backslash that escapes nothing stands for itself. -/
def escape? : List Char → Option (Text × List Char)
  | [] => none
  | c :: rest =>
    match shortEscapes.lookup c, hexEscapes.lookup c with
    | some d, _ => some ([.char d], rest)
    | none, some width =>
      match readHex width rest with
      | some (n, left) => if n < 0x110000 then some ([.ofUnit n], left) else none
      | none => none
    | none, none =>
      if c = '\n' then some ([], rest)
      else if c = 'N' then (readNamed named rest).map fun p => ([.char p.1], p.2)
      else if isOctalDigit c then
        some ([.ofUnit (readOctal (c :: rest)).1], (readOctal (c :: rest)).2)
      else some ([.char '\\', .char c], rest)

theorem length_lt_of_readNamed {cs left : List Char} {c : Char}
    (h : readNamed named cs = some (c, left)) : left.length < cs.length := by
  unfold readNamed at h
  split at h
  · rename_i rest
    split at h
    · rename_i brace left' hleft
      obtain ⟨d, -, hd⟩ := Option.map_eq_some_iff.1 h
      cases hd
      have hlength := (List.dropWhile_suffix (· ≠ '\x7d') (l := rest)).length_le
      rw [hleft, List.length_cons] at hlength
      rw [List.length_cons]
      omega
    · cases h
  · cases h

theorem length_lt_of_escape? {cs left : List Char} {points : Text}
    (h : escape? named cs = some (points, left)) : left.length < cs.length := by
  unfold escape? at h
  split at h
  · cases h
  · rename_i c rest
    rw [List.length_cons]
    split at h
    · cases h
      exact Nat.lt_succ_self _
    · split at h
      · rename_i width _ n left' hhex
        split at h
        · cases h
          rw [readHex] at hhex
          split at hhex
          · obtain ⟨m, -, hm⟩ := Option.map_eq_some_iff.1 hhex
            cases hm
            rw [List.length_drop]
            omega
          · cases hhex
        · cases h
      · cases h
    · split at h
      · cases h
        exact Nat.lt_succ_self _
      · split at h
        · obtain ⟨⟨d, left'⟩, hnamed, hd⟩ := Option.map_eq_some_iff.1 h
          cases hd
          exact Nat.lt_succ_of_lt (length_lt_of_readNamed named hnamed)
        · split at h
          · rename_i hoctal
            cases h
            rw [readOctal, List.takeWhile_cons_of_pos hoctal]
            simp only [List.length_drop, List.take_succ_cons, List.length_cons]
            omega
          · cases h
            exact Nat.lt_succ_self _

/-- The text of a content. -/
def unescape : List Char → Option Text
  | [] => some []
  | c :: rest =>
    if c = '\\' then
      match _h : escape? named rest with
      | some (points, left) => (unescape left).map (points ++ ·)
      | none => none
    else (unescape rest).map (.char c :: ·)
termination_by cs => cs.length
decreasing_by
  · exact Nat.lt_succ_of_lt (length_lt_of_escape? named _h)
  · exact Nat.lt_succ_self _

/-- The text of the literal that starts here, and what follows the literal. -/
def readLiteral (cs : List Char) : Option (Text × List Char) :=
  match splitLiteral cs with
  | some (content, rest) => (unescape named content).map fun value => (value, rest)
  | none => none

end Names

/-! ## Hexadecimal digits -/

theorem mem_hex {width n : Nat} {c : Char} (h : c ∈ hex width n) : ∃ k < 16, c = Nat.digitChar k := by
  induction width generalizing n with
  | zero => exact absurd h List.not_mem_nil
  | succ width ih =>
    rw [hex, List.mem_append, List.mem_singleton] at h
    rcases h with h | rfl
    · exact ih h
    · exact ⟨n % 16, Nat.mod_lt _ (by decide), rfl⟩

theorem hexNumber?_hex (width n : Nat) : hexNumber? (hex width n) = some (n % 16 ^ width) := by
  induction width generalizing n with
  | zero => simp [hexNumber?, hex, Nat.mod_one]
  | succ width ih =>
    have hvalue := hexValue?_digitChar (n % 16) (Nat.mod_lt _ (by decide))
    simp only [hexNumber?] at ih
    rw [hexNumber?, hex, List.foldlM_append, ih]
    have hsplit : 16 * (n / 16 % 16 ^ width) + n % 16 = n % 16 ^ (width + 1) := by
      rw [Nat.pow_succ', Nat.mod_mul, Nat.add_comm]
    simp [hvalue, hsplit]

theorem readHex_hex {width n : Nat} (h : n < 16 ^ width) (rest : List Char) :
    readHex width (hex width n ++ rest) = some (n, rest) := by
  have hlength := hex_length width n
  rw [readHex, if_pos (by rw [List.length_append]; omega), List.take_left' hlength,
    List.drop_left' hlength, hexNumber?_hex, Nat.mod_eq_of_lt h, Option.map_some]

/-! ## Splitting off what was written -/

section Splitting

variable {mark : Char} (hmark : mark = '\'' ∨ mark = '"')

theorem splitContent_escaped (closing : List Char) (c : Char) (rest : List Char) :
    splitContent closing ('\\' :: c :: rest)
      = (splitContent closing rest).map fun p => ('\\' :: c :: p.1, p.2) := by
  rw [splitContent, if_pos rfl]

theorem splitContent_plain {c : Char} (hc : c ≠ '\\' ∧ c ≠ mark ∧ c ∉ lineEnds) (rest : List Char) :
    splitContent [mark] (c :: rest) = (splitContent [mark] rest).map fun p => (c :: p.1, p.2) := by
  have hclose : ¬ [mark].isPrefixOf (c :: rest) = true := by
    simp [List.isPrefixOf, Ne.symm hc.2.1]
  rw [splitContent.eq_def]
  simp only [if_neg hc.1, if_neg hclose, if_neg fun h : [mark].length = 1 ∧ c ∈ lineEnds => hc.2.2 h.2]

theorem splitContent_run {cs : List Char} (h : ∀ c ∈ cs, c ≠ '\\' ∧ c ≠ mark ∧ c ∉ lineEnds)
    (rest : List Char) :
    splitContent [mark] (cs ++ rest)
      = (splitContent [mark] rest).map fun p => (cs ++ p.1, p.2) := by
  induction cs with
  | nil => simp
  | cons c cs ih =>
    rw [List.forall_mem_cons] at h
    rw [List.cons_append, splitContent_plain h.1, ih h.2, Option.map_map]
    rfl

include hmark

theorem splitContent_close (rest : List Char) :
    splitContent [mark] (mark :: rest) = some ([], rest) := by
  have hne : mark ≠ '\\' := by
    rcases hmark with rfl | rfl <;> decide
  rw [splitContent.eq_def]
  simp [hne, List.isPrefixOf]

theorem plain_of_mem_hex {width n : Nat} {c : Char} (h : c ∈ hex width n) :
    c ≠ '\\' ∧ c ≠ mark ∧ c ∉ lineEnds := by
  have hdigits : ∀ k < 16, Nat.digitChar k ≠ '\\' ∧ Nat.digitChar k ≠ '\'' ∧
      Nat.digitChar k ≠ '"' ∧ Nat.digitChar k ∉ lineEnds := by
    decide
  obtain ⟨k, hk, rfl⟩ := mem_hex h
  obtain ⟨hbackslash, hsingle, hdouble, hend⟩ := hdigits k hk
  rcases hmark with rfl | rfl
  · exact ⟨hbackslash, hsingle, hend⟩
  · exact ⟨hbackslash, hdouble, hend⟩

theorem splitContent_hex (c : Char) (width n : Nat) (rest : List Char) :
    splitContent [mark] ('\\' :: c :: hex width n ++ rest)
      = (splitContent [mark] rest).map fun p => ('\\' :: c :: hex width n ++ p.1, p.2) := by
  rw [List.cons_append, List.cons_append, splitContent_escaped,
    splitContent_run fun d hd => plain_of_mem_hex hmark hd, Option.map_map]
  rfl

/-- **One code point is split off as it was written.** -/
theorem splitContent_escapePoint (p : CodePoint) (rest : List Char) :
    splitContent [mark] (escapePoint mark p ++ rest)
      = (splitContent [mark] rest).map fun q => (escapePoint mark p ++ q.1, q.2) := by
  cases p with
  | half index => exact splitContent_hex hmark 'u' 4 _ rest
  | char c =>
    rw [escapePoint, escapeChar]
    split
    · exact splitContent_escaped _ _ _
    · rename_i hc
      rw [not_or] at hc
      split
      · exact splitContent_escaped _ _ _
      · rename_i hnewline
        split
        · exact splitContent_escaped _ _ _
        · rename_i hreturn
          split
          · exact splitContent_escaped _ _ _
          · split
            · refine splitContent_plain ⟨hc.2, hc.1, ?_⟩ rest
              simp [lineEnds, hnewline, hreturn]
            · rw [escapeCode]
              split
              · exact splitContent_hex hmark 'x' 2 _ rest
              · split
                · exact splitContent_hex hmark 'u' 4 _ rest
                · exact splitContent_hex hmark 'U' 8 _ rest

theorem splitContent_flatMap (value : Text) (rest : List Char) :
    splitContent [mark] (value.flatMap (escapePoint mark) ++ mark :: rest)
      = some (value.flatMap (escapePoint mark), rest) := by
  induction value with
  | nil => exact splitContent_close hmark rest
  | cons p value ih =>
    rw [List.flatMap_cons, List.append_assoc, splitContent_escapePoint hmark, ih, Option.map_some]

end Splitting

/-! ## What was written denotes what it was written for -/

section Denoting

variable (named : String → Option Char) {mark : Char}

theorem unescape_plain {c : Char} (h : c ≠ '\\') (rest : List Char) :
    unescape named (c :: rest) = (unescape named rest).map (.char c :: ·) := by
  rw [unescape, if_neg h]

theorem unescape_escape {cs left : List Char} {points : Text}
    (h : escape? named cs = some (points, left)) :
    unescape named ('\\' :: cs) = (unescape named left).map (points ++ ·) := by
  rw [unescape, if_pos rfl]
  split
  · rename_i points' left' h'
    rw [h] at h'
    cases h'
    rfl
  · rename_i h'
    rw [h] at h'
    cases h'

theorem unescape_short {c d : Char} (h : shortEscapes.lookup c = some d) (rest : List Char) :
    unescape named ('\\' :: c :: rest) = (unescape named rest).map (.char d :: ·) := by
  have hescape : escape? named (c :: rest) = some ([.char d], rest) := by
    rw [escape?, h]
  rw [unescape_escape named hescape]
  rfl

theorem unescape_hex {c : Char} {width n : Nat} (hshort : shortEscapes.lookup c = none)
    (hhex : hexEscapes.lookup c = some width) (hn : n < 16 ^ width) (hcode : n < 0x110000)
    (rest : List Char) :
    unescape named ('\\' :: c :: hex width n ++ rest)
      = (unescape named rest).map (.ofUnit n :: ·) := by
  have hescape : escape? named (c :: hex width n ++ rest) = some ([.ofUnit n], rest) := by
    rw [List.cons_append, escape?, hshort, hhex]
    simp only [readHex_hex hn, if_pos hcode]
  rw [List.cons_append, unescape_escape named hescape]
  rfl

theorem ofUnit_toNat (c : Char) : CodePoint.ofUnit c.toNat = .char c := by
  have hnot : ¬ (0xd800 ≤ c.toNat ∧ c.toNat < 0xe000) := by
    have hvalid : c.toNat.isValidChar := c.valid
    rw [Nat.isValidChar] at hvalid
    omega
  rw [CodePoint.ofUnit, dif_neg hnot, Char.ofNat_toNat]

theorem ofUnit_half (index : Fin 0x800) : CodePoint.ofUnit (0xd800 + index) = .half index := by
  have hunit : 0xd800 ≤ 0xd800 + index.val ∧ 0xd800 + index.val < 0xe000 := by omega
  rw [CodePoint.ofUnit, dif_pos hunit]
  exact congrArg CodePoint.half (Fin.ext (Nat.add_sub_cancel_left _ _))

theorem unescape_escapeCode (c : Char) (rest : List Char) :
    unescape named (escapeCode c ++ rest) = (unescape named rest).map (.char c :: ·) := by
  have hcode : c.toNat < 0x110000 := by
    have hvalid : c.toNat.isValidChar := c.valid
    rw [Nat.isValidChar] at hvalid
    omega
  rw [← ofUnit_toNat c, escapeCode]
  split
  · rename_i hlt
    exact unescape_hex named rfl rfl hlt hcode rest
  · split
    · rename_i hlt
      exact unescape_hex named rfl rfl hlt hcode rest
    · exact unescape_hex named rfl rfl (Nat.lt_trans hcode (by decide)) hcode rest

/-- **One code point denotes itself as it was written.** -/
theorem unescape_escapePoint (hmark : mark = '\'' ∨ mark = '"') (p : CodePoint)
    (rest : List Char) :
    unescape named (escapePoint mark p ++ rest) = (unescape named rest).map (p :: ·) := by
  cases p with
  | half index =>
    have hwidth : 0xd800 + index.val < 16 ^ 4 := by omega
    have hcode : 0xd800 + index.val < 0x110000 := by omega
    rw [escapePoint, ← ofUnit_half index]
    exact unescape_hex named rfl rfl hwidth hcode rest
  | char c =>
    rw [escapePoint, escapeChar]
    split
    · rename_i hc
      refine unescape_short named ?_ rest
      rcases hc with rfl | rfl
      · rcases hmark with rfl | rfl <;> rfl
      · rfl
    · rename_i hc
      rw [not_or] at hc
      split
      · rename_i heq
        subst heq
        exact unescape_short named rfl rest
      · split
        · rename_i heq
          subst heq
          exact unescape_short named rfl rest
        · split
          · rename_i heq
            subst heq
            exact unescape_short named rfl rest
          · split
            · exact unescape_plain named hc.2 rest
            · exact unescape_escapeCode named c rest

theorem unescape_flatMap (hmark : mark = '\'' ∨ mark = '"') (value : Text) :
    unescape named (value.flatMap (escapePoint mark)) = some value := by
  induction value with
  | nil => rw [List.flatMap_nil, unescape]
  | cons p value ih => rw [List.flatMap_cons, unescape_escapePoint named hmark, ih, Option.map_some]

end Denoting

/-! ## Literals -/

theorem quoteMark_eq (value : Text) : quoteMark value = '\'' ∨ quoteMark value = '"' := by
  rw [quoteMark]
  split
  · exact .inr rfl
  · exact .inl rfl

/-- What is written for a code point does not start with the quote mark. -/
theorem escapePoint_head {mark : Char} (hmark : mark = '\'' ∨ mark = '"') (p : CodePoint) :
    ∃ c rest, escapePoint mark p = c :: rest ∧ c ≠ mark := by
  have hbackslash : '\\' ≠ mark := by
    rcases hmark with rfl | rfl <;> decide
  cases p with
  | half index => exact ⟨_, _, rfl, hbackslash⟩
  | char c =>
    rw [escapePoint, escapeChar]
    split
    · exact ⟨_, _, rfl, hbackslash⟩
    · rename_i hc
      rw [not_or] at hc
      repeat' split
      · exact ⟨_, _, rfl, hbackslash⟩
      · exact ⟨_, _, rfl, hbackslash⟩
      · exact ⟨_, _, rfl, hbackslash⟩
      · exact ⟨_, _, rfl, hc.1⟩
      · rw [escapeCode]
        repeat' split
        all_goals exact ⟨_, _, rfl, hbackslash⟩

/-- The content of a literal is split off as it was written, unless the literal runs into another
quote mark. -/
theorem splitLiteral_literalChars (value : Text) {rest : List Char}
    (h : rest.head? ≠ some (quoteMark value)) :
    splitLiteral (literalChars value ++ rest)
      = some (value.flatMap (escapePoint (quoteMark value)), rest) := by
  have hmark := quoteMark_eq value
  rw [literalChars]
  generalize quoteMark value = mark at h hmark ⊢
  have hsingle : ¬ [mark, mark].isPrefixOf (value.flatMap (escapePoint mark) ++ mark :: rest)
      = true := by
    rw [List.isPrefixOf_iff_prefix]
    cases value with
    | nil =>
      rintro ⟨after, hafter⟩
      simp only [List.flatMap_nil, List.nil_append, List.cons_append, List.cons.injEq] at hafter
      rw [← hafter.2] at h
      exact h rfl
    | cons p value =>
      obtain ⟨c, cs, hp, hc⟩ := escapePoint_head hmark p
      rw [List.flatMap_cons, hp]
      rintro ⟨after, hafter⟩
      exact hc (List.cons.inj hafter).1.symm
  have hquote : ¬ (mark ≠ '\'' ∧ mark ≠ '"') := by
    rcases hmark with rfl | rfl <;> decide
  rw [List.cons_append, List.append_assoc, List.singleton_append, splitLiteral, if_neg hquote,
    if_neg hsingle, splitContent_flatMap hmark]

/-- **A literal is read back.**  Reading starts at its first mark, stops right after its last one and
gives the text that was written, unless the literal runs into another quote mark. -/
theorem readLiteral_literalChars (named : String → Option Char) (value : Text) {rest : List Char}
    (h : rest.head? ≠ some (quoteMark value)) :
    readLiteral named (literalChars value ++ rest) = some (value, rest) := by
  simp only [readLiteral, splitLiteral_literalChars value h,
    unescape_flatMap named (quoteMark_eq value), Option.map_some]

/-! ## The characters of a literal -/

theorem isPrintable_hex {width n : Nat} {c : Char} (h : c ∈ hex width n) : isPrintable c = true := by
  have hdigits : ∀ k < 16, isPrintable (Nat.digitChar k) = true := by decide
  obtain ⟨k, hk, rfl⟩ := mem_hex h
  exact hdigits k hk

theorem isPrintable_escapePoint {mark : Char} (hmark : isPrintable mark = true) {p : CodePoint}
    {d : Char} (h : d ∈ escapePoint mark p) : isPrintable d = true := by
  have hbackslash : isPrintable '\\' = true := by decide
  have hcode : ∀ {c : Char} {width n : Nat}, isPrintable c = true →
      d ∈ '\\' :: c :: hex width n → isPrintable d = true := by
    intro c width n hc hd
    rw [List.mem_cons, List.mem_cons] at hd
    rcases hd with rfl | rfl | hd
    · exact hbackslash
    · exact hc
    · exact isPrintable_hex hd
  have hpair : ∀ {c : Char}, isPrintable c = true → d ∈ ['\\', c] → isPrintable d = true := by
    intro c hc hd
    rw [List.mem_cons, List.mem_singleton] at hd
    rcases hd with rfl | rfl
    · exact hbackslash
    · exact hc
  cases p with
  | half index => exact hcode (by decide) h
  | char c =>
    rw [escapePoint, escapeChar] at h
    split at h
    · rename_i hc
      refine hpair ?_ h
      rcases hc with rfl | rfl
      · exact hmark
      · exact hbackslash
    · split at h
      · exact hpair (by decide) h
      · split at h
        · exact hpair (by decide) h
        · split at h
          · exact hpair (by decide) h
          · split at h
            · rename_i hprintable
              rwa [List.mem_singleton.1 h]
            · rw [escapeCode] at h
              repeat' split at h
              all_goals exact hcode (by decide) h

/-- **A literal is made of printable characters.** -/
theorem isPrintable_of_mem_literalChars {value : Text} {c : Char} (h : c ∈ literalChars value) :
    isPrintable c = true := by
  have hmark : isPrintable (quoteMark value) = true := by
    rcases quoteMark_eq value with hmark | hmark <;> rw [hmark] <;> decide
  rw [literalChars] at h
  generalize quoteMark value = mark at h hmark
  simp only [List.mem_cons, List.mem_append, List.not_mem_nil, or_false] at h
  rcases h with rfl | h | rfl
  · exact hmark
  · obtain ⟨p, -, hp⟩ := List.mem_flatMap.1 h
    exact isPrintable_escapePoint hmark hp
  · exact hmark

end EntityService.Text
