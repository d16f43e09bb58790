import EntityService.Json.Printer
import EntityService.Json.Reader
import EntityService.Proofs.LiteralReading

/-!
# Printed texts and numbers are read back

The two kinds of token that a printed document has besides its words and marks.  A text is closed by
a quote mark, so whatever follows it can stay.  A number has no closing mark: it is read back only
if what follows does not go on with it.

Reading goes by UTF-16 units, printing by characters.  A character above U+FFFF is printed as two
units, and the reader must see both of them at once: the first unit on its own would become half of
a pair.

## What is here

* `readUnit_hex`, `readUnits_one`, `readUnits_pair`, `pairChar_units` — units.
* `readContent_escapeChar` — one character of a text; `readString_quoted` — a whole text.
* `EndsNumber` — what cannot go on with a number; `readNumber_toDigits`, `readAtom_toString` —
  whole numbers.
* `IsVisible` — printable ASCII; `isVisible_quote`, `isVisible_toString` — nothing else is printed.
-/

set_option autoImplicit false

namespace EntityService.Json

open EntityService.Number EntityService.Text

/-! ## Units -/

theorem hex_four (unit : Nat) : hex 4 unit =
    [Nat.digitChar (unit / 16 / 16 / 16 % 16), Nat.digitChar (unit / 16 / 16 % 16),
      Nat.digitChar (unit / 16 % 16), Nat.digitChar (unit % 16)] := rfl

theorem readUnit_hex {unit : Nat} (h : unit < 0x10000) {rest : List Char} (hrest : rest ≠ []) :
    readUnit (hex 4 unit ++ rest) = .ok (unit, rest) := by
  obtain ⟨next, more, rfl⟩ := List.exists_cons_of_ne_nil hrest
  have hvalue : ∀ k, hexValue? (Nat.digitChar (k % 16)) = some (k % 16) := fun k =>
    hexValue?_digitChar _ (Nat.mod_lt k (by decide))
  have hunit : ((unit / 16 / 16 / 16 % 16 * 16 + unit / 16 / 16 % 16) * 16 + unit / 16 % 16) * 16
      + unit % 16 = unit := by
    omega
  simp only [hex_four, List.cons_append, List.nil_append, readUnit, hvalue, hunit]

theorem readUnits_one {unit : Nat} (h : unit < 0x10000) (hhigh : isHighSurrogate unit = false)
    {rest : List Char} (hrest : rest ≠ []) :
    readUnits (hex 4 unit ++ rest) = .ok (.ofUnit unit, rest) := by
  rw [readUnits, readUnit_hex h hrest]
  simp only [bind, Except.bind, hhigh]
  rfl

theorem readUnits_pair {high low : Nat} (hhigh : isHighSurrogate high = true)
    (hlow : isLowSurrogate low = true) {rest : List Char} (hrest : rest ≠ []) :
    readUnits (hex 4 high ++ (escapeUnit low ++ rest)) = .ok (.char (pairChar high low), rest) := by
  have hhigh' : high < 0x10000 := by
    simp only [isHighSurrogate, Bool.and_eq_true, decide_eq_true_eq] at hhigh
    omega
  have hlow' : low < 0x10000 := by
    simp only [isLowSurrogate, Bool.and_eq_true, decide_eq_true_eq] at hlow
    omega
  rw [readUnits, readUnit_hex hhigh' (by simp [escapeUnit])]
  simp only [bind, Except.bind, hhigh, escapeUnit, List.cons_append, readUnit_hex hlow' hrest, hlow]
  rfl

/-- The two units of a character above U+FFFF are a pair, and the pair is the character. -/
theorem pairChar_units {c : Char} (h : 0x10000 ≤ c.toNat) :
    isHighSurrogate (0xd800 + (c.toNat - 0x10000) / 0x400) = true ∧
    isLowSurrogate (0xdc00 + (c.toNat - 0x10000) % 0x400) = true ∧
    pairChar (0xd800 + (c.toNat - 0x10000) / 0x400) (0xdc00 + (c.toNat - 0x10000) % 0x400) = c := by
  have hcode : c.toNat < 0x110000 := by
    have hvalid : c.toNat.isValidChar := c.valid
    rw [Nat.isValidChar] at hvalid
    omega
  refine ⟨?_, ?_, ?_⟩
  · simp only [isHighSurrogate, Bool.and_eq_true, decide_eq_true_eq]
    omega
  · simp only [isLowSurrogate, Bool.and_eq_true, decide_eq_true_eq]
    omega
  · have hsum : 0x10000 + (0xd800 + (c.toNat - 0x10000) / 0x400 - 0xd800) * 0x400
        + (0xdc00 + (c.toNat - 0x10000) % 0x400 - 0xdc00) = c.toNat := by
      omega
    rw [pairChar, hsum, Char.ofNat_toNat]

/-! ## Texts -/

section Content

variable (opening fuel : Nat) (content : Text)

theorem readContent_plain {c : Char} (hquote : c ≠ '"') (hbackslash : c ≠ '\\')
    (hcontrol : ¬ c ≤ '\x1f') (rest : List Char) :
    readContent opening (fuel + 1) content (c :: rest)
      = readContent opening fuel (.char c :: content) rest := by
  rw [readContent.eq_def]
  simp only [if_neg hquote, if_neg hbackslash, if_neg hcontrol]

theorem readContent_close (rest : List Char) :
    readContent opening (fuel + 1) content ('"' :: rest) = .ok (content.reverse, rest) := by
  rw [readContent.eq_def]
  simp only [if_pos]

theorem readContent_short {e d : Char} (he : e ≠ 'u') (h : shortEscape? e = some d)
    (rest : List Char) :
    readContent opening (fuel + 1) content ('\\' :: e :: rest)
      = readContent opening fuel (.char d :: content) rest := by
  rw [readContent, if_neg (by decide), if_pos rfl]
  simp only [if_neg he, h]

theorem readContent_units {cs left : List Char} {d : CodePoint} (h : readUnits cs = .ok (d, left)) :
    readContent opening (fuel + 1) content ('\\' :: 'u' :: cs)
      = readContent opening fuel (d :: content) left := by
  rw [readContent, if_neg (by decide), if_pos rfl]
  simp only [if_pos, h, bind, Except.bind]

theorem isHighSurrogate_toNat (c : Char) : isHighSurrogate c.toNat = false := by
  have hvalid : c.toNat.isValidChar := c.valid
  rw [Nat.isValidChar] at hvalid
  simp only [isHighSurrogate, Bool.and_eq_false_iff, decide_eq_false_iff_not]
  omega

theorem readContent_unit {c : Char} (h : c.toNat < 0x10000) {rest : List Char} (hrest : rest ≠ []) :
    readContent opening (fuel + 1) content (escapeUnit c.toNat ++ rest)
      = readContent opening fuel (.char c :: content) rest := by
  have hread := readUnits_one h (isHighSurrogate_toNat c) hrest
  rw [ofUnit_toNat] at hread
  exact readContent_units _ _ _ hread

theorem readContent_pair {c : Char} (h : 0x10000 ≤ c.toNat) {rest : List Char} (hrest : rest ≠ []) :
    readContent opening (fuel + 1) content (escapeUnit (0xd800 + (c.toNat - 0x10000) / 0x400)
        ++ escapeUnit (0xdc00 + (c.toNat - 0x10000) % 0x400) ++ rest)
      = readContent opening fuel (.char c :: content) rest := by
  obtain ⟨hhigh, hlow, hpair⟩ := pairChar_units h
  have hread := readUnits_pair hhigh hlow hrest
  rw [hpair] at hread
  rw [List.append_assoc]
  exact readContent_units _ _ _ hread

/-- **One character is read as it was printed.**  It need not be the last thing in the text. -/
theorem readContent_escapeChar (c : Char) {rest : List Char} (hrest : rest ≠ []) :
    readContent opening (fuel + 1) content (escapeChar c ++ rest)
      = readContent opening fuel (.char c :: content) rest := by
  rw [escapeChar]
  split
  · rename_i hc
    rcases hc with rfl | rfl <;> exact readContent_short _ _ _ (by decide) rfl rest
  · rename_i hc
    rw [not_or] at hc
    -- the five controls that have a letter of their own
    iterate 5
      split
      · rename_i heq
        exact heq ▸ readContent_short _ _ _ (by decide) rfl rest
    split
    · rename_i hvisible
      have hcontrol : ¬ c ≤ '\x1f' := fun hle =>
        absurd (Char.le_trans hvisible.1 hle) (by decide)
      exact readContent_plain _ _ _ hc.1 hc.2 hcontrol rest
    · split
      · rename_i hunit
        exact readContent_unit _ _ _ hunit hrest
      · rename_i hunit
        exact readContent_pair _ _ _ (Nat.le_of_not_lt hunit) hrest

end Content

theorem escapeChar_ne_nil (c : Char) : escapeChar c ≠ [] := by
  rw [escapeChar]
  repeat' split
  all_goals simp [escapeUnit]

theorem readContent_quoted (opening : Nat) {fuel : Nat} (content : Text) {cs : List Char}
    (hfuel : cs.length < fuel) (rest : List Char) :
    readContent opening fuel content ((ofChars cs).flatMap escapePoint ++ '"' :: rest)
      = .ok (content.reverse ++ ofChars cs, rest) := by
  induction cs generalizing fuel content with
  | nil =>
    obtain _ | fuel := fuel
    · cases hfuel
    · rw [ofChars, List.map_nil, List.flatMap_nil, List.nil_append, readContent_close,
        List.append_nil]
  | cons c cs ih =>
    obtain _ | fuel := fuel
    · cases hfuel
    · have hstep : (ofChars (c :: cs)).flatMap escapePoint ++ '"' :: rest
          = escapeChar c ++ ((ofChars cs).flatMap escapePoint ++ '"' :: rest) := by
        rw [ofChars, List.map_cons, List.flatMap_cons, List.append_assoc]
        rfl
      rw [hstep, readContent_escapeChar _ _ _ c (by simp), ih _ (Nat.lt_of_succ_lt_succ hfuel),
        List.reverse_cons, List.append_assoc]
      rfl

theorem length_le_length_escaped (cs : List Char) :
    cs.length ≤ ((ofChars cs).flatMap escapePoint).length := by
  induction cs with
  | nil => exact Nat.zero_le _
  | cons c cs ih =>
    have hc : 0 < (escapeChar c).length := List.length_pos_iff.2 (escapeChar_ne_nil c)
    rw [ofChars, List.map_cons, List.flatMap_cons, List.length_append, List.length_cons,
      escapePoint]
    rw [ofChars] at ih
    omega

/-- **A text is read as it was printed.** -/
theorem readString_quoted (cs rest : List Char) :
    readString ((ofChars cs).flatMap escapePoint ++ '"' :: rest) = .ok (ofChars cs, rest) := by
  refine readContent_quoted _ [] ?_ rest
  have hlength := length_le_length_escaped cs
  rw [List.length_append]
  omega

/-! ## Whole numbers -/

/-- What does not go on with a whole number: no digit, no point and no exponent mark. -/
def EndsNumber (rest : List Char) : Prop :=
  ∀ c ∈ rest.head?, c.isDigit = false ∧ c ∉ ['.', 'e', 'E']

theorem endsNumber_cons {c : Char} (h : c.isDigit = false ∧ c ∉ ['.', 'e', 'E'])
    (rest : List Char) : EndsNumber (c :: rest) := by
  intro d hd
  rw [List.head?_cons, Option.mem_some_iff] at hd
  exact hd ▸ h

theorem isDigit_toDigits {n : Nat} {c : Char} (h : c ∈ Nat.toDigits 10 n) : c.isDigit = true :=
  Nat.isDigit_of_mem_toDigits (by decide) (by decide) h

theorem readDigits_append {digits rest : List Char} (h : ∀ c ∈ digits, c.isDigit = true)
    (hrest : EndsNumber rest) : readDigits (digits ++ rest) = (digits, rest) := by
  have hnone : rest.takeWhile Char.isDigit = [] ∧ rest.dropWhile Char.isDigit = rest := by
    cases rest with
    | nil => exact ⟨rfl, rfl⟩
    | cons c rest =>
      have hc := (hrest c rfl).1
      simp [hc]
  rw [readDigits, List.takeWhile_append_of_pos h, List.dropWhile_append_of_pos h, hnone.1, hnone.2,
    List.append_nil]

/-- Only zero is written with a zero in front. -/
theorem toDigits_head {n : Nat} (h : 0 < n) : ∃ c digits, Nat.toDigits 10 n = c :: digits ∧
    c ≠ '0' := by
  induction n using Nat.strongRecOn with
  | _ n ih =>
    by_cases hlt : n < 10
    · refine ⟨Nat.digitChar n, [], Nat.toDigits_of_lt_base hlt, ?_⟩
      have hdigits : ∀ k < 10, 0 < k → Nat.digitChar k ≠ '0' := by decide
      exact hdigits n hlt h
    · have hle : 10 ≤ n := Nat.le_of_not_lt hlt
      obtain ⟨c, digits, hdigits, hc⟩ := ih (n / 10) (by omega) (by omega)
      rw [Nat.toDigits_of_base_le (by decide) hle, hdigits]
      exact ⟨c, _, rfl, hc⟩

theorem readWhole_toDigits (n : Nat) {rest : List Char} (hrest : EndsNumber rest) :
    readWhole (Nat.toDigits 10 n ++ rest) = (Nat.toDigits 10 n, rest) := by
  rcases Nat.eq_zero_or_pos n with rfl | hn
  · rfl
  · obtain ⟨c, digits, hdigits, hc⟩ := toDigits_head hn
    have hread : readDigits (Nat.toDigits 10 n ++ rest) = (Nat.toDigits 10 n, rest) :=
      readDigits_append (fun _ => isDigit_toDigits) hrest
    rw [hdigits] at hread ⊢
    rw [List.cons_append] at hread ⊢
    rw [readWhole, hread]
    rintro more heq
    exact hc (List.cons.inj heq).1

/-- **A whole number is read as it was printed.** -/
theorem readNumber_toDigits {n : Nat} (hn : n < Nat.pow 10 maxDigits) {rest : List Char}
    (hrest : EndsNumber rest) (start : List Char) (negative : Bool) :
    readNumber start negative (Nat.toDigits 10 n ++ rest)
      = .ok (.int (if negative then -n else n), rest) := by
  have hfraction : readFraction? rest = none := by
    cases rest with
    | nil => rfl
    | cons c rest =>
      have hc := (hrest c rfl).2
      unfold readFraction?
      split
      · rename_i heq
        cases heq
        simp at hc
      · rfl
  have hexponent : readExponent? rest = none := by
    cases rest with
    | nil => rfl
    | cons c rest =>
      have hmark : ¬ (c = 'e' ∨ c = 'E') := by
        rintro (rfl | rfl) <;> exact absurd (hrest _ rfl).2 (by decide)
      unfold readExponent?
      simp only [if_neg hmark]
  have hlength : ¬ maxDigits < (Nat.toDigits 10 n).length := by
    rw [Nat.pow_eq, ← Nat.length_toDigits_le_iff (by decide) (by decide)] at hn
    exact Nat.not_lt.2 hn
  simp only [readNumber, readWhole_toDigits n hrest, if_neg Nat.toDigits_ne_nil, hfraction,
    Option.getD_none, hexponent, Option.isSome_none, Bool.or_self, Bool.false_eq_true, if_false,
    if_neg hlength, Nat.ofDigitChars_ten_toDigits]

/-- No word starts with a digit. -/
theorem words_digit {c : Char} (h : c.isDigit = true) (cs : List Char) :
    (words.findSome? fun (word, value) => (after? word (c :: cs)).map (value, ·)) = none := by
  have hne : ∀ d, d.isDigit = false → d ≠ c := by
    rintro d hd rfl
    rw [h] at hd
    cases hd
  simp [words, after?, hne 'n' rfl, hne 't' rfl, hne 'f' rfl, hne 'N' rfl, hne 'I' rfl, hne '-' rfl]

/-- The only word that starts with a minus does not go on with a digit. -/
theorem words_minus {c : Char} (h : c.isDigit = true) (cs : List Char) :
    (words.findSome? fun (word, value) => (after? word ('-' :: c :: cs)).map (value, ·))
      = none := by
  have hne : 'I' ≠ c := by
    rintro rfl
    cases h
  simp [words, after?, hne]

theorem toList_toString (n : Int) :
    (toString n).toList = (if n < 0 then ['-'] else []) ++ Nat.toDigits 10 n.natAbs := by
  rw [Int.toString_eq_repr, Int.repr_eq_if]
  split
  · rename_i hn
    have hnat : n.toNat = n.natAbs := by omega
    rw [if_neg (Int.not_lt.2 hn), hnat, Nat.toList_repr, List.nil_append]
  · rename_i hn
    have hnat : (-n).toNat = n.natAbs := by omega
    rw [if_pos (Int.not_le.1 hn), hnat, String.toList_append, Nat.toList_repr]
    rfl

/-- A whole number is read as it was printed, with its sign. -/
theorem readAtom_toString {n : Int} (hn : isWritable n = true) {rest : List Char}
    (hrest : EndsNumber rest) : readAtom ((toString n).toList ++ rest) = .ok (.int n, rest) := by
  have hlt : n.natAbs < Nat.pow 10 maxDigits := isWritable_iff.1 hn
  obtain ⟨c, digits, hdigits⟩ :=
    List.exists_cons_of_ne_nil (Nat.toDigits_ne_nil : Nat.toDigits 10 n.natAbs ≠ [])
  have hc : c.isDigit = true := by
    have hmem : c ∈ Nat.toDigits 10 n.natAbs := hdigits ▸ List.mem_cons_self
    exact isDigit_toDigits hmem
  have hminus : c ≠ '-' := by
    rintro rfl
    cases hc
  have hread := readNumber_toDigits hlt hrest
  rw [toList_toString]
  split
  · rename_i hneg
    have hvalue : -(n.natAbs : Int) = n := by omega
    specialize hread ('-' :: (Nat.toDigits 10 n.natAbs ++ rest)) true
    rw [if_pos rfl, hvalue] at hread
    rw [List.singleton_append, hdigits, List.cons_append, List.cons_append, readAtom,
      words_minus hc]
    rw [hdigits, List.cons_append] at hread
    exact hread
  · rename_i hneg
    have hvalue : (n.natAbs : Int) = n := by omega
    specialize hread (Nat.toDigits 10 n.natAbs ++ rest) false
    rw [if_neg Bool.false_ne_true, hvalue] at hread
    rw [List.nil_append, hdigits, List.cons_append, readAtom, words_digit hc]
    rw [hdigits, List.cons_append] at hread
    · exact hread
    · rintro more heq
      exact hminus (List.cons.inj heq).1

/-! ## What is printed -/

/-- A character that is printed as it stands: printable ASCII. -/
def IsVisible (c : Char) : Prop := ' ' ≤ c ∧ c ≤ '~'

instance (c : Char) : Decidable (IsVisible c) := inferInstanceAs (Decidable (_ ∧ _))

theorem isVisible_of_all {cs : List Char} (h : (cs.all fun c => decide (IsVisible c)) = true) :
    ∀ c ∈ cs, IsVisible c := by
  simpa only [List.all_eq_true, decide_eq_true_eq] using h

theorem isVisible_toDigits {n : Nat} {c : Char} (h : c ∈ Nat.toDigits 10 n) : IsVisible c := by
  have hdigit := isDigit_toDigits h
  simp only [Char.isDigit, Bool.and_eq_true, decide_eq_true_eq] at hdigit
  exact ⟨Char.le_trans (by decide) hdigit.1, Char.le_trans hdigit.2 (by decide)⟩

theorem isVisible_toString (n : Int) : ∀ c ∈ (toString n).toList, IsVisible c := by
  intro c hc
  rw [toList_toString, List.mem_append] at hc
  rcases hc with hc | hc
  · split at hc
    · rw [List.mem_singleton.1 hc]
      decide
    · exact absurd hc List.not_mem_nil
  · exact isVisible_toDigits hc

theorem isVisible_escapeUnit {unit : Nat} {c : Char} (h : c ∈ escapeUnit unit) : IsVisible c := by
  have hdigits : ∀ k < 16, IsVisible (Nat.digitChar k) := by decide
  rw [escapeUnit, List.mem_cons, List.mem_cons] at h
  rcases h with rfl | rfl | h
  · decide
  · decide
  · obtain ⟨k, hk, rfl⟩ := mem_hex h
    exact hdigits k hk

theorem isVisible_escapePoint {p : CodePoint} {c : Char} (h : c ∈ escapePoint p) : IsVisible c := by
  have hpair : ∀ {d : Char}, IsVisible d → c ∈ ['\\', d] → IsVisible c := by
    intro d hd hc
    rw [List.mem_cons, List.mem_singleton] at hc
    rcases hc with rfl | rfl
    · decide
    · exact hd
  cases p with
  | half index => exact isVisible_escapeUnit h
  | char d =>
    rw [escapePoint, escapeChar] at h
    split at h
    · rename_i hd
      refine hpair ?_ h
      rcases hd with rfl | rfl <;> decide
    · iterate 5
        split at h
        · exact hpair (by decide) h
      split at h
      · rename_i hvisible
        rw [List.mem_singleton.1 h]
        exact hvisible
      · split at h
        · exact isVisible_escapeUnit h
        · rcases List.mem_append.1 h with h | h <;> exact isVisible_escapeUnit h

theorem isVisible_quote (t : Text) : ∀ c ∈ (quote t).toList, IsVisible c := by
  intro c hc
  simp only [quote, String.toList_ofList, List.mem_cons, List.mem_append, List.not_mem_nil,
    or_false] at hc
  rcases hc with rfl | hc | rfl
  · decide
  · obtain ⟨p, -, hp⟩ := List.mem_flatMap.1 hc
    exact isVisible_escapePoint hp
  · decide

end EntityService.Json
