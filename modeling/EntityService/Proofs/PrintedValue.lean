import EntityService.Datum
import EntityService.Proofs.DistinctKeys
import EntityService.Proofs.PrintedText

/-!
# Printed documents are read back

A document without floating-point numbers is read back from its printed text as it was, with its
keys in the same order.  Floating-point numbers are left out: whether they are read back is a matter
of their notation and not of the grammar.

The reader knows nothing of what was printed.  It goes by the character ahead, it stops a number at
the first character that does not go on with it, and it has a bound on its depth.  So what is shown
of one value is shown with anything after it that ends a number, and with any bound that is large
enough for the characters of the value.

## What is here

* `Value.IsPlain` — the documents that are read back.
* `ReadsBack` — how one value is read back; `readsBack_array`, `readsBack_object` — the steps from
  the parts of a value to the value, and `IsPlain.readsBack` — all values.
* `IsPlain.isVisible` — nothing but printable ASCII is printed; `IsPlain.longNumber?_eq_none` — no
  number in it is too long.
* `ofBytes_print` — the main statement.
-/

set_option autoImplicit false

namespace EntityService

namespace Json

open EntityService.Number EntityService.Text

/-- Null, truth values, whole numbers that can be written, texts of characters, and arrays and
objects of these; an object has distinct keys. -/
inductive Value.IsPlain : Value → Prop
  | null : IsPlain .null
  | bool (b : Bool) : IsPlain (.bool b)
  | int {n : Int} : isWritable n = true → IsPlain (.int n)
  | string (s : String) : IsPlain (.string (.ofString s))
  | array {items : List Value} : (∀ v ∈ items, IsPlain v) → IsPlain (.array items)
  | object {members : Mapping Text Value} :
    members.keys.Nodup → (∀ key ∈ members.keys, ∃ s, key = .ofString s) →
    (∀ m ∈ members, IsPlain m.2) → IsPlain (.object members)

/-- How a value is read back.  It starts with a character that is no blank and closes nothing. -/
structure ReadsBack (v : Value) : Prop where
  head : ∃ c cs, (print v).toList = c :: cs ∧ isBlank c = false ∧ c ≠ ']'
  read : ∀ fuel rest, 2 * (print v).toList.length + 1 ≤ fuel → EndsNumber rest →
    readValue fuel ((print v).toList ++ rest) = .ok (v, rest)

/-! ## Blanks -/

theorem skipBlanks_cons {c : Char} (h : isBlank c = false) (cs : List Char) :
    skipBlanks (c :: cs) = c :: cs := by
  rw [skipBlanks, List.dropWhile_cons, h]
  rfl

theorem ReadsBack.skipBlanks_print {v : Value} (h : ReadsBack v) (rest : List Char) :
    skipBlanks ((print v).toList ++ rest) = (print v).toList ++ rest := by
  obtain ⟨c, cs, hprint, hblank, -⟩ := h.head
  rw [hprint]
  exact skipBlanks_cons hblank _

theorem ReadsBack.skipBlanks_space {v : Value} (h : ReadsBack v) (rest : List Char) :
    skipBlanks (' ' :: ((print v).toList ++ rest)) = (print v).toList ++ rest :=
  h.skipBlanks_print rest

/-! ## Words, numbers and texts -/

/-- The characters that open a value of more than one token, or a text. -/
def openings : List Char := ['"', '[', '\x7b']

theorem readValue_atom {c : Char} (h : c ∉ openings) (fuel : Nat) (cs : List Char) :
    readValue (fuel + 1) (c :: cs) = readAtom (c :: cs) := by
  simp only [openings, List.mem_cons, List.not_mem_nil, or_false, not_or] at h
  rw [readValue]
  · rintro rest heq
    exact h.1 (List.cons.inj heq).1
  · rintro rest heq
    exact h.2.1 (List.cons.inj heq).1
  · rintro rest heq
    exact h.2.2 (List.cons.inj heq).1

/-- A value of one token is read back if its token is. -/
theorem readsBack_atom {v : Value} {c : Char} {cs : List Char} (hprint : (print v).toList = c :: cs)
    (hopening : c ∉ openings) (hblank : isBlank c = false) (hclosing : c ≠ ']')
    (hread : ∀ rest, EndsNumber rest → readAtom ((print v).toList ++ rest) = .ok (v, rest)) :
    ReadsBack v where
  head := ⟨c, cs, hprint, hblank, hclosing⟩
  read := by
    intro fuel rest hfuel hrest
    obtain _ | fuel := fuel
    · omega
    · rw [← hread rest hrest, hprint]
      exact readValue_atom hopening fuel _

theorem readsBack_int {n : Int} (h : isWritable n = true) : ReadsBack (.int n) := by
  have hread : ∀ rest, EndsNumber rest →
      readAtom ((print (.int n)).toList ++ rest) = .ok (.int n, rest) := by
    intro rest hrest
    rw [print]
    exact readAtom_toString h hrest
  obtain ⟨c, cs, hprint⟩ : ∃ c cs, (print (.int n)).toList = c :: cs := by
    rw [print, toList_toString]
    refine List.exists_cons_of_ne_nil (List.append_ne_nil_of_right_ne_nil _ ?_)
    exact Nat.toDigits_ne_nil
  have hc : c = '-' ∨ c.isDigit = true := by
    have hmem : c ∈ (print (.int n)).toList := hprint ▸ List.mem_cons_self
    rw [print, toList_toString, List.mem_append] at hmem
    refine hmem.imp (fun h => ?_) isDigit_toDigits
    split at h
    · exact List.mem_singleton.1 h
    · exact absurd h List.not_mem_nil
  -- every character that a number does not start with is told apart by not being a digit
  have hne : ∀ d, d ≠ '-' → d.isDigit = false → c ≠ d := by
    rintro d hd hdigit rfl
    rcases hc with rfl | hc
    · exact hd rfl
    · rw [hdigit] at hc
      cases hc
  refine readsBack_atom hprint ?_ ?_ (hne _ (by decide) rfl) hread
  · simp only [openings, List.mem_cons, List.not_mem_nil, or_false, not_or]
    exact ⟨hne _ (by decide) rfl, hne _ (by decide) rfl, hne _ (by decide) rfl⟩
  · simp only [isBlank, Bool.or_eq_false_iff, beq_eq_false_iff_ne]
    exact ⟨⟨⟨hne _ (by decide) rfl, hne _ (by decide) rfl⟩, hne _ (by decide) rfl⟩,
      hne _ (by decide) rfl⟩

theorem toList_quote (t : Text) (rest : List Char) :
    (quote t).toList ++ rest = '"' :: (t.flatMap escapePoint ++ '"' :: rest) := by
  simp [quote]

theorem readsBack_string (s : String) : ReadsBack (.string (.ofString s)) where
  head := ⟨'"', _, by rw [print, ← List.append_nil (String.toList _), toList_quote], rfl, by decide⟩
  read := by
    intro fuel rest hfuel _
    obtain _ | fuel := fuel
    · omega
    · rw [print, toList_quote, readValue, Text.ofString, readString_quoted]
      rfl

/-! ## Parts of arrays and objects -/

/-- Printed parts with the separator between them. -/
def joined (parts : List String) : List Char := (", ".intercalate parts).toList

theorem joined_singleton (part : String) : joined [part] = part.toList := by
  rw [joined, String.intercalate_singleton]

theorem joined_cons_cons (part next : String) (parts : List String) :
    joined (part :: next :: parts) = part.toList ++ ',' :: ' ' :: joined (next :: parts) := by
  rw [joined, joined, String.intercalate_cons_cons, String.toList_append, String.toList_append,
    List.append_assoc]
  rfl

theorem exists_joined (part : String) (parts : List String) :
    ∃ more, joined (part :: parts) = part.toList ++ more := by
  cases parts with
  | nil => exact ⟨[], by rw [joined_singleton, List.append_nil]⟩
  | cons next parts => exact ⟨_, joined_cons_cons part next parts⟩

/-! ## Arrays -/

theorem ReadsBack.skipBlanks_items {v : Value} (h : ReadsBack v) (items : List Value)
    (rest : List Char) :
    skipBlanks (' ' :: (joined (printItems (v :: items)) ++ rest))
      = joined (printItems (v :: items)) ++ rest := by
  obtain ⟨more, hmore⟩ := exists_joined (print v) (printItems items)
  rw [printItems, hmore, List.append_assoc]
  exact h.skipBlanks_space _

theorem readItems_joined {v : Value} {items : List Value} (h : ∀ w ∈ v :: items, ReadsBack w)
    {fuel : Nat} (hfuel : 2 * (joined (printItems (v :: items))).length + 2 ≤ fuel)
    (earlier : List Value) (rest : List Char) :
    readItems fuel earlier (joined (printItems (v :: items)) ++ ']' :: rest)
      = .ok (.array (earlier.reverse ++ v :: items), rest) := by
  induction items generalizing v fuel earlier with
  | nil =>
    obtain _ | fuel := fuel
    · omega
    · have hv := h v List.mem_cons_self
      rw [printItems, printItems, joined_singleton] at hfuel ⊢
      rw [readItems, hv.read _ _ (by omega) (endsNumber_cons (by decide) _)]
      simp only [bind, Except.bind, skipBlanks_cons (show isBlank ']' = false from rfl)]
      rw [List.reverse_cons]
  | cons w items ih =>
    obtain _ | fuel := fuel
    · omega
    · rw [List.forall_mem_cons] at h
      have hw := h.2 w List.mem_cons_self
      have hjoined : joined (printItems (v :: w :: items))
          = (print v).toList ++ ',' :: ' ' :: joined (printItems (w :: items)) :=
        joined_cons_cons _ _ _
      rw [hjoined, List.length_append, List.length_cons, List.length_cons] at hfuel
      rw [hjoined, List.append_assoc, List.cons_append, List.cons_append, readItems,
        h.1.read _ _ (by omega) (endsNumber_cons (by decide) _)]
      simp only [bind, Except.bind, skipBlanks_cons (show isBlank ',' = false from rfl),
        hw.skipBlanks_items]
      rw [ih h.2 (by omega), List.reverse_cons, List.append_assoc]
      rfl

theorem toList_print_array (items : List Value) :
    (print (.array items)).toList = '[' :: (joined (printItems items) ++ [']']) := by
  rw [print, String.toList_append, String.toList_append]
  rfl

theorem readValue_items {c : Char} (hblank : isBlank c = false) (hclosing : c ≠ ']') (fuel : Nat)
    (cs : List Char) : readValue (fuel + 1) ('[' :: c :: cs) = readItems fuel [] (c :: cs) := by
  rw [readValue, skipBlanks_cons hblank]
  split
  · rename_i heq
    exact absurd (List.cons.inj heq).1 hclosing
  · rfl

theorem readsBack_array {items : List Value} (h : ∀ v ∈ items, ReadsBack v) :
    ReadsBack (.array items) where
  head := ⟨'[', _, toList_print_array items, rfl, by decide⟩
  read := by
    intro fuel rest hfuel _
    rw [toList_print_array, List.length_cons, List.length_append] at hfuel
    obtain _ | fuel := fuel
    · omega
    · rw [toList_print_array, List.cons_append, List.append_assoc, List.singleton_append]
      cases items with
      | nil => rfl
      | cons v items =>
        have hread : readItems fuel [] (joined (printItems (v :: items)) ++ ']' :: rest)
            = .ok (.array (v :: items), rest) :=
          readItems_joined h (by omega) [] rest
        obtain ⟨c, cs, hv, hblank, hclosing⟩ := (h v List.mem_cons_self).head
        obtain ⟨more, hmore⟩ := exists_joined (print v) (printItems items)
        rw [hv] at hmore
        rw [printItems, hmore, List.cons_append, List.cons_append] at hread ⊢
        rw [readValue_items hblank hclosing]
        exact hread

/-! ## Objects -/

theorem toList_member (key : Text) (v : Value) (rest : List Char) :
    (quote key ++ (": " ++ print v)).toList ++ rest
      = '"' :: (key.flatMap escapePoint ++ '"' :: ':' :: ' ' :: ((print v).toList ++ rest)) := by
  rw [String.toList_append, List.append_assoc, toList_quote, String.toList_append,
    List.append_assoc]
  rfl

theorem length_print_lt_member (key : Text) (v : Value) :
    (print v).toList.length < (quote key ++ (": " ++ print v)).toList.length := by
  have hcolon : (": ").toList.length = 2 := rfl
  simp only [String.toList_append, List.length_append]
  omega

theorem skipBlanks_members (m : Text × Value) (members : List (Text × Value)) (rest : List Char) :
    skipBlanks (' ' :: (joined (printMembers (m :: members)) ++ rest))
      = joined (printMembers (m :: members)) ++ rest := by
  obtain ⟨more, hmore⟩ := exists_joined (quote m.1 ++ (": " ++ print m.2)) (printMembers members)
  rw [printMembers, hmore, List.append_assoc, toList_member]
  rfl

/-- What reading an object goes on with once it has read a member. -/
def afterMember (fuel : Nat) (members : Mapping Text Value) (rest : List Char) :
    Except Stop (Value × List Char) :=
  match skipBlanks rest with
  | '\x7d' :: left => .ok (.object members, left)
  | ',' :: left => readMembers fuel members (skipBlanks left)
  | left => stop .expectingComma left

@[simp]
theorem afterMember_end (fuel : Nat) (members : Mapping Text Value) (rest : List Char) :
    afterMember fuel members ('\x7d' :: rest) = .ok (.object members, rest) :=
  rfl

@[simp]
theorem afterMember_comma (fuel : Nat) (members : Mapping Text Value) (rest : List Char) :
    afterMember fuel members (',' :: rest) = readMembers fuel members (skipBlanks rest) :=
  rfl

/-- A member is read as it was printed, and comes after the earlier ones. -/
theorem readMembers_member {v : Value} (hv : ReadsBack v) {fuel : Nat}
    (hfuel : 2 * (print v).toList.length + 1 ≤ fuel) (s : String) {earlier : Mapping Text Value}
    (hkey : .ofString s ∉ earlier.keys) {rest : List Char} (hrest : EndsNumber rest) :
    readMembers (fuel + 1) earlier ((quote (.ofString s) ++ (": " ++ print v)).toList ++ rest)
      = afterMember fuel (earlier ++ [(.ofString s, v)]) rest := by
  rw [← Mapping.insert_of_not_mem hkey, toList_member, readMembers, Text.ofString,
    readString_quoted]
  simp only [bind, Except.bind, skipBlanks_cons (show isBlank ':' = false from rfl),
    hv.skipBlanks_space, hv.read _ _ hfuel hrest]
  rfl

theorem readMembers_joined {m : Text × Value} {members : Mapping Text Value}
    (h : ∀ m' ∈ m :: members, ReadsBack m'.2)
    (htexts : ∀ key ∈ Mapping.keys (m :: members), ∃ s, key = .ofString s) {fuel : Nat}
    (hfuel : 2 * (joined (printMembers (m :: members))).length + 2 ≤ fuel)
    {earlier : Mapping Text Value} (hkeys : (Mapping.keys (earlier ++ m :: members)).Nodup)
    (rest : List Char) :
    readMembers fuel earlier (joined (printMembers (m :: members)) ++ '\x7d' :: rest)
      = .ok (.object (earlier ++ m :: members), rest) := by
  induction members generalizing m fuel earlier with
  | nil =>
    obtain ⟨key, v⟩ := m
    obtain ⟨s, rfl⟩ := htexts key List.mem_cons_self
    have hv : ReadsBack v := h _ List.mem_cons_self
    have hlength := length_print_lt_member (.ofString s) v
    have hkey : .ofString s ∉ earlier.keys := Mapping.not_mem_keys_of_nodup hkeys
    rw [printMembers, printMembers, joined_singleton] at hfuel ⊢
    obtain _ | fuel := fuel
    · omega
    · rw [readMembers_member hv (by omega) s hkey (endsNumber_cons (by decide) _),
        afterMember_end]
  | cons next members ih =>
    obtain ⟨key, v⟩ := m
    obtain ⟨s, rfl⟩ := htexts key List.mem_cons_self
    rw [List.forall_mem_cons] at h
    have hv : ReadsBack v := h.1
    have hlength := length_print_lt_member (.ofString s) v
    have hkey : .ofString s ∉ earlier.keys := Mapping.not_mem_keys_of_nodup hkeys
    have hjoined : joined (printMembers ((.ofString s, v) :: next :: members))
        = (quote (.ofString s) ++ (": " ++ print v)).toList
          ++ ',' :: ' ' :: joined (printMembers (next :: members)) :=
      joined_cons_cons _ _ _
    rw [hjoined, List.length_append, List.length_cons, List.length_cons] at hfuel
    obtain _ | fuel := fuel
    · omega
    · rw [List.append_cons] at hkeys
      rw [hjoined, List.append_assoc, List.cons_append, List.cons_append,
        readMembers_member hv (by omega) s hkey (endsNumber_cons (by decide) _),
        afterMember_comma, skipBlanks_members,
        ih h.2 (List.forall_mem_cons.1 htexts).2 (by omega) hkeys, ← List.append_cons]

theorem toList_print_object (members : Mapping Text Value) :
    (print (.object members)).toList = '\x7b' :: (joined (printMembers members) ++ ['\x7d']) := by
  rw [print, String.toList_append, String.toList_append]
  rfl

theorem readsBack_object {members : Mapping Text Value} (hkeys : members.keys.Nodup)
    (htexts : ∀ key ∈ members.keys, ∃ s, key = .ofString s)
    (h : ∀ m ∈ members, ReadsBack m.2) : ReadsBack (.object members) where
  head := ⟨'\x7b', _, toList_print_object members, rfl, by decide⟩
  read := by
    intro fuel rest hfuel _
    rw [toList_print_object, List.length_cons, List.length_append] at hfuel
    obtain _ | fuel := fuel
    · omega
    · rw [toList_print_object, List.cons_append, List.append_assoc, List.singleton_append]
      cases members with
      | nil => rfl
      | cons m members =>
        have hread : readMembers fuel [] (joined (printMembers (m :: members)) ++ '\x7d' :: rest)
            = .ok (.object (m :: members), rest) :=
          readMembers_joined h htexts (by omega) hkeys rest
        obtain ⟨more, hmore⟩ :=
          exists_joined (quote m.1 ++ (": " ++ print m.2)) (printMembers members)
        rw [printMembers, hmore, List.append_assoc, toList_member] at hread ⊢
        exact hread

/-! ## All values -/

theorem Value.IsPlain.readsBack {v : Value} (h : v.IsPlain) : ReadsBack v := by
  induction h with
  | null => exact readsBack_atom rfl (by decide) rfl (by decide) fun _ _ => rfl
  | bool b =>
    cases b with
    | false => exact readsBack_atom rfl (by decide) rfl (by decide) fun _ _ => rfl
    | true => exact readsBack_atom rfl (by decide) rfl (by decide) fun _ _ => rfl
  | int hn => exact readsBack_int hn
  | string s => exact readsBack_string s
  | array _ ih => exact readsBack_array ih
  | object hkeys htexts _ ih => exact readsBack_object hkeys htexts ih

/-! ## What is printed -/

theorem isVisible_joined {parts : List String}
    (h : ∀ part ∈ parts, ∀ c ∈ part.toList, IsVisible c) :
    ∀ c ∈ joined parts, IsVisible c := by
  induction parts with
  | nil => exact List.forall_mem_nil _
  | cons part parts ih =>
    rw [List.forall_mem_cons] at h
    cases parts with
    | nil => rw [joined_singleton]; exact h.1
    | cons next parts =>
      rw [joined_cons_cons, List.forall_mem_append, List.forall_mem_cons, List.forall_mem_cons]
      exact ⟨h.1, by decide, by decide, ih h.2⟩

theorem isVisible_items {items : List Value}
    (h : ∀ v ∈ items, ∀ c ∈ (print v).toList, IsVisible c) :
    ∀ c ∈ joined (printItems items), IsVisible c := by
  refine isVisible_joined ?_
  induction items with
  | nil => exact List.forall_mem_nil _
  | cons v items ih =>
    rw [List.forall_mem_cons] at h
    exact List.forall_mem_cons.2 ⟨h.1, ih h.2⟩

theorem isVisible_members {members : Mapping Text Value}
    (h : ∀ m ∈ members, ∀ c ∈ (print m.2).toList, IsVisible c) :
    ∀ c ∈ joined (printMembers members), IsVisible c := by
  refine isVisible_joined ?_
  induction members with
  | nil => exact List.forall_mem_nil _
  | cons m members ih =>
    obtain ⟨key, v⟩ := m
    rw [List.forall_mem_cons] at h
    refine List.forall_mem_cons.2 ⟨?_, ih h.2⟩
    have hcolon : ∀ c ∈ (": ").toList, IsVisible c := isVisible_of_all rfl
    simp only [String.toList_append, List.forall_mem_append]
    exact ⟨isVisible_quote key, hcolon, h.1⟩

/-- **Nothing but printable ASCII is printed.** -/
theorem Value.IsPlain.isVisible {v : Value} (h : v.IsPlain) :
    ∀ c ∈ (print v).toList, IsVisible c := by
  induction h with
  | null => exact isVisible_of_all rfl
  | bool b => cases b <;> exact isVisible_of_all rfl
  | int _ =>
    rw [print]
    exact isVisible_toString _
  | string _ =>
    rw [print]
    exact isVisible_quote _
  | array _ ih =>
    rw [toList_print_array, List.forall_mem_cons, List.forall_mem_append, List.forall_mem_singleton]
    exact ⟨by decide, isVisible_items ih, by decide⟩
  | object _ _ _ ih =>
    rw [toList_print_object, List.forall_mem_cons, List.forall_mem_append,
      List.forall_mem_singleton]
    exact ⟨by decide, isVisible_members ih, by decide⟩

/-- Every number in it can be written. -/
theorem Value.IsPlain.longNumber?_eq_none {v : Value} (h : v.IsPlain) : v.longNumber? = none := by
  induction h with
  | null | bool _ | string _ => rfl
  | int hn => exact if_pos hn
  | array _ ih =>
    rw [Value.longNumber?_array, List.findSome?_eq_none_iff]
    exact ih
  | object _ _ _ ih =>
    rw [Value.longNumber?_object, List.findSome?_eq_none_iff]
    exact ih

end Json

/-! ## Files -/

namespace Text.Utf8

theorem utf8EncodeChar_of_isVisible {c : Char} (h : Json.IsVisible c) :
    String.utf8EncodeChar c = [UInt8.ofNat c.toNat] := by
  have hle : c.toNat ≤ 0x7e := h.2
  rw [String.utf8EncodeChar]
  exact if_pos (Nat.le_trans hle (by decide))

theorem decodeFrom_visible {cs : List Char} (h : ∀ c ∈ cs, Json.IsVisible c) (offset : Nat)
    (text : List Char) :
    decodeFrom offset text none (cs.flatMap String.utf8EncodeChar) = .ok (text.reverse ++ cs) := by
  induction cs generalizing offset text with
  | nil => rw [List.flatMap_nil, decodeFrom, List.append_nil]
  | cons c cs ih =>
    rw [List.forall_mem_cons] at h
    have hle : c.toNat ≤ 0x7e := h.1.2
    have hnat : (UInt8.ofNat c.toNat).toNat = c.toNat := by
      rw [UInt8.toNat_ofNat']
      omega
    have hlt : UInt8.ofNat c.toNat < 0x80 := by
      rw [UInt8.lt_iff_toNat_lt, hnat]
      exact Nat.lt_of_le_of_lt hle (by decide)
    rw [List.flatMap_cons, utf8EncodeChar_of_isVisible h.1, List.singleton_append, decodeFrom,
      if_pos hlt, hnat, Char.ofNat_toNat, ih h.2, List.reverse_cons, List.append_assoc]
    rfl

theorem decode_encode_of_isVisible {text : String} (h : ∀ c ∈ text.toList, Json.IsVisible c) :
    decode (encode text) = .ok text := by
  rw [decode, encode, decodeFrom_visible h]
  exact congrArg Except.ok (String.ofList_toList)

end Text.Utf8

namespace Json

theorem not_mem_of_isVisible {cs : List Char} (h : ∀ c ∈ cs, IsVisible c) {d : Char}
    (hd : ¬ IsVisible d) : d ∉ cs :=
  fun hmem => hd (h d hmem)

theorem read_print {v : Value} (h : v.IsPlain) : read (print v) = .ok v := by
  obtain ⟨c, cs, hprint, hblank, -⟩ := h.readsBack.head
  have hread := h.readsBack.read _ [] (Nat.le_refl _) (fun _ h => nomatch h)
  have hmark : (print v).toList.head? ≠ some '\ufeff' := by
    intro hhead
    exact absurd (h.isVisible _ (List.mem_of_mem_head? hhead)) (by decide)
  rw [List.append_nil] at hread
  have hall : readAll (print v).toList = .ok v := by
    have hblanks : skipBlanks (print v).toList = (print v).toList := by
      have hskip := h.readsBack.skipBlanks_print []
      rwa [List.append_nil] at hskip
    rw [readAll, if_neg hmark, hblanks]
    simp only [bind, Except.bind, hread]
    rfl
  rw [read, hall]

/-- **A printed document in a file is read back.** -/
theorem ofBytes_print {v : Value} (h : v.IsPlain) :
    Document.ofBytes (Text.Utf8.encode (print v)) = .ok v := by
  have hreturn : '\r' ∉ (print v).toList := not_mem_of_isVisible h.isVisible (by decide)
  rw [Document.ofBytes, Text.Utf8.decode_encode_of_isVisible h.isVisible]
  simp only [Text.unifyNewlines_eq_self hreturn, String.ofList_toList, read_print h]

end Json

end EntityService
