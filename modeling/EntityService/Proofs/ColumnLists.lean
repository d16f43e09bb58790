import EntityService.Proofs.NameCharacters
import Mathlib.Data.List.DropRight

/-!
# Lists of columns are read back

A selection, an insertion and the creation of a table each list columns, and the list is found in
the text of the statement by the marks around it: the word `FROM` or a pair of parentheses.  An item
is what stands between two commas, up to its first blank.

Columns stand in statements without quotes, so the list that is found need not be the list that was
written: a name may hold a comma, or the mark that the list is thought to end at.  Each kind of
statement is misled by names of its own.  A name that none of them is misled by is a `ColumnWord`,
and there are no other names that all three give back.

## What is here

* `strip`, `word`, `items` — an item, and the items of a list.
* `upTo`, `listedColumns`, `selectedColumns` — the list in a statement.
* `map_splitOn_commaList`, `items_commaList` — the items of a list that was written.
* `listedColumns_insert_iff`, `listedColumns_createTable_iff`, `selectedColumns_select_iff` — what
  each kind of statement gives back.
* `ColumnWord`, `columnWords_iff` — the names that are given back.
-/

set_option autoImplicit false

namespace EntityService.Sql

open EntityService.Text

/-! ## Items -/

/-- White space: blanks, ends of lines and marks of structure, in ASCII and beyond. -/
def spaceCodes : List Nat :=
  [0x9, 0xa, 0xb, 0xc, 0xd, 0x1c, 0x1d, 0x1e, 0x1f, 0x20, 0x85, 0xa0, 0x1680, 0x2000, 0x2001,
    0x2002, 0x2003, 0x2004, 0x2005, 0x2006, 0x2007, 0x2008, 0x2009, 0x200a, 0x2028, 0x2029, 0x202f,
    0x205f, 0x3000]

/-- Whether a code point is white space. -/
def isSpace : CodePoint → Bool
  | .char c => spaceCodes.contains c.toNat
  | .half _ => false

/-- A text without the white space around it. -/
def strip (t : Text) : Text := (t.dropWhile isSpace).rdropWhile isSpace

/-- The first word of an item. -/
def word (t : Text) : Text := (strip t).takeWhile (· ≠ .char ' ')

/-- The items of a list, each cut at its first blank. -/
def items (list : Text) : List Text := (list.splitOn (.char ',')).map word

/-! ## Lists in statements -/

/-- A text up to the first occurrence of a mark, or all of it if there is none. -/
def upTo (mark : Text) : Text → Text
  | [] => []
  | c :: rest => if mark <+: c :: rest then [] else c :: upTo mark rest

/-- The items between the first opening and the first closing parenthesis. -/
def listedColumns (statement : Text) : List Text :=
  items ((upTo [.char ')'] statement).drop ((upTo [.char '('] statement).length + 1))

/-- The items between `SELECT` and the first `FROM`. -/
def selectedColumns (statement : Text) : List Text :=
  items ((upTo (.ofString " FROM") statement).drop ("SELECT ".toList.length))

/-! ## What an item holds -/

theorem exists_splitOn (mark : CodePoint) (t : Text) :
    ∃ first more, t.splitOn mark = first :: more :=
  List.exists_cons_of_ne_nil (List.splitOn_ne_nil mark t)

theorem mem_splitOn {mark c : CodePoint} {t piece : Text} (hpiece : piece ∈ t.splitOn mark)
    (hc : c ∈ piece) : c ∈ t ∧ c ≠ mark := by
  induction t generalizing piece with
  | nil =>
    rw [List.splitOn_nil, List.mem_singleton] at hpiece
    exact absurd hc (hpiece ▸ List.not_mem_nil)
  | cons d rest ih =>
    obtain ⟨first, more, hrest⟩ := exists_splitOn mark rest
    rw [List.splitOn_cons_eq_if_modifyHead] at hpiece
    split at hpiece
    · rcases List.mem_cons.1 hpiece with rfl | hpiece
      · exact absurd hc List.not_mem_nil
      · exact (ih hpiece hc).imp (List.mem_cons_of_mem d) id
    · rename_i hd
      rw [hrest] at hpiece ih
      rw [List.modifyHead_cons] at hpiece
      rcases List.mem_cons.1 hpiece with rfl | hpiece
      · rcases List.mem_cons.1 hc with rfl | hc
        · exact ⟨List.mem_cons_self, by simpa using hd⟩
        · exact (ih List.mem_cons_self hc).imp (List.mem_cons_of_mem d) id
      · exact (ih (List.mem_cons_of_mem first hpiece) hc).imp (List.mem_cons_of_mem d) id

theorem mem_strip {c : CodePoint} {t : Text} (h : c ∈ strip t) : c ∈ t :=
  (List.dropWhile_suffix _).subset ((List.rdropWhile_prefix _ _).subset h)

theorem mem_word {c : CodePoint} {t : Text} (h : c ∈ word t) : c ∈ t ∧ c ≠ .char ' ' := by
  have hstrip : c ∈ strip t := (List.takeWhile_prefix _).subset h
  have hblank := List.mem_takeWhile_imp h
  exact ⟨mem_strip hstrip, by simpa using hblank⟩

/-- Neither commas nor blanks are in items. -/
theorem mem_items {c : CodePoint} {list item : Text} (hitem : item ∈ items list) (hc : c ∈ item) :
    c ∈ list ∧ c ≠ .char ',' ∧ c ≠ .char ' ' := by
  obtain ⟨piece, hpiece, rfl⟩ := List.mem_map.1 hitem
  obtain ⟨hc, hblank⟩ := mem_word hc
  obtain ⟨hc, hcomma⟩ := mem_splitOn hpiece hc
  exact ⟨hc, hcomma, hblank⟩

/-- White space is taken from both ends only. -/
theorem strip_eq_self_iff {t : Text} : strip t = t ↔
    (∀ c ∈ t.head?, isSpace c = false) ∧ ∀ c ∈ t.getLast?, isSpace c = false := by
  have hlast : t.rdropWhile isSpace = t ↔ ∀ c ∈ t.getLast?, isSpace c = false := by
    rw [List.rdropWhile_eq_self_iff]
    constructor
    · intro h c hc
      obtain ⟨hne, rfl⟩ := List.mem_getLast?_eq_getLast hc
      exact Bool.eq_false_iff.2 (h hne)
    · intro h hne
      exact Bool.eq_false_iff.1 (h _ (List.getLast_mem_getLast? hne))
  have hhead : t.dropWhile isSpace = t ↔ ∀ c ∈ t.head?, isSpace c = false := by
    rw [List.dropWhile_eq_self_iff]
    cases t <;> simp
  constructor
  · intro h
    have hle : t.length ≤ (t.dropWhile isSpace).length := by
      have hprefix := (List.rdropWhile_prefix isSpace (t.dropWhile isSpace)).length_le
      rw [← strip, h] at hprefix
      exact hprefix
    have hdrop : t.dropWhile isSpace = t := (List.dropWhile_suffix _).eq_of_length_le hle
    rw [strip, hdrop] at h
    exact ⟨hhead.1 hdrop, hlast.1 h⟩
  · rintro ⟨h, h'⟩
    rw [strip, hhead.2 h, hlast.2 h']

theorem word_of_not_mem {t : Text} (h : .char ' ' ∉ t) : word t = strip t := by
  refine List.takeWhile_eq_self_iff.2 fun c hc => ?_
  simpa using fun (heq : c = .char ' ') => h (heq ▸ mem_strip hc)

/-! ## The items of a list -/

theorem map_eq_self_iff {f : Text → Text} {texts : List Text} :
    texts.map f = texts ↔ ∀ t ∈ texts, f t = t := by
  have hid := List.map_inj_left (f := f) (g := id) (l := texts)
  rwa [List.map_id] at hid

theorem strip_space {c : CodePoint} (h : isSpace c = true) (t : Text) :
    strip (c :: t) = strip t := by
  rw [strip, List.dropWhile_cons, if_pos h, strip]

theorem word_blank (t : Text) : word (.char ' ' :: t) = word t := by
  rw [word, strip_space rfl, word]

/-- A blank in front of a list makes no difference if it makes none in front of a piece. -/
theorem map_splitOn_blank {β : Type} {f : Text → β} (hf : ∀ t, f (.char ' ' :: t) = f t)
    (list : Text) : ((.char ' ' :: list : Text).splitOn (.char ',')).map f
      = (list.splitOn (.char ',')).map f := by
  obtain ⟨first, more, hlist⟩ := exists_splitOn (.char ',') list
  rw [List.splitOn_cons_eq_if_modifyHead, if_neg (by decide), hlist, List.modifyHead_cons,
    List.map_cons, List.map_cons, hf]

theorem items_blank (list : Text) : items (.char ' ' :: list) = items list :=
  map_splitOn_blank word_blank list

theorem items_of_not_mem {name : Text} (h : .char ',' ∉ name) : items name = [word name] := by
  rw [items, List.splitOn_eq_singleton h, List.map_singleton]

theorem items_comma {name : Text} (h : .char ',' ∉ name) (list : Text) :
    items (name ++ .char ',' :: list) = word name :: items list := by
  rw [items, List.splitOn_append_cons_self_of_not_mem h, List.map_cons, items]

theorem commaList_cons_cons (name next : Text) (names : List Text) :
    Statement.commaList (name :: next :: names)
      = name ++ .char ',' :: .char ' ' :: Statement.commaList (next :: names) := by
  rw [Statement.commaList, Text.join, List.intercalate_cons_cons, List.append_assoc]
  rfl

theorem commaList_singleton (name : Text) : Statement.commaList [name] = name := by
  rw [Statement.commaList, Text.join, List.intercalate_singleton]

/-- **The pieces of a list that was written** are what was listed, if there are no commas in it and a
blank in front of a piece makes no difference. -/
theorem map_splitOn_commaList {β : Type} {f : Text → β} (hf : ∀ t, f (.char ' ' :: t) = f t)
    {texts : List Text} (hne : texts ≠ []) (h : ∀ text ∈ texts, .char ',' ∉ text) :
    ((Statement.commaList texts).splitOn (.char ',')).map f = texts.map f := by
  induction texts with
  | nil => exact absurd rfl hne
  | cons text texts ih =>
    rw [List.forall_mem_cons] at h
    cases texts with
    | nil => rw [commaList_singleton, List.splitOn_eq_singleton h.1]
    | cons next texts =>
      rw [commaList_cons_cons, List.splitOn_append_cons_self_of_not_mem h.1, List.map_cons,
        map_splitOn_blank hf, ih (List.cons_ne_nil _ _) h.2]
      rfl

/-- The items of a list that was written are the first words of what was listed. -/
theorem items_commaList {names : List Text} (hne : names ≠ [])
    (h : ∀ name ∈ names, .char ',' ∉ name) :
    items (Statement.commaList names) = names.map word :=
  map_splitOn_commaList word_blank hne h

/-! ## Up to a mark -/

theorem upTo_append {m : CodePoint} {mark before : Text} (h : m ∉ before) (rest : Text) :
    upTo (m :: mark) (before ++ rest) = before ++ upTo (m :: mark) rest := by
  induction before with
  | nil => rfl
  | cons c before ih =>
    rw [List.mem_cons, not_or] at h
    have hprefix : ¬ m :: mark <+: c :: (before ++ rest) := fun hp =>
      h.1 (List.cons_prefix_cons.1 hp).1
    rw [List.cons_append, upTo, if_neg hprefix, ih h.2, List.cons_append]

theorem upTo_self {mark rest : Text} (h : mark ≠ []) : upTo mark (mark ++ rest) = [] := by
  obtain ⟨m, mark, rfl⟩ := List.exists_cons_of_ne_nil h
  rw [List.cons_append, upTo, if_pos ⟨rest, rfl⟩]

theorem upTo_mark {m : CodePoint} {before : Text} (h : m ∉ before) (rest : Text) :
    upTo [m] (before ++ m :: rest) = before := by
  have hself : upTo [m] ([m] ++ rest) = [] := upTo_self (List.cons_ne_nil _ _)
  rw [List.singleton_append] at hself
  rw [upTo_append h, hself, List.append_nil]

theorem not_mem_upTo (m : CodePoint) (t : Text) : m ∉ upTo [m] t := by
  induction t with
  | nil => exact List.not_mem_nil
  | cons c rest ih =>
    rw [upTo]
    split
    · exact List.not_mem_nil
    · rename_i hprefix
      rw [List.mem_cons, not_or]
      refine ⟨fun heq => hprefix ?_, ih⟩
      rw [heq]
      exact List.cons_prefix_cons.2 ⟨rfl, List.nil_prefix⟩

theorem mem_commaList {c : CodePoint} {texts : List Text} (h : c ∈ Statement.commaList texts) :
    c = .char ',' ∨ c = .char ' ' ∨ ∃ text ∈ texts, c ∈ text := by
  induction texts with
  | nil => exact absurd h List.not_mem_nil
  | cons text texts ih =>
    cases texts with
    | nil =>
      rw [commaList_singleton] at h
      exact .inr (.inr ⟨text, List.mem_cons_self, h⟩)
    | cons next texts =>
      rw [commaList_cons_cons, List.mem_append, List.mem_cons, List.mem_cons] at h
      rcases h with h | h | h | h
      · exact .inr (.inr ⟨text, List.mem_cons_self, h⟩)
      · exact .inl h
      · exact .inr (.inl h)
      · refine (ih h).imp id (Or.imp id ?_)
        rintro ⟨other, hother, hc⟩
        exact ⟨other, List.mem_cons_of_mem text hother, hc⟩

/-! ## Lists in parentheses -/

/-- The list in the first parentheses of a text is read up to the first closing one. -/
theorem listedColumns_eq {before : Text} (hopening : .char '(' ∉ before)
    (hclosing : .char ')' ∉ before) (list : Text) :
    listedColumns (before ++ .char '(' :: list) = items (upTo [.char ')'] list) := by
  have hmark : .char ')' ∉ before ++ [.char '('] := by
    rw [List.mem_append, not_or]
    exact ⟨hclosing, by decide⟩
  have hlength : (before ++ [CodePoint.char '(']).length = before.length + 1 := by simp
  rw [listedColumns, upTo_mark hopening, List.append_cons, upTo_append hmark,
    List.drop_left' hlength]

/-- Texts without the marks of a list. -/
def Unmarked (t : Text) : Prop := .char ',' ∉ t ∧ .char ')' ∉ t

instance (t : Text) : Decidable (Unmarked t) := inferInstanceAs (Decidable (_ ∧ _))

theorem closing_not_mem_commaList {texts : List Text} (h : ∀ t ∈ texts, Unmarked t) :
    .char ')' ∉ Statement.commaList texts := by
  intro hmem
  rcases mem_commaList hmem with heq | heq | ⟨t, ht, hmem⟩
  · exact absurd heq (by decide)
  · exact absurd heq (by decide)
  · exact (h t ht).2 hmem

theorem items_upTo_closing {texts : List Text} (hne : texts ≠ []) (h : ∀ t ∈ texts, Unmarked t)
    (after : Text) :
    items (upTo [.char ')'] (Statement.commaList texts ++ .char ')' :: after))
      = texts.map word := by
  rw [upTo_mark (closing_not_mem_commaList h), items_commaList hne fun t ht => (h t ht).1]

/-- What is read up to a closing parenthesis holds no marks. -/
theorem unmarked_of_mem_items {list item : Text} (h : item ∈ items (upTo [.char ')'] list)) :
    Unmarked item ∧ .char ' ' ∉ item := by
  refine ⟨⟨fun hc => ?_, fun hc => ?_⟩, fun hc => ?_⟩
  · exact (mem_items h hc).2.1 rfl
  · exact not_mem_upTo _ _ (mem_items h hc).1
  · exact (mem_items h hc).2.2 rfl

/-- What is neither in a table nor in the words around it is not in the start of a statement. -/
theorem not_mem_start {c : CodePoint} {before table after : Text} (hbefore : c ∉ before)
    (htable : c ∉ table) (hafter : c ∉ after) : c ∉ before ++ table ++ after := by
  simp only [List.mem_append, not_or]
  exact ⟨⟨hbefore, htable⟩, hafter⟩

/-! ## Insertions -/

section Statements

variable {table : Text} (hopening : .char '(' ∉ table)
  (hclosing : .char ')' ∉ table)

include hopening hclosing

theorem listedColumns_insert {columns : List (Text × Int)} (hne : columns ≠ []) :
    ∃ after, listedColumns (Statement.insert table columns).text
      = items (upTo [.char ')']
          (Statement.commaList (columns.map (·.1)) ++ .char ')' :: after)) := by
  have hopens : .char '(' ∉ Text.ofString "INSERT INTO " ++ table ++ [.char ' '] :=
    not_mem_start (by decide) hopening (by decide)
  have hcloses : .char ')' ∉ Text.ofString "INSERT INTO " ++ table ++ [.char ' '] :=
    not_mem_start (by decide) hclosing (by decide)
  refine ⟨Text.ofString " VALUES (" ++ Statement.commaList
    (columns.map fun c => (placeholder c.2 : Text)) ++ Text.ofString ")", ?_⟩
  rw [← listedColumns_eq hopens hcloses, Statement.text, if_neg hne]
  simp only [List.append_assoc]
  rfl

/-- **An insertion gives back** the names without marks and without blanks. -/
theorem listedColumns_insert_iff {columns : List (Text × Int)} (hne : columns ≠ []) :
    listedColumns (Statement.insert table columns).text = columns.map (·.1) ↔
      ∀ name ∈ columns.map (·.1), Unmarked name ∧ .char ' ' ∉ name ∧ strip name = name := by
  obtain ⟨after, hlisted⟩ := listedColumns_insert hopening hclosing hne
  have hnames : columns.map (·.1) ≠ [] := fun h => hne (List.map_eq_nil_iff.1 h)
  rw [hlisted]
  constructor
  · intro h
    have hunmarked : ∀ name ∈ columns.map (·.1), Unmarked name ∧ .char ' ' ∉ name := by
      intro name hname
      rw [← h] at hname
      exact unmarked_of_mem_items hname
    rw [items_upTo_closing hnames fun name hname => (hunmarked name hname).1,
      map_eq_self_iff] at h
    intro name hname
    obtain ⟨hmarks, hblank⟩ := hunmarked name hname
    exact ⟨hmarks, hblank, word_of_not_mem hblank ▸ h name hname⟩
  · intro h
    rw [items_upTo_closing hnames fun name hname => (h name hname).1, map_eq_self_iff]
    intro name hname
    obtain ⟨-, hblank, hstrip⟩ := h name hname
    rw [word_of_not_mem hblank, hstrip]

/-! ## Creations -/

/-- A column with its type. -/
def definition (column : Text × String) : Text := column.1 ++ " " ++ column.2

theorem listedColumns_createTable (columns : List (Text × String)) :
    ∃ after, listedColumns (Statement.createTable table columns).text
      = items (upTo [.char ')']
          (Statement.commaList (columns.map definition) ++ .char ')' :: after)) := by
  have hopens : .char '(' ∉
      Text.ofString "CREATE TABLE IF NOT EXISTS " ++ table ++ [.char ' '] :=
    not_mem_start (by decide) hopening (by decide)
  have hcloses : .char ')' ∉
      Text.ofString "CREATE TABLE IF NOT EXISTS " ++ table ++ [.char ' '] :=
    not_mem_start (by decide) hclosing (by decide)
  have htext : (Statement.createTable table columns).text
      = Text.ofString "CREATE TABLE IF NOT EXISTS " ++ table ++ Text.ofString " ("
        ++ Statement.commaList (columns.map definition) ++ Text.ofString ");" := rfl
  refine ⟨Text.ofString ";", ?_⟩
  rw [← listedColumns_eq hopens hcloses, htext]
  simp only [List.append_assoc]
  rfl

omit hopening hclosing

/-- The type of a column as a statement writes it. -/
structure IsType (type : Text) : Prop where
  nonempty : type ≠ []
  unmarked : Unmarked type
  stripped : strip type = type

theorem isType_columnType (scalar : Scalar) : IsType (scalar.columnType : Text) := by
  cases scalar <;> exact ⟨by decide, by decide, by decide⟩

theorem IsType.word_ne_nil {type : Text} (h : IsType type) : word type ≠ [] := by
  obtain ⟨c, rest, rfl⟩ := List.exists_cons_of_ne_nil h.nonempty
  have hc : isSpace c = false := (strip_eq_self_iff.1 h.stripped).1 c rfl
  have hblank : c ≠ .char ' ' := by
    rintro rfl
    cases hc
  rw [word, h.stripped, List.takeWhile_cons, if_pos (decide_eq_true hblank)]
  exact List.cons_ne_nil _ _

/-- **A name is read off a definition** if it is not empty. -/
theorem word_definition_iff {name : Text} {type : String} (htype : IsType (type : Text))
    (hblank : .char ' ' ∉ name) (hstrip : strip name = name) :
    word (definition (name, type)) = name ↔ name ≠ [] := by
  have hdefinition : definition (name, type) = name ++ .char ' ' :: (type : Text) := by
    rw [definition, List.append_assoc]
    rfl
  rw [hdefinition]
  constructor
  · rintro h rfl
    rw [List.nil_append, word_blank] at h
    exact htype.word_ne_nil h
  · intro hne
    obtain ⟨c, rest, hname⟩ := List.exists_cons_of_ne_nil hne
    have hhead : (name ++ .char ' ' :: (type : Text)).head? = name.head? := by
      rw [hname]
      rfl
    have hlast : (name ++ .char ' ' :: (type : Text)).getLast? = (type : Text).getLast? := by
      rw [List.getLast?_append_of_ne_nil _ (List.cons_ne_nil _ _),
        List.getLast?_cons_of_ne_nil htype.nonempty]
    have hstrips : strip (name ++ .char ' ' :: (type : Text))
        = name ++ .char ' ' :: (type : Text) := by
      rw [strip_eq_self_iff, hhead, hlast]
      exact ⟨(strip_eq_self_iff.1 hstrip).1, (strip_eq_self_iff.1 htype.stripped).2⟩
    have hall : ∀ c ∈ name, decide (c ≠ .char ' ') = true := fun c hc =>
      decide_eq_true fun heq => hblank (heq ▸ hc)
    rw [word, hstrips, List.takeWhile_append_of_pos hall, List.takeWhile_cons,
      if_neg (by decide), List.append_nil]

include hopening hclosing

/-- **The creation of a table gives back** the names that are not empty. -/
theorem listedColumns_createTable_iff {columns : List (Text × String)} (hne : columns ≠ [])
    (htypes : ∀ c ∈ columns, IsType (c.2 : Text))
    (hnames : ∀ name ∈ columns.map (·.1), Unmarked name ∧ .char ' ' ∉ name ∧ strip name = name) :
    listedColumns (Statement.createTable table columns).text = columns.map (·.1) ↔
      ∀ name ∈ columns.map (·.1), name ≠ [] := by
  obtain ⟨after, hlisted⟩ := listedColumns_createTable hopening hclosing columns
  have hdefinitions : columns.map definition ≠ [] := fun h => hne (List.map_eq_nil_iff.1 h)
  rw [List.forall_mem_map] at hnames
  have hunmarked : ∀ text ∈ columns.map definition, Unmarked text := by
    rw [List.forall_mem_map]
    intro c hc
    obtain ⟨⟨hcomma, hclosing⟩, -⟩ := hnames c hc
    obtain ⟨hcomma', hclosing'⟩ := (htypes c hc).unmarked
    simp only [Unmarked, definition, List.mem_append, not_or]
    exact ⟨⟨⟨hcomma, by decide⟩, hcomma'⟩, ⟨hclosing, by decide⟩, hclosing'⟩
  rw [hlisted, items_upTo_closing hdefinitions hunmarked, List.map_map, List.map_inj_left,
    List.forall_mem_map]
  refine forall₂_congr fun c hc => ?_
  obtain ⟨-, hblank, hstrip⟩ := hnames c hc
  exact word_definition_iff (htypes c hc) hblank hstrip

end Statements

/-! ## Selections -/

/-- The word after the columns of a selection. -/
def keyword : Text := .ofString "FROM"

theorem keyword_prefix_append {m : CodePoint} {mark : Text} (h : m ∉ mark) (name rest : Text) :
    mark <+: name ++ m :: rest ↔ mark <+: name := by
  constructor
  · intro hprefix
    refine List.prefix_of_prefix_length_le hprefix (List.prefix_append _ _) ?_
    by_contra hlt
    have hlength : (name ++ [m]).length ≤ mark.length := by
      rw [List.length_append, List.length_singleton]
      omega
    obtain ⟨extra, rfl⟩ : name ++ [m] <+: mark :=
      List.prefix_of_prefix_length_le ⟨rest, by simp⟩ hprefix hlength
    exact h (by simp)
  · exact fun hprefix => hprefix.trans (List.prefix_append _ _)

/-- A name after a blank is passed over unless it starts with the keyword. -/
theorem upTo_keyword_name {name : Text} (hblank : .char ' ' ∉ name) {m : CodePoint}
    (hm : m ∉ keyword) (rest : Text) :
    upTo (.char ' ' :: keyword) (.char ' ' :: (name ++ m :: rest))
      = if keyword <+: name then []
        else .char ' ' :: (name ++ upTo (.char ' ' :: keyword) (m :: rest)) := by
  have hprefix : .char ' ' :: keyword <+: .char ' ' :: (name ++ m :: rest) ↔ keyword <+: name := by
    rw [List.cons_prefix_cons, keyword_prefix_append hm]
    exact ⟨And.right, fun h => ⟨rfl, h⟩⟩
  rw [upTo, upTo_append hblank]
  exact if_congr hprefix rfl rfl

/-- **The keyword after a list** is the first one unless one of the names starts with it. -/
theorem items_upTo_keyword_iff {names : List Text} (hne : names ≠ [])
    (hnames : ∀ name ∈ names, name ≠ [] ∧ .char ',' ∉ name ∧ .char ' ' ∉ name ∧ word name = name)
    (after : Text) :
    items (upTo (.char ' ' :: keyword)
        (.char ' ' :: (Statement.commaList names ++ .char ' ' :: (keyword ++ after)))) = names ↔
      ∀ name ∈ names, ¬ keyword <+: name := by
  induction names with
  | nil => exact absurd rfl hne
  | cons name names ih =>
    rw [List.forall_mem_cons] at hnames
    obtain ⟨⟨hname, hcomma, hblank, hword⟩, hnames⟩ := hnames
    rw [List.forall_mem_cons]
    -- a keyword at the start of a name leaves nothing to read there, and no name is empty
    have hnothing : ∀ rest, items [] ≠ name :: rest := fun rest heq =>
      hname (List.cons.inj heq).1.symm
    cases names with
    | nil =>
      rw [commaList_singleton, upTo_keyword_name hblank (by decide)]
      by_cases hkeyword : keyword <+: name
      · rw [if_pos hkeyword]
        exact iff_of_false (hnothing _) fun h => h.1 hkeyword
      · have hfound : upTo (.char ' ' :: keyword) (.char ' ' :: (keyword ++ after)) = [] :=
          upTo_self (List.cons_ne_nil (CodePoint.char ' ') keyword)
        rw [if_neg hkeyword, hfound, List.append_nil, items_blank, items_of_not_mem hcomma, hword]
        exact iff_of_true rfl ⟨hkeyword, List.forall_mem_nil _⟩
    | cons next names =>
      rw [commaList_cons_cons, List.append_assoc, List.cons_append,
        upTo_keyword_name hblank (by decide)]
      by_cases hkeyword : keyword <+: name
      · rw [if_pos hkeyword]
        exact iff_of_false (hnothing _) fun h => h.1 hkeyword
      · have hcommas : ∀ rest, upTo (.char ' ' :: keyword) (.char ',' :: rest)
            = .char ',' :: upTo (.char ' ' :: keyword) rest := fun rest =>
          upTo_append (show CodePoint.char ' ' ∉ [CodePoint.char ','] by decide) rest
        rw [if_neg hkeyword, hcommas, items_blank, items_comma hcomma, hword, List.cons_append,
          List.cons.injEq, and_iff_right rfl, ih (List.cons_ne_nil _ _) hnames,
          and_iff_right hkeyword]

/-- The blank before a list is not seen. -/
theorem items_drop_upTo (mark rest : Text) :
    items ((upTo mark (.char ' ' :: rest)).drop 1) = items (upTo mark (.char ' ' :: rest)) := by
  rw [upTo]
  split
  · rfl
  · rw [items_blank]
    rfl

theorem commaList_ne_nil {names : List Text} (hne : names ≠ []) (h : ∀ name ∈ names, name ≠ []) :
    Statement.commaList names ≠ [] := by
  obtain ⟨name, names, rfl⟩ := List.exists_cons_of_ne_nil hne
  have hname := h name List.mem_cons_self
  cases names with
  | nil => rwa [commaList_singleton]
  | cons next names =>
    rw [commaList_cons_cons]
    exact List.append_ne_nil_of_left_ne_nil hname _

/-- **A selection gives back** the names that do not start with the keyword. -/
theorem selectedColumns_select_iff {names : List Text} (hne : names ≠ []) (table : Text)
    (hnames : ∀ name ∈ names,
      name ≠ [] ∧ .char ',' ∉ name ∧ .char ' ' ∉ name ∧ word name = name) :
    selectedColumns (Statement.select table names).text = names ↔
      ∀ name ∈ names, ¬ keyword <+: name := by
  have hlist : Statement.selected names = Statement.commaList names :=
    if_neg (commaList_ne_nil hne fun name hname => (hnames name hname).1)
  have htext : (Statement.select table names).text = Text.ofString "SELECT"
      ++ .char ' ' :: (Statement.commaList names
        ++ .char ' ' :: (keyword ++ .char ' ' :: table)) := by
    rw [Statement.text, hlist]
    simp only [List.append_assoc]
    rfl
  have hselect : .char ' ' ∉ Text.ofString "SELECT" := by decide
  have hread : selectedColumns (Statement.select table names).text
      = items (upTo (.char ' ' :: keyword) (.char ' ' :: (Statement.commaList names
          ++ .char ' ' :: (keyword ++ .char ' ' :: table)))) := by
    rw [selectedColumns, htext, ← items_drop_upTo]
    exact congrArg (fun list => items (list.drop 7)) (upTo_append hselect _)
  rw [hread]
  exact items_upTo_keyword_iff hne hnames _

/-! ## All three -/

/-- A name that a list of columns gives back wherever the list stands. -/
structure ColumnWord (name : Text) : Prop where
  nonempty : name ≠ []
  /-- There is neither a comma nor a closing parenthesis in it. -/
  unmarked : Unmarked name
  /-- There is no blank in it. -/
  unbroken : .char ' ' ∉ name
  /-- It does not start or end with white space. -/
  stripped : strip name = name
  /-- It does not start with the word after the columns of a selection. -/
  notKeyword : ¬ keyword <+: name

instance (name : Text) : Decidable (ColumnWord name) :=
  decidable_of_iff
    (name ≠ [] ∧ Unmarked name ∧ .char ' ' ∉ name ∧ strip name = name ∧ ¬ keyword <+: name)
    ⟨fun ⟨nonempty, unmarked, unbroken, stripped, notKeyword⟩ =>
        ⟨nonempty, unmarked, unbroken, stripped, notKeyword⟩,
      fun h => ⟨h.nonempty, h.unmarked, h.unbroken, h.stripped, h.notKeyword⟩⟩

/-- **All three statements give back** the column words and no other names. -/
theorem columnWords_iff (source : Text) {table : Text} (hopening : .char '(' ∉ table)
    (hclosing : .char ')' ∉ table) {names : List Text} (hne : names ≠ [])
    {bound : List (Text × Int)} (hbound : bound.map (·.1) = names)
    {typed : List (Text × String)} (htyped : typed.map (·.1) = names)
    (htypes : ∀ c ∈ typed, IsType (c.2 : Text)) :
    (selectedColumns (Statement.select source names).text = names ∧
      listedColumns (Statement.insert table bound).text = names ∧
      listedColumns (Statement.createTable table typed).text = names) ↔
      ∀ name ∈ names, ColumnWord name := by
  have hbound' : bound ≠ [] := by
    rintro rfl
    exact hne hbound.symm
  have htyped' : typed ≠ [] := by
    rintro rfl
    exact hne htyped.symm
  have hinsert := listedColumns_insert_iff hopening hclosing hbound'
  have hcreate := listedColumns_createTable_iff hopening hclosing htyped' htypes
  rw [hbound] at hinsert
  rw [htyped] at hcreate
  have hwords : ∀ {name : Text}, .char ' ' ∉ name → strip name = name → word name = name :=
    fun hblank hstrip => (word_of_not_mem hblank).trans hstrip
  constructor
  · rintro ⟨hselected, hinserted, hcreated⟩
    have hplain := hinsert.1 hinserted
    have hnonempty := (hcreate hplain).1 hcreated
    have hkeyword := (selectedColumns_select_iff hne source fun name hname =>
      ⟨hnonempty name hname, (hplain name hname).1.1, (hplain name hname).2.1,
        hwords (hplain name hname).2.1 (hplain name hname).2.2⟩).1 hselected
    intro name hname
    obtain ⟨hunmarked, hunbroken, hstripped⟩ := hplain name hname
    exact ⟨hnonempty name hname, hunmarked, hunbroken, hstripped, hkeyword name hname⟩
  · intro h
    have hplain : ∀ name ∈ names, Unmarked name ∧ .char ' ' ∉ name ∧ strip name = name :=
      fun name hname => ⟨(h name hname).unmarked, (h name hname).unbroken, (h name hname).stripped⟩
    refine ⟨(selectedColumns_select_iff hne source fun name hname => ?_).2 fun name hname =>
      (h name hname).notKeyword, hinsert.2 hplain,
      (hcreate hplain).2 fun name hname => (h name hname).nonempty⟩
    obtain ⟨hunmarked, hunbroken, hstripped⟩ := hplain name hname
    exact ⟨(h name hname).nonempty, hunmarked.1, hunbroken, hwords hunbroken hstripped⟩

end EntityService.Sql
