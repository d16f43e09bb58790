import EntityService.Proofs.StatementText

/-!
# Statements are read back as statements

A statement reaches the database as a text, so what it does is decided by how the text is read.
Here it is read by someone who knows the table: behind the words that a statement starts with comes
the table, and behind the table come lists with commas between their items and blanks between the
words of an item.

A name that is a `ColumnWord` is one word of one item, wherever it stands, and so the statement that
is read is the one that was written.  With other names it may be another statement, or none.

## What is here

* `readCreation?`, `readSelection?`, `readInsertion?`, `readUpdate?` — the readers.
* `itemWords_commaList` — the words of a list that was written.
* `readCreation?_text`, `readSelection?_text`, `readInsertion?_text`, `readUpdate?_text` — statements
  over column words are read back.
* `columnWord_of_read` — and no others are: the names that three of the readers find are column
  words.
-/

set_option autoImplicit false

namespace EntityService.Sql

open EntityService.Text

/-! ## Readers -/

/-- What comes in a text behind the start that it should have. -/
def behind? (start t : Text) : Option Text :=
  if start <+: t then some (t.drop start.length) else none

/-- A list in parentheses, and what comes behind it. -/
def parentheses? (t : Text) : Option (Text × Text) := do
  let rest ← behind? [.char '('] t
  let after ← behind? [.char ')'] (rest.drop (upTo [.char ')'] rest).length)
  some (upTo [.char ')'] rest, after)

/-- The words of an item. -/
def wordsOf (item : Text) : List Text := (strip item).splitOn (.char ' ')

/-- The words of each item of a list. -/
def itemWords (list : Text) : List (List Text) := (list.splitOn (.char ',')).map wordsOf

/-- The parameter that an item is the placeholder of. -/
def parameter? (item : Text) : Option Int :=
  ((parameterNumbers item).find? fun k : Nat => item = .ofString (placeholder k)).map Int.ofNat

/-- A column and its type, from the words of an item. -/
def typedColumn? : List Text → Option (Text × String)
  | name :: first :: more =>
    (Text.toString? (Text.join " " (first :: more))).map fun type => (name, type)
  | _ => none

/-- The creation of a table. -/
def readCreation? (table t : Text) : Option Statement := do
  let rest ← behind? (.ofString "CREATE TABLE IF NOT EXISTS " ++ table ++ .ofString " ") t
  let (list, after) ← parentheses? rest
  let columns ← (itemWords list).mapM typedColumn?
  if after = .ofString ";" then some (.createTable table columns) else none

/-- A selection.  The columns stand between `SELECT` and the first `FROM`. -/
def readSelection? (table t : Text) : Option Statement :=
  if Text.ofString "SELECT " <+: t ∧
      upTo (.ofString " FROM") t ++ .ofString " FROM " ++ table = t then
    some (.select table (selectedColumns t))
  else none

/-- An insertion: as many parameters in the second parentheses as columns in the first. -/
def readInsertion? (table t : Text) : Option Statement := do
  let rest ← behind? (.ofString "INSERT INTO " ++ table ++ .ofString " ") t
  let (list, after) ← parentheses? rest
  let rest ← behind? (.ofString " VALUES ") after
  let (values, after) ← parentheses? rest
  let parameters ← (items values).mapM parameter?
  if after = [] ∧ (items list).length = parameters.length then
    some (.insert table ((items list).zip parameters))
  else none

/-- A column and the parameter that it is set to or compared with, from the words of an item. -/
def equation? : List Text → Option (Text × Int)
  | [column, sign, item] =>
    if sign = "=" then (parameter? item).map fun k => (column, k) else none
  | _ => none

/-- What an update sets, and what it compares behind the last item. -/
def equations? : List (List Text) → Option (List (Text × Int) × (Text × Int))
  | [] => none
  | [[column, sign, item, mark, key, sign', item']] => do
    let last ← equation? [column, sign, item]
    let compared ← equation? [key, sign', item']
    if mark = "WHERE" then some ([last], compared) else none
  | words :: rest => do
    let first ← equation? words
    let (others, compared) ← equations? rest
    some (first :: others, compared)

/-- An update. -/
def readUpdate? (table t : Text) : Option Statement := do
  let rest ← behind? (.ofString "UPDATE " ++ table ++ .ofString " SET ") t
  let (columns, key) ← equations? (itemWords rest)
  some (.update table columns key)

/-! ## Words -/

theorem behind?_append (start rest : Text) : behind? start (start ++ rest) = some rest := by
  rw [behind?, if_pos (List.prefix_append start rest), List.drop_left]

/-- A list without closing parentheses ends where it should. -/
theorem parentheses?_append {list : Text} (h : .char ')' ∉ list) (after : Text) :
    parentheses? (.char '(' :: (list ++ .char ')' :: after)) = some (list, after) := by
  have hopening : behind? [.char '('] (.char '(' :: (list ++ .char ')' :: after))
      = some (list ++ .char ')' :: after) := behind?_append [_] _
  have hclosing : behind? [.char ')'] (.char ')' :: after) = some after := behind?_append [_] _
  rw [parentheses?, hopening]
  simp only [Option.bind_eq_bind, Option.bind_some, upTo_mark h, List.drop_left, hclosing]

/-- A list is read up to the first closing parenthesis. -/
theorem eq_upTo_of_parentheses? {rest list after : Text}
    (h : parentheses? (.char '(' :: rest) = some (list, after)) :
    list = upTo [.char ')'] rest := by
  have hopening : behind? [.char '('] (.char '(' :: rest) = some rest := behind?_append [_] _
  rw [parentheses?, hopening, Option.bind_eq_bind, Option.bind_some] at h
  obtain ⟨after', -, hpair⟩ := Option.bind_eq_some_iff.1 h
  cases hpair
  rfl

/-- A blank in front of an item is not seen. -/
theorem wordsOf_blank (item : Text) : wordsOf (.char ' ' :: item) = wordsOf item := by
  rw [wordsOf, strip_space rfl, wordsOf]

/-- **The words of a list that was written** are the words of what was listed. -/
theorem itemWords_commaList {texts : List Text} (hne : texts ≠ [])
    (h : ∀ text ∈ texts, .char ',' ∉ text) :
    itemWords (Statement.commaList texts) = texts.map wordsOf :=
  map_splitOn_commaList wordsOf_blank hne h

theorem ColumnWord.word_eq {name : Text} (h : ColumnWord name) : word name = name := by
  rw [word_of_not_mem h.unbroken, h.stripped]

/-- A name with something behind it that does not end in white space has no white space around
it. -/
theorem ColumnWord.strip_append {name rest : Text} (h : ColumnWord name) (hne : rest ≠ [])
    (hrest : strip rest = rest) : strip (name ++ .char ' ' :: rest) = name ++ .char ' ' :: rest := by
  obtain ⟨c, cs, rfl⟩ := List.exists_cons_of_ne_nil h.nonempty
  rw [strip_eq_self_iff, List.cons_append, List.head?_cons, ← List.cons_append,
    List.getLast?_append_of_ne_nil _ (List.cons_ne_nil _ _), List.getLast?_cons_of_ne_nil hne]
  exact ⟨(strip_eq_self_iff.1 h.stripped).1, (strip_eq_self_iff.1 hrest).2⟩

/-- **A name is the first word** of what it starts. -/
theorem ColumnWord.wordsOf_append {name rest : Text} (h : ColumnWord name) (hne : rest ≠ [])
    (hrest : strip rest = rest) :
    wordsOf (name ++ .char ' ' :: rest) = name :: rest.splitOn (.char ' ') := by
  rw [wordsOf, h.strip_append hne hrest, List.splitOn_append_cons_self_of_not_mem h.unbroken]

/-! ## Placeholders -/

theorem parameter?_placeholder {k : Int} (h : 0 ≤ k) :
    parameter? (placeholder k : Text) = some k := by
  have hcast : (k.toNat : Int) = k := Int.toNat_of_nonneg h
  rw [parameter?, parameterNumbers_placeholder h, List.find?_cons_of_pos, Option.map_some]
  · exact congrArg some hcast
  · rw [hcast]
    exact decide_eq_true rfl

/-- A placeholder is one word. -/
theorem columnWord_placeholder {k : Int} (h : 0 ≤ k) : ColumnWord (placeholder k : Text) := by
  have hdigits : ∀ c ∈ Nat.toDigits 10 k.toNat, c.isDigit = true := fun _ => Json.isDigit_toDigits
  have hplain : ∀ c ∈ (placeholder k : Text),
      isSpace c = false ∧ c ≠ .char ',' ∧ c ≠ .char ')' ∧ c ≠ .char ' ' := by
    rw [ofString_placeholder h, List.forall_mem_cons, Text.ofChars, List.forall_mem_map]
    refine ⟨by decide, fun c hc => ?_⟩
    have hcode : ∀ n < 0x3a, 0x30 ≤ n → isSpace (.char (Char.ofNat n)) = false ∧
        CodePoint.char (Char.ofNat n) ≠ .char ',' ∧ CodePoint.char (Char.ofNat n) ≠ .char ')' ∧
        CodePoint.char (Char.ofNat n) ≠ .char ' ' := by decide
    have hrange := hdigits c hc
    simp only [Char.isDigit, Bool.and_eq_true, decide_eq_true_eq] at hrange
    have hthis := hcode c.toNat (Nat.lt_succ_of_le hrange.2) hrange.1
    rwa [Char.ofNat_toNat] at hthis
  have hnot : ∀ {d}, (∀ c ∈ (placeholder k : Text), c ≠ d) → d ∉ (placeholder k : Text) :=
    fun hne hmem => hne _ hmem rfl
  refine ⟨?_, ⟨hnot fun c hc => (hplain c hc).2.1, hnot fun c hc => (hplain c hc).2.2.1⟩,
    hnot fun c hc => (hplain c hc).2.2.2, strip_eq_self_iff.2 ⟨?_, ?_⟩, ?_⟩
  · rw [ofString_placeholder h]
    exact List.cons_ne_nil _ _
  · exact fun c hc => (hplain c (List.mem_of_head? hc)).1
  · exact fun c hc => (hplain c (List.mem_of_getLast? hc)).1
  · rw [ofString_placeholder h]
    exact fun hprefix => absurd (List.cons_prefix_cons.1 hprefix).1 (by decide)

/-! ## Creations -/

/-- A column and its type are read back. -/
theorem typedColumn?_definition {column : Text × String} (hname : ColumnWord column.1)
    (htype : IsType (column.2 : Text)) :
    typedColumn? (wordsOf (definition column)) = some column := by
  obtain ⟨name, type⟩ := column
  obtain ⟨first, more, hsplit⟩ := exists_splitOn (.char ' ') (type : Text)
  have hwords : wordsOf (definition (name, type)) = name :: first :: more := by
    rw [← hsplit, ← hname.wordsOf_append htype.nonempty htype.stripped, definition,
      List.append_assoc]
    rfl
  have hjoin : Text.join (.ofString " ") (first :: more) = type := by
    rw [← hsplit]
    exact List.intercalate_splitOn _
  rw [hwords, typedColumn?, hjoin, Text.toString?_ofString]
  rfl

theorem unmarked_definition {column : Text × String} (hname : ColumnWord column.1)
    (htype : IsType (column.2 : Text)) : Unmarked (definition column) := by
  have hblank : Unmarked (.ofString " ") := by decide
  simp only [Unmarked, definition, List.mem_append, not_or]
  exact ⟨⟨⟨hname.unmarked.1, hblank.1⟩, htype.unmarked.1⟩,
    ⟨hname.unmarked.2, hblank.2⟩, htype.unmarked.2⟩

variable {table : Text}

/-- What comes behind the table in the creation of one. -/
def creationTail (columns : List (Text × String)) : Text :=
  .char '(' :: (Statement.commaList (columns.map definition) ++ .char ')' :: Text.ofString ";")

theorem text_createTable (columns : List (Text × String)) :
    (Statement.createTable table columns).text = Text.ofString "CREATE TABLE IF NOT EXISTS "
      ++ table ++ Text.ofString " " ++ creationTail columns := by
  have htext : (Statement.createTable table columns).text
      = Text.ofString "CREATE TABLE IF NOT EXISTS " ++ table ++ Text.ofString " ("
        ++ Statement.commaList (columns.map definition) ++ Text.ofString ");" := rfl
  rw [htext, creationTail]
  simp only [List.append_assoc]
  rfl

/-- **The creation of a table is read back.** -/
theorem readCreation?_text {columns : List (Text × String)} (hne : columns ≠ [])
    (hnames : ∀ c ∈ columns, ColumnWord c.1) (htypes : ∀ c ∈ columns, IsType (c.2 : Text)) :
    readCreation? table (Statement.createTable table columns).text
      = some (.createTable table columns) := by
  have hunmarked : ∀ text ∈ columns.map definition, Unmarked text :=
    List.forall_mem_map.2 fun c hc => unmarked_definition (hnames c hc) (htypes c hc)
  have hdefinitions : columns.map definition ≠ [] := fun h => hne (List.map_eq_nil_iff.1 h)
  have hread : ((columns.map definition).map wordsOf).mapM typedColumn? = some columns := by
    rw [List.map_map, List.mapM_map]
    have hall := mapM_eq_some_map (g := id) fun c hc =>
      typedColumn?_definition (hnames c hc) (htypes c hc)
    rwa [List.map_id] at hall
  have hlist := parentheses?_append (closing_not_mem_commaList hunmarked) (Text.ofString ";")
  rw [readCreation?, text_createTable, behind?_append, creationTail]
  simp only [Option.bind_eq_bind, Option.bind_some, hlist,
    itemWords_commaList hdefinitions fun text htext => (hunmarked text htext).1, hread, if_true]

/-! ## Selections -/

/-- The keyword comes first behind a list if no name in it starts with the keyword. -/
theorem upTo_keyword_commaList {names : List Text} (hne : names ≠ [])
    (hnames : ∀ name ∈ names, ColumnWord name) (after : Text) :
    upTo (.char ' ' :: keyword)
        (.char ' ' :: (Statement.commaList names ++ .char ' ' :: (keyword ++ after)))
      = .char ' ' :: Statement.commaList names := by
  have hself : upTo (.char ' ' :: keyword) (.char ' ' :: (keyword ++ after)) = [] :=
    upTo_self (List.cons_ne_nil (CodePoint.char ' ') keyword)
  induction names with
  | nil => exact absurd rfl hne
  | cons name names ih =>
    rw [List.forall_mem_cons] at hnames
    cases names with
    | nil =>
      rw [commaList_singleton, upTo_keyword_name hnames.1.unbroken (by decide),
        if_neg hnames.1.notKeyword, hself, List.append_nil]
    | cons next names =>
      have hcomma : ∀ rest, upTo (.char ' ' :: keyword) (.char ',' :: rest)
          = .char ',' :: upTo (.char ' ' :: keyword) rest := fun rest =>
        upTo_append (show CodePoint.char ' ' ∉ [CodePoint.char ','] by decide) rest
      rw [commaList_cons_cons, List.append_assoc, List.cons_append,
        upTo_keyword_name hnames.1.unbroken (by decide), if_neg hnames.1.notKeyword, hcomma,
        List.cons_append, ih (List.cons_ne_nil _ _) hnames.2]

/-- **A selection is read back.** -/
theorem readSelection?_text {names : List Text} (hne : names ≠ [])
    (hnames : ∀ name ∈ names, ColumnWord name) :
    readSelection? table (Statement.select table names).text = some (.select table names) := by
  have hlist : Statement.selected names = Statement.commaList names :=
    if_neg (commaList_ne_nil hne fun name hname => (hnames name hname).nonempty)
  have htext : (Statement.select table names).text = Text.ofString "SELECT"
      ++ .char ' ' :: (Statement.commaList names
        ++ .char ' ' :: (keyword ++ .char ' ' :: table)) := by
    rw [Statement.text, hlist]
    simp only [List.append_assoc]
    rfl
  have hselect : .char ' ' ∉ Text.ofString "SELECT" := by decide
  have hupTo : upTo (.char ' ' :: keyword) (Statement.select table names).text
      = Text.ofString "SELECT" ++ .char ' ' :: Statement.commaList names := by
    rw [htext, upTo_append hselect, upTo_keyword_commaList hne hnames]
  have hwhole : upTo (.ofString " FROM") (Statement.select table names).text
      ++ .ofString " FROM " ++ table = (Statement.select table names).text := by
    refine (congrArg (· ++ .ofString " FROM " ++ table) hupTo).trans ?_
    rw [htext]
    simp only [List.append_assoc]
    rfl
  have hstart : Text.ofString "SELECT " <+: (Statement.select table names).text :=
    ⟨_, by rw [htext]; exact (List.append_assoc _ _ _).symm⟩
  have hread := (selectedColumns_select_iff hne table fun name hname =>
    ⟨(hnames name hname).nonempty, (hnames name hname).unmarked.1, (hnames name hname).unbroken,
      (hnames name hname).word_eq⟩).2 fun name hname => (hnames name hname).notKeyword
  rw [readSelection?, if_pos ⟨hstart, hwhole⟩, hread]

/-! ## Insertions -/

/-- What comes behind the table in an insertion. -/
def insertionTail (columns : List (Text × Int)) : Text :=
  .char '(' :: (Statement.commaList (columns.map (·.1)) ++ .char ')' ::
    (Text.ofString " VALUES " ++ .char '(' ::
      (Statement.commaList (columns.map fun c => (placeholder c.2 : Text)) ++ [.char ')'])))

theorem text_insert {columns : List (Text × Int)} (hne : columns ≠ []) :
    (Statement.insert table columns).text = Text.ofString "INSERT INTO " ++ table
      ++ Text.ofString " " ++ insertionTail columns := by
  rw [Statement.text, if_neg hne, insertionTail]
  simp only [List.append_assoc]
  rfl

theorem items_columnWords {texts : List Text} (hne : texts ≠ [])
    (h : ∀ text ∈ texts, ColumnWord text) : items (Statement.commaList texts) = texts := by
  rw [items_commaList hne fun text htext => (h text htext).unmarked.1]
  exact map_eq_self_iff.2 fun text htext => (h text htext).word_eq

/-- **An insertion is read back.** -/
theorem readInsertion?_text {columns : List (Text × Int)} (hne : columns ≠ [])
    (hnames : ∀ c ∈ columns, ColumnWord c.1) (hparameters : ∀ c ∈ columns, 0 ≤ c.2) :
    readInsertion? table (Statement.insert table columns).text
      = some (.insert table columns) := by
  have hwords : ∀ name ∈ columns.map (·.1), ColumnWord name := List.forall_mem_map.2 hnames
  have hplaceholders : ∀ item ∈ columns.map fun c => (placeholder c.2 : Text), ColumnWord item :=
    List.forall_mem_map.2 fun c hc => columnWord_placeholder (hparameters c hc)
  have hlist := parentheses?_append
    (closing_not_mem_commaList fun name hname => (hwords name hname).unmarked)
  have hvalues := parentheses?_append
    (closing_not_mem_commaList fun item hitem => (hplaceholders item hitem).unmarked)
  have hcolumns := items_columnWords (fun h => hne (List.map_eq_nil_iff.1 h)) hwords
  have hitems := items_columnWords (fun h => hne (List.map_eq_nil_iff.1 h)) hplaceholders
  have hread : (columns.map fun c => (placeholder c.2 : Text)).mapM parameter?
      = some (columns.map (·.2)) := by
    rw [List.mapM_map]
    exact mapM_eq_some_map fun c hc => parameter?_placeholder (hparameters c hc)
  have hzip : (columns.map (·.1)).zip (columns.map (·.2)) = columns := by
    rw [List.zip_map', List.map_id']
  rw [readInsertion?, text_insert hne, behind?_append, insertionTail]
  simp only [Option.bind_eq_bind, Option.bind_some, hlist, behind?_append, hvalues, hcolumns,
    hitems, hread, List.length_map, and_self, if_true, hzip]

/-! ## Updates -/

/-- **Words with blanks between them** are read back. -/
theorem wordsOf_join {words : List Text} (hne : words ≠ []) (h : ∀ word ∈ words, ColumnWord word) :
    (Text.join (.ofString " ") words ≠ [] ∧
      strip (Text.join (.ofString " ") words) = Text.join (.ofString " ") words) ∧
    wordsOf (Text.join (.ofString " ") words) = words := by
  induction words with
  | nil => exact absurd rfl hne
  | cons word words ih =>
    rw [List.forall_mem_cons] at h
    cases words with
    | nil =>
      have hjoin : Text.join (.ofString " ") [word] = word := List.intercalate_singleton
      rw [hjoin, wordsOf, h.1.stripped, List.splitOn_eq_singleton h.1.unbroken]
      exact ⟨⟨h.1.nonempty, rfl⟩, rfl⟩
    | cons next words =>
      obtain ⟨⟨hrest, hstrip⟩, hwords⟩ := ih (List.cons_ne_nil _ _) h.2
      have hjoin : Text.join (.ofString " ") (word :: next :: words)
          = word ++ .char ' ' :: Text.join (.ofString " ") (next :: words) :=
        (List.intercalate_cons_cons).trans (List.append_assoc _ _ _)
      rw [wordsOf, hstrip] at hwords
      rw [hjoin, h.1.wordsOf_append hrest hstrip, hwords]
      exact ⟨⟨List.append_ne_nil_of_right_ne_nil _ (List.cons_ne_nil _ _),
        h.1.strip_append hrest hstrip⟩, rfl⟩

/-- The words of a column and its parameter. -/
def equationWords (column : Text × Int) : List Text :=
  [column.1, .ofString "=", .ofString (placeholder column.2)]

theorem columnWord_equationWords {column : Text × Int} (hname : ColumnWord column.1)
    (h : 0 ≤ column.2) : ∀ word ∈ equationWords column, ColumnWord word := by
  rw [equationWords, List.forall_mem_cons, List.forall_mem_cons, List.forall_mem_singleton]
  exact ⟨hname, by decide, columnWord_placeholder h⟩

theorem equation?_equationWords {column : Text × Int} (h : 0 ≤ column.2) :
    equation? (equationWords column) = some column := by
  rw [equationWords, equation?, if_pos rfl, parameter?_placeholder h]
  rfl

theorem join_equationWords (column : Text × Int) :
    Text.join (.ofString " ") (equationWords column) = Statement.equation column := by
  have hsign : Text.ofString " = "
      = Text.ofString " " ++ (Text.ofString "=" ++ Text.ofString " ") := rfl
  rw [Statement.equation, hsign]
  simp only [Text.join, equationWords, List.intercalate_cons_cons, List.intercalate_singleton,
    List.append_assoc]

theorem comma_not_mem_equation {column : Text × Int} (hname : ColumnWord column.1)
    (h : 0 ≤ column.2) : .char ',' ∉ Statement.equation column := by
  have hequals : .char ',' ∉ Text.ofString " = " := by decide
  rw [Statement.equation, List.mem_append, List.mem_append, not_or, not_or]
  exact ⟨⟨hname.unmarked.1, hequals⟩, (columnWord_placeholder h).unmarked.1⟩

variable {key : Text × Int}

/-- What comes behind the columns of an update. -/
def comparison (key : Text × Int) : Text := Text.ofString " WHERE " ++ Statement.equation key

/-- The words of the last item of an update. -/
theorem wordsOf_equation_comparison {column : Text × Int} (hname : ColumnWord column.1)
    (h : 0 ≤ column.2) (hkey : ColumnWord key.1) (hkey' : 0 ≤ key.2) :
    wordsOf (Statement.equation column ++ comparison key)
      = equationWords column ++ .ofString "WHERE" :: equationWords key := by
  have hall : ∀ word ∈ equationWords column ++ .ofString "WHERE" :: equationWords key,
      ColumnWord word := by
    rw [List.forall_mem_append, List.forall_mem_cons]
    exact ⟨columnWord_equationWords hname h, by decide, columnWord_equationWords hkey hkey'⟩
  have hjoin : Text.join (.ofString " ")
      (equationWords column ++ .ofString "WHERE" :: equationWords key)
        = Statement.equation column ++ comparison key := by
    rw [comparison, ← join_equationWords, ← join_equationWords]
    simp only [Text.join, equationWords, List.cons_append, List.nil_append,
      List.intercalate_cons_cons, List.intercalate_singleton, List.append_assoc]
    rfl
  rw [← hjoin]
  exact (wordsOf_join (List.cons_ne_nil _ _) hall).2

/-- **What an update sets and compares is read back,** by induction on the columns. -/
theorem equations?_itemWords {columns : List (Text × Int)} (hne : columns ≠ [])
    (hnames : ∀ c ∈ columns, ColumnWord c.1) (hparameters : ∀ c ∈ columns, 0 ≤ c.2)
    (hkey : ColumnWord key.1) (hkey' : 0 ≤ key.2) :
    equations? (itemWords (Statement.commaList (columns.map Statement.equation) ++ comparison key))
      = some (columns, key) := by
  induction columns with
  | nil => exact absurd rfl hne
  | cons column columns ih =>
    rw [List.forall_mem_cons] at hnames hparameters
    have hcomma := comma_not_mem_equation hnames.1 hparameters.1
    cases columns with
    | nil =>
      have hmark : .char ',' ∉ Text.ofString " WHERE " := by decide
      have hlast : .char ',' ∉ Statement.equation column ++ comparison key := by
        rw [comparison, List.mem_append, List.mem_append, not_or, not_or]
        exact ⟨hcomma, hmark, comma_not_mem_equation hkey hkey'⟩
      rw [List.map_singleton, commaList_singleton, itemWords, List.splitOn_eq_singleton hlast,
        List.map_singleton,
        wordsOf_equation_comparison hnames.1 hparameters.1 hkey hkey']
      have hfirst : equation? (equationWords column) = some column :=
        equation?_equationWords hparameters.1
      have hsecond : equation? (equationWords key) = some key := equation?_equationWords hkey'
      rw [equationWords] at hfirst hsecond
      simp only [equationWords, List.cons_append, List.nil_append, equations?, hfirst, hsecond]
      rfl
    | cons next columns =>
      have hrest := ih (List.cons_ne_nil _ _) hnames.2 hparameters.2
      have hwords : wordsOf (Statement.equation column) = equationWords column := by
        rw [← join_equationWords]
        exact (wordsOf_join (List.cons_ne_nil _ _)
          (columnWord_equationWords hnames.1 hparameters.1)).2
      have hitems : ∀ list, itemWords (Statement.equation column ++ .char ',' :: .char ' ' :: list)
          = equationWords column :: itemWords list := by
        intro list
        rw [itemWords, List.splitOn_append_cons_self_of_not_mem hcomma, List.map_cons, hwords,
          map_splitOn_blank wordsOf_blank, itemWords]
      have hfirst : equation? (equationWords column) = some column :=
        equation?_equationWords hparameters.1
      rw [equationWords] at hitems hfirst
      rw [List.map_cons, List.map_cons, commaList_cons_cons, List.append_assoc, List.cons_append,
        List.cons_append, hitems, ← List.map_cons]
      simp only [equations?, hfirst, hrest]
      rfl

/-- **An update is read back.** -/
theorem readUpdate?_text {columns : List (Text × Int)} (hne : columns ≠ [])
    (hnames : ∀ c ∈ columns, ColumnWord c.1) (hparameters : ∀ c ∈ columns, 0 ≤ c.2)
    (hkey : ColumnWord key.1) (hkey' : 0 ≤ key.2) :
    readUpdate? table (Statement.update table columns key).text
      = some (.update table columns key) := by
  have htext : (Statement.update table columns key).text
      = Text.ofString "UPDATE " ++ table ++ Text.ofString " SET "
        ++ (Statement.commaList (columns.map Statement.equation) ++ comparison key) := by
    rw [Statement.text, comparison]
    simp only [List.append_assoc]
  rw [readUpdate?, htext, behind?_append, Option.bind_eq_bind, Option.bind_some,
    equations?_itemWords hne hnames hparameters hkey hkey']
  rfl

/-! ## What is read back only from column words -/

/-- The first piece of a text is what comes before the first mark. -/
theorem takeWhile_eq_of_splitOn {mark : CodePoint} {t first : Text} {more : List Text}
    (h : t.splitOn mark = first :: more) : t.takeWhile (· ≠ mark) = first := by
  induction t generalizing first more with
  | nil =>
    rw [List.splitOn_nil] at h
    exact (List.cons.inj h).1
  | cons c rest ih =>
    obtain ⟨first', more', hrest⟩ := exists_splitOn mark rest
    rw [List.splitOn_cons_eq_if_modifyHead, hrest, List.modifyHead_cons] at h
    rw [List.takeWhile_cons]
    split at h
    · rename_i hc
      rw [if_neg (by simpa using hc)]
      exact (List.cons.inj h).1
    · rename_i hc
      rw [if_pos (by simpa using hc), ih hrest]
      exact (List.cons.inj h).1

/-- The column that is read from an item is its first word. -/
theorem word_eq_of_typedColumn? {item : Text} {column : Text × String}
    (h : typedColumn? (wordsOf item) = some column) : word item = column.1 := by
  unfold typedColumn? at h
  split at h
  · rename_i name first more hwords
    obtain ⟨type, -, rfl⟩ := Option.map_eq_some_iff.1 h
    exact takeWhile_eq_of_splitOn hwords
  · cases h

section Words

variable {names : List Text} {typed typed' : List (Text × String)} {bound bound' : List (Text × Int)}

theorem listedColumns_of_readCreation? {statement : Statement}
    (h : readCreation? table (Statement.createTable table typed).text = some statement) :
    listedColumns (Statement.createTable [] typed).text = statement.madeColumns := by
  rw [readCreation?, text_createTable, behind?_append, Option.bind_eq_bind, Option.bind_some] at h
  obtain ⟨⟨list, after⟩, hlist, h⟩ := Option.bind_eq_some_iff.1 h
  obtain ⟨columns, hcolumns, h⟩ := Option.bind_eq_some_iff.1 h
  have hitems : listedColumns (Statement.createTable [] typed).text = items list := by
    rw [eq_upTo_of_parentheses? hlist, text_createTable, List.append_nil]
    exact listedColumns_eq (by decide) (by decide) _
  split at h
  · cases h
    rw [itemWords, List.mapM_map] at hcolumns
    rw [hitems, items, Statement.madeColumns, ← List.forall₂_eq_eq_eq,
      List.forall₂_map_left_iff, List.forall₂_map_right_iff]
    exact (forall₂_of_mapM_eq_some hcolumns).imp fun _ _ hcolumn =>
      word_eq_of_typedColumn? hcolumn
  · cases h

/-- What is read as an insertion is one. -/
theorem exists_of_readInsertion? {t : Text} {statement : Statement}
    (h : readInsertion? table t = some statement) :
    ∃ columns, statement = .insert table columns := by
  obtain ⟨rest, -, h⟩ := Option.bind_eq_some_iff.1 h
  obtain ⟨⟨list, after⟩, -, h⟩ := Option.bind_eq_some_iff.1 h
  obtain ⟨rest', -, h⟩ := Option.bind_eq_some_iff.1 h
  obtain ⟨⟨values, after'⟩, -, h⟩ := Option.bind_eq_some_iff.1 h
  obtain ⟨parameters, -, h⟩ := Option.bind_eq_some_iff.1 h
  split at h
  · cases h
    exact ⟨_, rfl⟩
  · cases h

theorem listedColumns_of_readInsertion? (hbound : bound ≠ [])
    (h : readInsertion? table (Statement.insert table bound).text
      = some (.insert table bound')) :
    listedColumns (Statement.insert [] bound).text = bound'.map (·.1) := by
  rw [readInsertion?, text_insert hbound, behind?_append, Option.bind_eq_bind,
    Option.bind_some] at h
  obtain ⟨⟨list, after⟩, hlist, h⟩ := Option.bind_eq_some_iff.1 h
  obtain ⟨rest, -, h⟩ := Option.bind_eq_some_iff.1 h
  obtain ⟨⟨values, after'⟩, -, h⟩ := Option.bind_eq_some_iff.1 h
  obtain ⟨parameters, -, h⟩ := Option.bind_eq_some_iff.1 h
  have hitems : listedColumns (Statement.insert [] bound).text = items list := by
    rw [eq_upTo_of_parentheses? hlist, text_insert hbound, List.append_nil]
    exact listedColumns_eq (by decide) (by decide) _
  split at h
  · rename_i hlength
    cases h
    rw [hitems, List.map_fst_zip hlength.2.le]
  · cases h

/-- **Only column words are read back.**  If the names that a creation, a selection and an insertion
are read to have are those that they were written with, all of them are column words. -/
theorem columnWord_of_read (hne : names ≠ []) (htyped : typed.map (·.1) = names)
    (htypes : ∀ c ∈ typed, IsType (c.2 : Text)) (hbound : bound.map (·.1) = names)
    (hcreation : readCreation? table (Statement.createTable table typed).text
      = some (.createTable table typed')) (htyped' : typed'.map (·.1) = names)
    (hselection : readSelection? table (Statement.select table names).text
      = some (.select table names))
    (hinsertion : readInsertion? table (Statement.insert table bound).text
      = some (.insert table bound')) (hbound' : bound'.map (·.1) = names) :
    ∀ name ∈ names, ColumnWord name := by
  have hbound'' : bound ≠ [] := by
    rintro rfl
    exact hne hbound.symm
  have hselected : selectedColumns (Statement.select table names).text = names := by
    rw [readSelection?] at hselection
    split at hselection
    · exact (Statement.select.inj (Option.some.inj hselection)).2
    · cases hselection
  refine (columnWords_iff table List.not_mem_nil List.not_mem_nil hne hbound htyped
    htypes).1 ⟨hselected, ?_, ?_⟩
  · rw [listedColumns_of_readInsertion? hbound'' hinsertion, hbound']
  · rw [listedColumns_of_readCreation? hcreation]
    exact htyped'

end Words

end EntityService.Sql
