import EntityService.Files.Tree
import EntityService.Names.ProjectName
import Mathlib.Data.List.Basic

/-!
# Paths and their texts

A path is a list of names, and a text is cut into names at its slashes.  This file says when one is
as good as the other: the names of a path that was read hold no slash and mean a step down or a step
up, so its text leads through these very names.

## What is here

* `Path.pieces_intercalate` — a text splits at slashes into the names that it was made of.
* `IsPlainName`, `Path.IsPlain`, `Path.isPlain_ofString` — the names of a path that was read.
* `Path.join_plainName` — what a single name does to a path.
* `Path.rootOf_text`, `Path.pieces_text` — the text of a path leads the way of the path.
* `Files.pathFault?_of_append` — a path that can be given to an operation has no beginnings that
  cannot.
* `Names.isPlainName_project` — the name of a project is a single name.
-/

set_option autoImplicit false

namespace EntityService

/-- A name that a text can hold between slashes and that is not left out when the text is read. -/
structure IsPlainName (name : String) : Prop where
  ne_empty : name ≠ ""
  ne_point : name ≠ "."
  no_slash : '/' ∉ name.toList

namespace Path

/-! ## Splitting at slashes -/

/-- **A text splits into the names that it was made of,** if no name holds a slash. -/
theorem pieces_intercalate {names : List String} (hne : names ≠ [])
    (h : ∀ name ∈ names, '/' ∉ name.toList) : pieces ("/".intercalate names) = names := by
  have hsplit : (['/'].intercalate (names.map String.toList)).splitOn '/'
      = names.map String.toList :=
    List.splitOn_intercalate '/' (List.forall_mem_map.2 h) (by simpa using hne)
  rw [pieces, String.toList_intercalate]
  show ((['/'].intercalate (names.map String.toList)).splitOn '/').map String.ofList = names
  rw [hsplit, List.map_map]
  simp

/-- No piece holds a slash. -/
theorem not_mem_of_mem_splitOn {cs piece : List Char} (h : piece ∈ cs.splitOn '/') :
    '/' ∉ piece := by
  induction cs generalizing piece with
  | nil =>
    rw [List.splitOn_nil, List.mem_singleton] at h
    rw [h]
    exact List.not_mem_nil
  | cons c cs ih =>
    rw [List.splitOn_eq_splitOnP, List.splitOnP_cons_eq_if_modifyHead,
      ← List.splitOn_eq_splitOnP] at h
    split at h
    · rcases List.mem_cons.1 h with rfl | h
      · exact List.not_mem_nil
      · exact ih h
    · rename_i hc
      cases hpieces : cs.splitOn '/' with
      | nil =>
        rw [hpieces] at h
        exact absurd h List.not_mem_nil
      | cons first rest =>
        rw [hpieces] at h ih
        rcases List.mem_cons.1 h with rfl | h
        · rw [List.mem_cons, not_or]
          exact ⟨fun heq => hc (by simp [← heq]), ih List.mem_cons_self⟩
        · exact ih (List.mem_cons_of_mem _ h)

/-! ## Plain paths -/

/-- All names of a path are plain. -/
def IsPlain (p : Path) : Prop := ∀ name ∈ p.names, IsPlainName name

theorem isPlain_ofString (text : String) : (ofString text).IsPlain := by
  intro name hname
  rw [ofString, List.mem_filter, decide_eq_true_eq] at hname
  obtain ⟨hpiece, hempty, hpoint⟩ := hname
  obtain ⟨piece, hmem, rfl⟩ := List.mem_map.1 hpiece
  refine ⟨hempty, hpoint, ?_⟩
  rw [String.toList_ofList]
  exact not_mem_of_mem_splitOn hmem

/-- A text that does not begin with a slash has no root. -/
theorem rootOf_eq_relative {text : String} (h : text.toList.head? ≠ some '/') :
    rootOf text = .relative := by
  rw [rootOf]
  cases hcs : text.toList with
  | nil => rfl
  | cons c cs =>
    rw [hcs] at h
    have hc : c ≠ '/' := fun heq => h (by rw [heq]; rfl)
    rw [List.takeWhile_cons_of_neg (by simpa using hc)]
    rfl

theorem ofString_plainName {name : String} (h : IsPlainName name) :
    ofString name = ⟨.relative, [name]⟩ := by
  have hhead : name.toList.head? ≠ some '/' :=
    fun hslash => h.no_slash (List.mem_of_mem_head? hslash)
  have hpieces := pieces_intercalate (List.cons_ne_nil name [])
    (List.forall_mem_singleton.2 h.no_slash)
  rw [String.intercalate_singleton] at hpieces
  rw [ofString, rootOf_eq_relative hhead, hpieces, List.filter_cons_of_pos, List.filter_nil]
  exact decide_eq_true ⟨h.ne_empty, h.ne_point⟩

/-- A single name is one step further. -/
theorem join_plainName (p : Path) {name : String} (h : IsPlainName name) :
    p.join name = ⟨p.root, p.names ++ [name]⟩ := by
  rw [join, ofString_plainName h]
  rfl

theorem IsPlain.join {p : Path} (h : p.IsPlain) (text : String) : (p.join text).IsPlain := by
  rw [Path.join]
  split
  · exact List.forall_mem_append.2 ⟨h, isPlain_ofString text⟩
  · exact isPlain_ofString text

/-! ## The text of a path -/

theorem text_of_names (root : Root) {names : List String} (h : names ≠ []) :
    text ⟨root, names⟩ = root.text ++ "/".intercalate names := by
  rw [text, if_neg (fun hnone => h hnone.2)]

theorem toList_intercalate_cons (name : String) (names : List String) : ∃ rest,
    ("/".intercalate (name :: names)).toList = name.toList ++ rest := by
  cases names with
  | nil => exact ⟨[], by simp⟩
  | cons next names =>
    rw [String.intercalate_cons_cons, String.toList_append, String.toList_append,
      List.append_assoc]
    exact ⟨_, rfl⟩

/-- A text of plain names does not begin with a slash. -/
theorem intercalate_head {names : List String} (h : ∀ name ∈ names, IsPlainName name) :
    ∀ c ∈ ("/".intercalate names).toList.head?, c ≠ '/' := by
  cases names with
  | nil => simp
  | cons name names =>
    obtain ⟨rest, hrest⟩ := toList_intercalate_cons name names
    obtain ⟨hempty, -, hslash⟩ := h name List.mem_cons_self
    have hne : name.toList ≠ [] := by simpa using hempty
    rw [hrest, List.head?_append_of_ne_nil _ hne]
    rintro c hc rfl
    exact hslash (List.mem_of_mem_head? hc)

theorem rootOf_slashes {k : Nat} {text : String} (h : ∀ c ∈ text.toList.head?, c ≠ '/') :
    ((List.replicate k '/' ++ text.toList).takeWhile (· == '/')).length = k := by
  have hnone : text.toList.takeWhile (· == '/') = [] := by
    cases hcs : text.toList with
    | nil => rfl
    | cons c cs =>
      rw [hcs] at h
      exact List.takeWhile_cons_of_neg (by simpa using h c rfl)
  rw [List.takeWhile_append_of_pos (by simp), hnone, List.append_nil, List.length_replicate]

/-- **The text of a path begins where the path does.** -/
theorem rootOf_text {p : Path} (h : p.IsPlain) : rootOf p.text = p.root := by
  obtain ⟨root, names⟩ := p
  by_cases hnames : names = []
  · subst hnames
    cases root <;> decide
  · have hhead := intercalate_head h
    have hslashes : root.text.toList = List.replicate root.text.length '/' := by
      cases root <;> decide
    rw [text_of_names root hnames, rootOf, String.toList_append, hslashes, rootOf_slashes hhead]
    cases root <;> rfl

/-- A piece that stays where it is when it is followed. -/
def Stays (name : String) : Prop := name = "" ∨ name = "."

/-- **The text of a path leads the way of the path.**  The pieces before the names stay at the
start. -/
theorem pieces_text {p : Path} (h : p.IsPlain) :
    ∃ before : List String, (∀ name ∈ before, Stays name) ∧ pieces p.text = before ++ p.names := by
  obtain ⟨root, names⟩ := p
  by_cases hnames : names = []
  · subst hnames
    cases root with
    | relative => exact ⟨["."], by simp [Stays], by decide⟩
    | absolute => exact ⟨["", ""], by simp [Stays], by decide⟩
    | doubled => exact ⟨["", "", ""], by simp [Stays], by decide⟩
  · have hsplit : ∀ before : List String, (∀ name ∈ before, name = "") →
        pieces ("/".intercalate (before ++ names)) = before ++ names := by
      intro before hbefore
      refine pieces_intercalate (List.append_ne_nil_of_right_ne_nil _ hnames) ?_
      rw [List.forall_mem_append]
      refine ⟨fun name hname => ?_, fun name hname => (h name hname).no_slash⟩
      rw [hbefore name hname]
      exact List.not_mem_nil
    have hjoin : ∀ before : List String, before ≠ [] → root.text = "/".intercalate before ++ "/" →
        root.text ++ "/".intercalate names = "/".intercalate (before ++ names) := by
      intro before hbefore htext
      rw [String.intercalate_append_of_ne_nil hbefore hnames, htext]
    rw [text_of_names root hnames]
    cases root with
    | relative =>
      refine ⟨[], by simp, ?_⟩
      rw [show Root.relative.text = "" from rfl, String.empty_append]
      exact hsplit [] (by simp)
    | absolute =>
      refine ⟨[""], by simp [Stays], ?_⟩
      rw [hjoin [""] (by decide) (by decide)]
      exact hsplit [""] (by simp)
    | doubled =>
      refine ⟨["", ""], by simp [Stays], ?_⟩
      rw [hjoin ["", ""] (by decide) (by decide)]
      exact hsplit ["", ""] (by simp)

theorem text_ne_empty {p : Path} (h : p.IsPlain) : p.text ≠ "" := by
  obtain ⟨root, names⟩ := p
  cases names with
  | nil => cases root <;> decide
  | cons name names =>
    obtain ⟨rest, hrest⟩ := toList_intercalate_cons name names
    have hne := (h name List.mem_cons_self).ne_empty
    rw [text_of_names root (List.cons_ne_nil _ _)]
    intro hempty
    have hlist := congrArg String.toList hempty
    rw [String.toList_append, hrest] at hlist
    simp [hne] at hlist

/-- The text of a path starts with that of its beginning. -/
theorem text_append (root : Root) (names more : List String) :
    (root = .relative ∧ names = []) ∨
      ∃ rest, text ⟨root, names ++ more⟩ = text ⟨root, names⟩ ++ rest := by
  by_cases hmore : more = []
  · exact .inr ⟨"", by rw [hmore, List.append_nil, String.append_empty]⟩
  · have hall : names ++ more ≠ [] := List.append_ne_nil_of_right_ne_nil _ hmore
    rw [text_of_names root hall]
    by_cases hnames : names = []
    · subst hnames
      by_cases hroot : root = .relative
      · exact .inl ⟨hroot, rfl⟩
      · refine .inr ⟨"/".intercalate more, ?_⟩
        rw [text, if_neg (fun h => hroot h.1)]
        simp
    · refine .inr ⟨"/" ++ "/".intercalate more, ?_⟩
      rw [String.intercalate_append_of_ne_nil hnames hmore, text_of_names root hnames]
      simp only [String.append_assoc]

end Path

/-! ## Paths that can be given to an operation -/

namespace Files

theorem pathFault?_eq_none_iff {path : String} :
    pathFault? path = none ↔ '\x00' ∉ path.toList ∧ path.utf8ByteSize ≤ maxPath := by
  rw [pathFault?]
  split
  · rename_i h
    exact ⟨nofun, fun hfine => absurd h hfine.1⟩
  · rename_i h
    split
    · rename_i hlong
      exact ⟨nofun, fun hfine => absurd hlong (by omega)⟩
    · rename_i hshort
      exact ⟨fun _ => ⟨h, by omega⟩, fun _ => rfl⟩

/-- **A path that can be given to an operation has no beginnings that cannot.** -/
theorem pathFault?_of_append {root : Root} {names more : List String}
    (h : pathFault? (Path.text ⟨root, names ++ more⟩) = none) :
    pathFault? (Path.text ⟨root, names⟩) = none := by
  rcases Path.text_append root names more with ⟨rfl, rfl⟩ | ⟨rest, hrest⟩
  · decide
  · rw [pathFault?_eq_none_iff, hrest, String.toList_append, String.utf8ByteSize_append] at h
    rw [pathFault?_eq_none_iff]
    exact ⟨fun hmem => h.1 (List.mem_append_left _ hmem), by omega⟩

end Files

/-! ## Names of projects -/

namespace Names

theorem isProjectChar_of_mem {name : String} (h : isProjectName name = true) {c : Char}
    (hc : c ∈ name.toList) : isProjectChar c = true ∨ c = '\n' := by
  rw [isProjectName, isProjectStem, Bool.and_eq_true, Bool.and_eq_true, List.all_eq_true] at h
  by_cases hline : name.toList.getLast? = some '\n'
  · simp only [if_pos hline] at h
    rw [← List.dropLast_append_getLast? _ hline, List.mem_append, List.mem_singleton] at hc
    exact hc.imp (h.2 c) id
  · simp only [if_neg hline] at h
    exact .inl (h.2 c hc)

/-- The name of a project begins with a letter or a digit. -/
theorem exists_head_of_isProjectName {name : String} (h : isProjectName name = true) :
    ∃ c, name.toList.head? = some c ∧ isProjectLetter c = true := by
  rw [isProjectName, isProjectStem, Bool.and_eq_true, Bool.and_eq_true] at h
  obtain ⟨c, hhead, hletter⟩ := (Option.any_eq_true _ _).1 h.1.1
  refine ⟨c, ?_, hletter⟩
  split at hhead
  · rename_i hline
    rw [← List.dropLast_append_getLast? _ hline, List.head?_append, hhead]
    rfl
  · exact hhead

/-- **The name of a project is a single name.** -/
theorem isPlainName_project {name : String} (h : isProjectName name = true) : IsPlainName name := by
  obtain ⟨c, hhead, hletter⟩ := exists_head_of_isProjectName h
  refine ⟨?_, ?_, ?_⟩
  · rintro rfl
    cases hhead
  · rintro rfl
    cases hhead
    exact absurd hletter (by decide)
  · intro hslash
    rcases isProjectChar_of_mem h hslash with hchar | hchar
    · exact absurd hchar (by decide)
    · exact absurd hchar (by decide)

theorem ne_up_of_isProjectName {name : String} (h : isProjectName name = true) : name ≠ ".." := by
  rintro rfl
  exact absurd h (by decide)

end Names

end EntityService
