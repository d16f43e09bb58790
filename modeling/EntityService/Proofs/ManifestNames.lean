import EntityService.Proofs.ProjectNames
import EntityService.Proofs.RunEffects
import EntityService.Text.Hex

/-!
# The name in a manifest

A manifest gives the name of its project twice, between double quotes: as the name of the project
and as the name of the command that starts it.  The name is put in as it stands, without escapes.
That is right if a reader of the manifest finds a string there that ends at the second quote and
denotes the name.

Nothing in the name of a project needs an escape, with one exception.  A string between double
quotes ends on the line that it began on, so no string is found if the name ends in a line feed.

## What is here

* `Manifest.readContent`, `Manifest.readString` — how a string between double quotes is read.
* `Manifest.readString_quoted`, `Manifest.readString_lineFeed` — strings without escapes.
* `manifestHead`, `manifestMiddle`, `manifestTail`, `manifestText_eq` — what stands around the two
  names.
* `namesOf?`, `namesOf?_manifestText` — the names that a manifest is read to give.
* `projectNames_read_back` — the main statement, with a name that has a letter beyond ASCII.
* `lineFeed_not_read_back` — a name that ends in a line feed.
-/

set_option autoImplicit false

namespace EntityService

namespace Manifest

/-! ## Strings between double quotes -/

/-- Where the reader of a string stands. -/
inductive Mode
  /-- Among characters that stand for themselves. -/
  | plain
  /-- After a backslash. -/
  | escaped
  /-- Among hexadecimal digits: how many are to come, and the number that the others write. -/
  | digits (left value : Nat)
deriving DecidableEq, Repr

/-- The escapes of a single character. -/
def shortEscapes : List (Char × Char) :=
  [('b', '\x08'), ('t', '\t'), ('n', '\n'), ('f', '\x0c'), ('r', '\r'), ('"', '"'), ('\\', '\\')]

/-- The escapes by hexadecimal digits, with the number of digits. -/
def wideEscapes : List (Char × Nat) := [('u', 4), ('U', 8)]

/-- A character that stands for itself in a string: neither the quote nor the backslash, and no
control character other than the tab. -/
def standsForItself (c : Char) : Bool :=
  c != '"' && c != '\\' && (c == '\t' || 0x20 ≤ c.toNat) && c != '\x7f'

/-- Reads on to the quote that closes a string: the content, and what follows. -/
def readContent : Mode → List Char → Option (List Char × List Char)
  | _, [] => none
  | .plain, c :: rest =>
    if c = '"' then some ([], rest)
    else if c = '\\' then readContent .escaped rest
    else if standsForItself c then (readContent .plain rest).map fun p => (c :: p.1, p.2)
    else none
  | .escaped, c :: rest =>
    match shortEscapes.lookup c, wideEscapes.lookup c with
    | some d, _ => (readContent .plain rest).map fun p => (d :: p.1, p.2)
    | none, some width => readContent (.digits width 0) rest
    | none, none => none
  | .digits left value, c :: rest =>
    match Text.hexValue? c with
    | none => none
    | some digit =>
      if 1 < left then readContent (.digits (left - 1) (16 * value + digit)) rest
      else if (16 * value + digit).isValidChar then
        (readContent .plain rest).map fun p => (Char.ofNat (16 * value + digit) :: p.1, p.2)
      else none

/-- The content of the string that a double quote opens, and what follows the string.  Three quotes
open a string of another kind, which may have several lines. -/
def readString : List Char → Option (List Char × List Char)
  | [] => none
  | c :: rest =>
    if c ≠ '"' ∨ ['"', '"'].isPrefixOf rest then none else readContent .plain rest

theorem readContent_plain {cs : List Char} (h : ∀ c ∈ cs, standsForItself c = true)
    (rest : List Char) :
    readContent .plain (cs ++ rest) = (readContent .plain rest).map fun p => (cs ++ p.1, p.2) := by
  induction cs with
  | nil =>
    rw [List.nil_append]
    exact (congrFun Option.map_id _).symm
  | cons c cs ih =>
    obtain ⟨hc, hcs⟩ := List.forall_mem_cons.1 h
    have hne : c ≠ '"' ∧ c ≠ '\\' := by
      constructor <;> rintro rfl <;> exact absurd hc (by decide)
    rw [List.cons_append, readContent, if_neg hne.1, if_neg hne.2, if_pos hc, ih hcs,
      Option.map_map]
    rfl

/-- **A content without escapes is read back.** -/
theorem readString_quoted {cs : List Char} (hne : cs ≠ [])
    (h : ∀ c ∈ cs, standsForItself c = true) (rest : List Char) :
    readString ('"' :: (cs ++ '"' :: rest)) = some (cs, rest) := by
  have hthree : ¬ ['"', '"'].isPrefixOf (cs ++ '"' :: rest) = true := by
    cases cs with
    | nil => exact absurd rfl hne
    | cons c cs =>
      have hc : c ≠ '"' := by
        rintro rfl
        exact absurd (h _ List.mem_cons_self) (by decide)
      simp [List.isPrefixOf, hc.symm]
  rw [readString, if_neg (by simp [hthree]), readContent_plain h, readContent, if_pos rfl,
    Option.map_some, List.append_nil]

/-- **A string does not go beyond its line.** -/
theorem readString_lineFeed {cs : List Char} (h : ∀ c ∈ cs, standsForItself c = true)
    (rest : List Char) : readString ('"' :: (cs ++ '\n' :: rest)) = none := by
  have hline : readContent .plain ('\n' :: rest) = none := rfl
  rw [readString]
  split
  · rfl
  · rw [readContent_plain h, hline, Option.map_none]

end Manifest

/-! ## The places of the name -/

/-- Lines as a text. -/
def linesText (lines : List String) : String := String.join (lines.map fun line => line ++ "\n")

/-- The manifest up to the first name. -/
def manifestHead : String := linesText ((manifestLines "").take 5) ++ "name = "

/-- The manifest from the first name to the second. -/
def manifestMiddle : String := "\n" ++ linesText (((manifestLines "").drop 6).take 10)

/-- The manifest from the second name on. -/
def manifestTail : String := " = \"main:main\"\n" ++ linesText ((manifestLines "").drop 17)

theorem linesText_append (lines more : List String) :
    linesText (lines ++ more) = linesText lines ++ linesText more := by
  rw [linesText, linesText, linesText, List.map_append, String.join_append]

theorem linesText_cons (line : String) (more : List String) :
    linesText (line :: more) = line ++ "\n" ++ linesText more := by
  rw [linesText, linesText, List.map_cons, String.join_cons]

/-- Two lines that hold a name between quotes, among others that do not. -/
theorem toList_linesText (before between after : List String) (name : String) :
    (linesText (before ++ ("name = \"" ++ name ++ "\"") ::
      (between ++ ("\"" ++ name ++ "\" = \"main:main\"") :: after))).toList
      = (linesText before ++ "name = ").toList ++ '"' :: (name.toList ++
        '"' :: (("\n" ++ linesText between).toList ++ '"' :: (name.toList ++
          '"' :: (" = \"main:main\"\n" ++ linesText after).toList))) := by
  rw [linesText_append, linesText_cons, linesText_append, linesText_cons]
  simp only [String.toList_append, List.append_assoc]
  rfl

/-- Only two lines of a manifest depend on the name. -/
theorem manifestLines_eq (name : String) :
    manifestLines name = (manifestLines "").take 5 ++ ("name = \"" ++ name ++ "\"") ::
      (((manifestLines "").drop 6).take 10 ++ ("\"" ++ name ++ "\" = \"main:main\"") ::
        (manifestLines "").drop 17) := rfl

theorem manifestText_eq (name : String) :
    (manifestText name).toList = manifestHead.toList ++ '"' :: (name.toList ++
      '"' :: (manifestMiddle.toList ++ '"' :: (name.toList ++ '"' :: manifestTail.toList))) :=
  (congrArg (fun lines => (linesText lines).toList) (manifestLines_eq name)).trans
    (toList_linesText _ _ _ name)

/-! ## Reading the names -/

/-- Reads a string that comes after a text. -/
def Manifest.readAfter (start : String) (cs : List Char) : Option (List Char × List Char) :=
  (cs.dropPrefix? start.toList).bind Manifest.readString

/-- The names that a text gives to a project and to its command, if it is a manifest with a string
at both places. -/
def namesOf? (manifest : String) : Option (List Char × List Char) :=
  (Manifest.readAfter manifestHead manifest.toList).bind fun project =>
    (Manifest.readAfter manifestMiddle project.2).bind fun command =>
      if command.2 = manifestTail.toList then some (project.1, command.1) else none

theorem Manifest.readAfter_append (start : String) (cs : List Char) :
    Manifest.readAfter start (start.toList ++ cs) = Manifest.readString cs := by
  have hdrop : (start.toList ++ cs).dropPrefix? start.toList = some cs :=
    List.dropPrefix?_eq_some_iff.2 ⟨start.toList, rfl, BEq.rfl⟩
  rw [readAfter, hdrop, Option.bind_some]

theorem namesOf?_of_standsForItself {name : String} (hne : name.toList ≠ [])
    (h : ∀ c ∈ name.toList, Manifest.standsForItself c = true) :
    namesOf? (manifestText name) = some (name.toList, name.toList) := by
  rw [namesOf?, manifestText_eq, Manifest.readAfter_append, Manifest.readString_quoted hne h,
    Option.bind_some, Manifest.readAfter_append, Manifest.readString_quoted hne h,
    Option.bind_some, if_pos rfl]

theorem namesOf?_of_lineFeed {name : String} {stem : List Char}
    (hname : name.toList = stem ++ ['\n']) (h : ∀ c ∈ stem, Manifest.standsForItself c = true) :
    namesOf? (manifestText name) = none := by
  rw [namesOf?, manifestText_eq, Manifest.readAfter_append, hname, List.append_assoc,
    List.singleton_append, Manifest.readString_lineFeed h, Option.bind_none]

/-- Nothing in the name of a project needs an escape. -/
theorem standsForItself_of_isProjectChar {c : Char} (h : Names.isProjectChar c = true) :
    Manifest.standsForItself c = true := by
  have hascii : ∀ n < 0x80, Names.isProjectChar (Char.ofNat n) = true →
      Manifest.standsForItself (Char.ofNat n) = true := by
    decide
  rcases Nat.lt_or_ge c.toNat 0x80 with hlt | hge
  · have hsettled := hascii c.toNat hlt
    rw [Char.ofNat_toNat] at hsettled
    exact hsettled h
  · have hne : ∀ d : Char, d.toNat < 0x80 → c ≠ d := by
      rintro d hd rfl
      omega
    have hspace : 0x20 ≤ c.toNat := by omega
    simp [Manifest.standsForItself, hne '"' (by decide), hne '\\' (by decide),
      hne '\x7f' (by decide), hspace]

/-- **The manifest of a project gives its name,** unless the name ends in a line feed; then it gives
none. -/
theorem namesOf?_manifestText {name : String} (h : Names.isProjectName name = true) :
    namesOf? (manifestText name)
      = if name.toList.getLast? = some '\n' then none else some (name.toList, name.toList) := by
  obtain ⟨hne, hchars⟩ := Names.stem_of_isProjectName h
  have hstands : ∀ c ∈ Names.withoutLineFeed name.toList, Manifest.standsForItself c = true :=
    fun c hc => standsForItself_of_isProjectChar (hchars c hc)
  rw [Names.withoutLineFeed] at hne hstands
  split
  · rename_i hlast
    rw [if_pos hlast] at hstands
    exact namesOf?_of_lineFeed (List.dropLast_append_getLast? _ hlast).symm hstands
  · rename_i hlast
    rw [if_neg hlast] at hne hstands
    exact namesOf?_of_standsForItself hne hstands

/-- **Which names are the names of projects, and how a manifest gives them.**  They are the names of
distributions, up to variants of letters and a line feed at the end.  What is generated for such a
name has it twice as a string of one line, if it does not end in a line feed; if it does, there is
no string at the place of the name. -/
theorem projectNames_read_back (name : String) :
    (Names.isProjectName name = true ↔
      Names.IsDistributionName ((Names.withoutLineFeed name.toList).map Names.asciiVariant)) ∧
    (Names.IsDistributionName name.toList ↔ Names.isProjectName name = true ∧
      name.toList.getLast? ≠ some '\n' ∧ ∀ c ∈ name.toList, c ∉ Names.variantLetters) ∧
    ∀ (document : Json.Value) (schema : Text) (a : Artifacts),
      (Artifacts.generate document name schema).result = .ok a →
        namesOf? a.manifest = if name.toList.getLast? = some '\n' then none
          else some (name.toList, name.toList) := by
  refine ⟨Names.isProjectName_iff name, Names.isDistributionName_iff name, ?_⟩
  intro document schema a h
  obtain ⟨-, hmanifest, hname⟩ := Artifacts.generate_eq_ok h
  rw [hmanifest, namesOf?_manifestText hname]

/-- A name that starts with a letter beyond ASCII, the sign of a unit. -/
def kelvinName : String := "\u212aelvin-2.0"

theorem projectNames_read_back_kelvinName :
    (Artifacts.generate (.object []) kelvinName "public").result
      = .ok ⟨kelvinName, manifestText kelvinName, (renderService [] "public").result, []⟩ ∧
    Names.isProjectName kelvinName = true ∧ ¬ Names.IsDistributionName kelvinName.toList ∧
    namesOf? (manifestText kelvinName) = some (kelvinName.toList, kelvinName.toList) := by
  obtain ⟨-, hdistribution, hmanifest⟩ := projectNames_read_back kelvinName
  have haccepted : Names.isProjectName kelvinName = true := by decide
  have hlast : ¬ kelvinName.toList.getLast? = some '\n' := by decide
  have hgenerated : (Artifacts.generate (.object []) kelvinName "public").result
      = .ok ⟨kelvinName, manifestText kelvinName, (renderService [] "public").result, []⟩ := by
    rw [Artifacts.generate, if_pos haccepted]
    rfl
  have hread := hmanifest _ _ _ hgenerated
  rw [if_neg hlast] at hread
  refine ⟨hgenerated, haccepted, fun h => ?_, hread⟩
  exact (hdistribution.1 h).2.2 '\u212a' (by decide) (by decide)

/-- A name with a line feed at the end is accepted, although it is not the name of a distribution
and the manifest breaks off in it. -/
theorem lineFeed_not_read_back :
    Names.isProjectName "demo\n" = true ∧ ¬ Names.IsDistributionName "demo\n".toList ∧
    namesOf? (manifestText "demo\n") = none ∧
    ¬ ∀ name : String, Names.isProjectName name = true ↔ Names.IsDistributionName name.toList := by
  have haccepted : Names.isProjectName "demo\n" = true := by decide
  have hdistribution : ¬ Names.IsDistributionName "demo\n".toList := fun h =>
    h.plain.1 (by decide)
  have hnone := (namesOf?_manifestText haccepted).trans (if_pos (by decide))
  refine ⟨haccepted, hdistribution, hnone, ?_⟩
  exact fun hall => hdistribution ((hall "demo\n").1 haccepted)

end EntityService
