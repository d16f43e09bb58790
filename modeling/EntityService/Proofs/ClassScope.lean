import EntityService.Proofs.AttributeSearch
import EntityService.Proofs.HandlerScope
import EntityService.Proofs.MemberLookup
import Mathlib.Data.List.TakeWhile

/-!
# The names in the body of a class

The lines of a model run one after the other, and an attribute with an alias is set to what `Field`
gives.  From then on the attribute's own name stands before the same name outside of the class.  If
this name is `Field`, then the next attribute with an alias does not get what was imported, and the
program cannot even be loaded.

An attribute is called `Field` by the property `Field`, which needs no alias and does no harm, or by
another one that comes down to this name, such as `_Field`.  The first of these takes the name,
unless the property `Field` is there and keeps it.

## What is here

* `classBody`, `classLocals`, `CallsOutside` — reading the body of a class: the names that a line
  binds, and whether each call gets what stands outside of the class.
* `names_memberLine`, `callsOutside_iff` — what the lines bind and call.
* `pairwise_assign_iff` — which attribute is given a name, told from the properties.
* `baseAttribute_eq_field_iff` — the properties that come down to the name of the helper.
* `Entity.SparesHelper`, `helper_calls_iff` — the main statement.
* `helperEntity_captures` — an entity whose model cannot be loaded.
-/

set_option autoImplicit false

namespace EntityService

open EntityService.Names EntityService.Text

namespace Source

/-! ## Reading the body of a class -/

/-- The body of the class of a resource: the lines after its header. -/
def classBody (r : Resource) : List Line := (modelLines r).drop 2

/-- The names that a line of a class binds for the lines after it.  A declaration binds its name if
it comes with a value. -/
def classLocals : List Token → List String
  | .word name :: .mark ':' :: rest => if Token.mark '=' ∈ rest then [name] else []
  | line => assigned line

/-- Each call in the body of a class gets what stands outside of the class: no line before it binds
a name that has the same normal form. -/
def CallsOutside (normal : String → String) (body : List Line) : Prop :=
  body.Pairwise fun earlier later =>
    ∀ name ∈ lineCalls later, ∀ bound ∈ classLocals earlier.tokens, normal bound ≠ normal name

/-! ## The line of an attribute -/

theorem isUnquoted_append {cs ds : List Char} (hcs : IsUnquoted cs) (hds : IsUnquoted ds) :
    IsUnquoted (cs ++ ds) :=
  List.forall_mem_append.2 ⟨hcs, hds⟩

theorem isUnquoted_name {name : String} (h : IsName name) : IsUnquoted name.toList := by
  intro c hc
  have hmarks : c ∉ ['\'', '"'] := h.not_mem (by decide) hc
  simpa using hmarks

/-- Whether a text is closed is a matter of its end. -/
theorem isClosed_append {cs ds : List Char} (hcs : IsUnquoted cs) (hds : IsClosed ds)
    (hne : ds ≠ []) : IsClosed (cs ++ ds) := by
  refine ⟨isUnquoted_append hcs hds.1, ?_⟩
  obtain ⟨c, hc⟩ := Option.ne_none_iff_exists'.1 (mt List.getLast?_eq_none_iff.1 hne)
  rw [List.getLast?_append, hc, Option.some_or, ← hc]
  exact hds.2

/-- An attribute is declared with its type. -/
theorem lex_declaration {m : Member} (h : IsName m.name) {rest : List Char} (hrest : EndsName rest) :
    lex [] 0 (("    " ++ m.name ++ ": " ++ m.scalar.annotation).toList ++ rest)
      = .word m.name :: .mark ':' :: (Text.tokens m.scalar.annotation ++ lex [] 0 rest) := by
  simp only [String.toList_append, List.append_assoc]
  rw [lex_text_name _ (by decide) h (endsName_of_head (c := ':') rfl rfl),
    lex_text ": " (by decide), lex_append (isUnquoted_type _) hrest]
  rfl

theorem tokens_memberLine_plain {m : Member} (h : IsName m.name) (halias : m.alias? = none) :
    (memberLine m).tokens = .word m.name :: .mark ':' :: Text.tokens m.scalar.annotation := by
  have hline : memberLine m = Line.code ("    " ++ m.name ++ ": " ++ m.scalar.annotation) := by
    simp only [memberLine, halias]
  have hends : EndsName [] := by simp [EndsName]
  have hlex := lex_declaration h hends
  rw [List.append_nil, lex_nil] at hlex
  rw [hline, tokens_code, hlex]
  simp [ended]

theorem tokens_memberLine_alias {m : Member} (h : IsName m.name) {column : Text}
    (halias : m.alias? = some column) :
    ∃ content, (memberLine m).tokens = .word m.name :: .mark ':' ::
      (Text.tokens m.scalar.annotation ++ (Text.tokens " = Field(alias="
        ++ .literal content :: Text.tokens ")")) := by
  have hline : memberLine m = [.code ("    " ++ m.name ++ ": " ++ m.scalar.annotation
      ++ " = Field(alias="), .literal column, .code ")"] := by
    simp only [memberLine, halias]
  have hopen : IsUnquoted ("    " ++ m.name ++ ": " ++ m.scalar.annotation).toList := by
    simp only [String.toList_append]
    exact isUnquoted_append (isUnquoted_append (isUnquoted_append (by decide) (isUnquoted_name h))
      (by decide)) (isUnquoted_type _)
  have hclosed : IsClosed ("    " ++ m.name ++ ": " ++ m.scalar.annotation
      ++ " = Field(alias=").toList := by
    rw [String.toList_append]
    exact isClosed_append hopen (by decide) (by decide)
  obtain ⟨content, htokens⟩ := tokens_quoted _ ")" hclosed ⟨')', by decide, rfl⟩ column
  refine ⟨content, ?_⟩
  rw [hline, htokens, Text.tokens, String.toList_append,
    lex_declaration h (endsName_of_head (c := ' ') rfl rfl)]
  simp only [List.cons_append, List.append_assoc]
  rfl

/-- **The line of an attribute.**  It binds the attribute and calls the helper if the attribute has
an alias, and else it does neither. -/
theorem names_memberLine {m : Member} (h : IsName m.name) :
    classLocals (memberLine m).tokens = (if m.alias?.isSome then [m.name] else []) ∧
      lineCalls (memberLine m) = if m.alias?.isSome then ["Field"] else [] := by
  rw [lineCalls]
  cases halias : m.alias? with
  | none =>
    rw [tokens_memberLine_plain h halias]
    cases m.scalar <;> exact ⟨rfl, rfl⟩
  | some column =>
    obtain ⟨content, htokens⟩ := tokens_memberLine_alias h halias
    rw [htokens]
    cases m.scalar <;> exact ⟨rfl, rfl⟩

/-! ## The whole body -/

/-- The line that configures a model. -/
def configLine : Line := Line.code "    model_config = ConfigDict(populate_by_name=True)"

theorem names_configLine :
    classLocals configLine.tokens = ["model_config"] ∧ lineCalls configLine = ["ConfigDict"] := by
  have htokens : configLine.tokens
      = Text.tokens "    model_config = ConfigDict(populate_by_name=True)" := tokens_code _
  rw [lineCalls, htokens]
  exact ⟨rfl, rfl⟩

theorem mem_gap {e : Entity} {line : Line}
    (h : line ∈ if e.fields = [] then [] else [Line.blank]) : line = Line.blank := by
  split at h
  · cases h
  · exact List.mem_singleton.1 h

/-- Each attribute with an alias calls the helper. -/
theorem calls_memberLines {members : List Member} (h : ∀ m ∈ members, IsName m.name) :
    (members.map memberLine).flatMap lineCalls
      = (members.filter (·.alias?.isSome)).map fun _ => "Field" := by
  induction members with
  | nil => rfl
  | cons m rest ih =>
    rw [List.forall_mem_cons] at h
    rw [List.map_cons, List.flatMap_cons, (names_memberLine h.1).2, ih h.2, List.filter_cons]
    split <;> rfl

variable {e : Entity} (schema : Text)

theorem classBody_eq : classBody (e.resource schema) = configLine ::
    ((if e.fields = [] then [] else [Line.blank]) ++ e.members.map memberLine) := rfl

/-- The calls in the body of a class: one for the configuration of the model, and one for each
attribute with an alias. -/
theorem calls_classBody : (classBody (e.resource schema)).flatMap lineCalls
    = "ConfigDict" :: (e.members.filter (·.alias?.isSome)).map fun _ => "Field" := by
  have hgap : (if e.fields = [] then [] else [Line.blank]).flatMap lineCalls = [] := by
    split <;> rfl
  have hnames : ∀ m ∈ e.members, IsName m.name := fun m hm => e.isName_member hm
  rw [classBody_eq, List.flatMap_cons, names_configLine.2, List.flatMap_append, hgap,
    calls_memberLines hnames]
  rfl

/-- **When all calls get what stands outside**: if no attribute with an alias has the name of the
helper and stands before another attribute with an alias. -/
theorem callsOutside_iff {normal : String → String}
    (hnormal : ∀ name : String, (∀ c ∈ name.toList, c.toNat < 0x80) → normal name = name) :
    CallsOutside normal (classBody (e.resource schema)) ↔ e.members.Pairwise fun m m' =>
      m.alias?.isSome → m'.alias?.isSome → normal m.name ≠ "Field" := by
  have hhelper : normal "Field" = "Field" := hnormal _ (by decide)
  have hconfig : normal "model_config" = "model_config" := hnormal _ (by decide)
  have hcalls : ∀ m ∈ e.members, ∀ name ∈ lineCalls (memberLine m), name = "Field" := by
    intro m hm name hname
    rw [(names_memberLine (e.isName_member hm)).2] at hname
    split at hname
    · exact List.mem_singleton.1 hname
    · cases hname
  have hpair : ∀ m ∈ e.members, ∀ m' ∈ e.members,
      ((∀ name ∈ lineCalls (memberLine m'), ∀ bound ∈ classLocals (memberLine m).tokens,
        normal bound ≠ normal name) ↔
        (m.alias?.isSome → m'.alias?.isSome → normal m.name ≠ "Field")) := by
    intro m hm m' hm'
    rw [(names_memberLine (e.isName_member hm)).1, (names_memberLine (e.isName_member hm')).2]
    cases m.alias?.isSome <;> cases m'.alias?.isSome <;> simp [hhelper]
  rw [CallsOutside, classBody_eq, List.pairwise_cons, List.pairwise_append, List.pairwise_map]
  constructor
  · rintro ⟨-, -, hmembers, -⟩
    exact hmembers.imp_of_mem fun hm hm' h => (hpair _ hm _ hm').1 h
  · intro hmembers
    refine ⟨?_, ?_, hmembers.imp_of_mem fun hm hm' h => (hpair _ hm _ hm').2 h, ?_⟩
    -- The configuration binds a name of its own, and a blank line binds and calls nothing.
    · intro line hline name hname bound hbound
      rw [names_configLine.1, List.mem_singleton] at hbound
      rcases List.mem_append.1 hline with hgap | hmember
      · rw [mem_gap hgap] at hname
        cases hname
      · obtain ⟨m, hm, rfl⟩ := List.mem_map.1 hmember
        rw [hbound, hcalls m hm name hname, hconfig, hhelper]
        decide
    · split
      · exact .nil
      · exact List.pairwise_singleton _ _
    · intro line hgap line' _ name _ bound hbound
      rw [mem_gap hgap] at hbound
      cases hbound

end Source

namespace Names

/-! ## Who is given a name -/

/-- What holds of all properties of a run. -/
theorem forall_mem_zip_assign (P : Text → Prop) (taken : List String) (properties : List Text) :
    (∀ p ∈ properties.zip (assign taken properties), P p.1) ↔ ∀ p ∈ properties, P p := by
  have hfst : (properties.zip (assign taken properties)).map Prod.fst = properties :=
    List.map_fst_zip (Nat.le_of_eq (length_assign taken properties).symm)
  rw [← List.forall_mem_map (P := P), hfst]

section Given

variable {name : String} (hname : name.toList.getLast? ≠ some '_')

include hname

/-- A name that ends in no underscore is reached without any. -/
theorem eq_of_underscored {base : String} {k : Nat} (h : underscored base k = name) :
    base = name := by
  cases k with
  | zero => rwa [underscored_zero] at h
  | succ k =>
    refine absurd ?_ hname
    rw [← h, toList_underscored, List.replicate_succ', ← List.append_assoc, List.getLast?_append]
    rfl

/-- Who comes down to a name gets it if it is free, and nobody else does. -/
theorem chosen_eq_iff {taken : List String} {property : Text} (hfree : name ∉ taken) :
    chosen taken property = name ↔ baseAttribute property = name := by
  obtain ⟨k, hk, hbelow⟩ := chosen_probed taken property
  constructor
  · intro h
    exact eq_of_underscored hname (hk.symm.trans h)
  · intro h
    cases k with
    | zero => rw [hk, underscored_zero, h]
    | succ k =>
      have htaken := hbelow 0 (Nat.succ_pos k)
      rw [underscored_zero, h] at htaken
      exact absurd htaken hfree

/-- **A name is given to the first property that comes down to it**, if it is free.  So it is given
to a property that is not fit, with another one like that behind it, unless the name is taken or all
properties behind the first one that comes down to it are fit. -/
theorem pairwise_assign_iff {taken : List String} {properties : List Text}
    (hkept : keptNames properties ⊆ taken) :
    ((properties.zip (assign taken properties)).Pairwise fun p q =>
      isKept p.1 = false → isKept q.1 = false → p.2 ≠ name) ↔
      name ∈ taken ∨ ∀ q ∈ (properties.dropWhile fun p => baseAttribute p ≠ name).tail,
        isKept q = true := by
  induction properties generalizing taken with
  | nil => simp
  | cons property rest ih =>
    have hrest : keptNames rest ⊆ chosen taken property :: taken :=
      List.subset_cons_of_subset _ (keptNames_subset_of_cons hkept)
    rw [assign_cons, List.zip_cons_cons, List.pairwise_cons, ih hrest, List.mem_cons]
    by_cases hfree : name ∈ taken
    · -- Only a property that is fit can have a name that is taken.
      refine iff_of_true ⟨fun q _ hproperty _ heq => ?_, .inl (.inr hfree)⟩ (.inl hfree)
      refine chosen_not_mem hproperty taken ?_
      rwa [show chosen taken property = name from heq]
    have hchosen : chosen taken property = name ↔ baseAttribute property = name :=
      chosen_eq_iff hname hfree
    by_cases hbase : baseAttribute property = name
    · have hunfit : isKept property = false := by
        rw [Bool.eq_false_iff]
        intro hfit
        refine hfree (hkept ?_)
        rw [← hbase]
        exact List.mem_map_of_mem (List.mem_filter.2 ⟨List.mem_cons_self, hfit⟩)
      have hgiven : chosen taken property = name := hchosen.2 hbase
      rw [List.dropWhile_cons_of_neg (by simpa using hbase), List.tail_cons,
        ← forall_mem_zip_assign (isKept · = true) (chosen taken property :: taken) rest]
      simp only [hunfit, hgiven, hfree, true_or, and_true, false_or, forall_const, ne_eq,
        not_true_eq_false, imp_false, Bool.not_eq_false]
    · have hother : chosen taken property ≠ name := mt hchosen.1 hbase
      rw [List.dropWhile_cons_of_pos (by simpa using hbase)]
      simp [hother, hother.symm, hfree]

end Given

/-! ## The properties that come down to a name -/

theorem wordChar_eq_iff {x : CodePoint} {c : Char} (hword : isWord c = true) (hc : c ≠ '_') :
    wordChar x = c ↔ x = .char c := by
  constructor
  · intro h
    cases x with
    | half index => exact absurd h.symm hc
    | char d =>
      rw [wordChar] at h
      split at h
      · rw [h]
      · exact absurd h.symm hc
  · rintro rfl
    rw [wordChar, if_pos hword]

theorem map_wordChar_eq_iff {property : Text} {cs : List Char}
    (h : ∀ c ∈ cs, isWord c = true ∧ c ≠ '_') :
    property.map wordChar = cs ↔ property = Text.ofChars cs := by
  induction cs generalizing property with
  | nil => rw [List.map_eq_nil_iff, Text.ofChars, List.map_nil]
  | cons c cs ih =>
    rw [List.forall_mem_cons] at h
    cases property with
    | nil => simp [Text.ofChars]
    | cons x rest =>
      rw [List.map_cons, Text.ofChars, List.map_cons, List.cons.injEq, List.cons.injEq,
        wordChar_eq_iff h.1.1 h.1.2, ih h.2, Text.ofChars]

/-- What is left of a property, if no underscore is: the end of it, behind characters that an
attribute does not start with. -/
theorem sanitize_eq_iff {property : Text} {cs : List Char}
    (h : ∀ c ∈ cs, isWord c = true ∧ c ≠ '_') :
    sanitize property = cs ↔
      ∃ front, property = front ++ Text.ofChars cs ∧ ∀ x ∈ front, wordChar x = '_' := by
  constructor
  · intro hcs
    rw [sanitize, List.dropWhile_map, map_wordChar_eq_iff h] at hcs
    refine ⟨property.takeWhile ((· == '_') ∘ wordChar), ?_, fun x hx => ?_⟩
    · rw [← hcs, List.takeWhile_append_dropWhile]
    · simpa using List.mem_takeWhile_imp hx
  · rintro ⟨front, rfl, hfront⟩
    have hlost : ∀ c ∈ front.map wordChar, (c == '_') = true := by
      simpa using hfront
    have hstays : cs.dropWhile (· == '_') = cs := by
      refine List.dropWhile_eq_self_iff.2 fun hpos => ?_
      simpa using (h _ (List.getElem_mem hpos)).2
    rw [sanitize, List.map_append, (map_wordChar_eq_iff h).2 rfl,
      List.dropWhile_append_of_pos hlost, hstays]

/-- The first step towards an attribute gives the name of the helper if nothing needs to be put
before it or behind it. -/
theorem baseAttribute_eq_field_iff (property : Text) : baseAttribute property = "Field" ↔
    ∃ front, property = front ++ Text.ofString "Field" ∧ ∀ x ∈ front, wordChar x = '_' := by
  rw [Text.ofString, ← sanitize_eq_iff (by decide +kernel), baseAttribute, ← String.toList_inj,
    String.toList_ofList, withUnderscore_eq]
  have hlast : ("Field".toList).getLast? ≠ some '_' := by decide
  constructor
  · intro h
    cases hreserved : isModelReserved (withLetter (sanitize property)) with
    | true =>
      rw [hreserved, if_pos rfl] at h
      refine absurd ?_ hlast
      rw [← h, List.getLast?_append]
      rfl
    | false =>
      rw [hreserved, if_neg Bool.false_ne_true, List.replicate_zero, List.append_nil] at h
      -- What `f_` is put before does not start like the helper.
      cases hcs : sanitize property with
      | nil =>
        rw [hcs] at h
        exact absurd h (by decide)
      | cons c rest =>
        rw [hcs, withLetter] at h
        split at h
        · exact absurd (List.cons.inj h).1 (by decide)
        · exact h
  · intro h
    rw [h]
    decide +kernel

/-- The names that properties keep are those that are fit. -/
theorem mem_keptNames_iff {name : String} {properties : List Text} :
    name ∈ keptNames properties ↔
      isKept (.ofString name) = true ∧ Text.ofString name ∈ properties := by
  rw [keptNames, List.mem_map]
  constructor
  · rintro ⟨property, hproperty, rfl⟩
    obtain ⟨hmem, hfit⟩ := List.mem_filter.1 hproperty
    rw [← eq_ofString_of_isKept hfit]
    exact ⟨hfit, hmem⟩
  · rintro ⟨hfit, hmem⟩
    refine ⟨_, List.mem_filter.2 ⟨hmem, hfit⟩, ?_⟩
    exact (Text.ofString_inj.1 (eq_ofString_of_isKept hfit)).symm

end Names

namespace Entity

open EntityService.Source

variable (e : Entity)

/-- An attribute has an alias if its property is not fit as it is. -/
theorem alias?_isSome_iff {e : Entity} {m : Member} (hm : m ∈ e.members) :
    m.alias?.isSome = true ↔ isKept m.column = false := by
  have hpair := mem_namedProperties hm
  obtain ⟨k, hk, -⟩ := attributeNames_probed hpair
  have hname : m.name = underscored (baseAttribute m.column) k := hk
  have hstep : isKept m.column = true → k = 0 := by
    intro hfit
    have hbase : m.name = baseAttribute m.column := attribute_kept hpair hfit
    rw [hname] at hbase
    exact underscored_right_inj.1 (hbase.trans (underscored_zero _).symm)
  have hkept : m.column = .ofString m.name ↔ isKept m.column = true := by
    rw [isKept, beq_iff_eq, eq_comm, hname, attribute_eq_iff hstep, eq_comm]
  rw [Bool.eq_false_iff, Ne, ← hkept, Member.alias?]
  by_cases hcolumn : m.column = .ofString m.name
  · rw [if_pos hcolumn]
    exact iff_of_false (by simp) (not_not.2 hcolumn)
  · rw [if_neg hcolumn]
    exact iff_of_true rfl hcolumn

/-- An entity spares the helper: one of its properties is called like it, or all properties are fit
that stand behind the first one that comes down to its name. -/
def SparesHelper : Prop :=
  Text.ofString "Field" ∈ e.columns ∨
    ∀ q ∈ (e.columns.dropWhile fun p => baseAttribute p ≠ "Field").tail, isKept q = true

/-- Whether an attribute with an alias is called like the helper before another one, told from the
properties. -/
theorem pairwise_members_iff : (e.members.Pairwise fun m m' =>
    m.alias?.isSome → m'.alias?.isSome → m.name ≠ "Field") ↔ e.SparesHelper := by
  have hpairs : (e.members.Pairwise fun m m' =>
      m.alias?.isSome → m'.alias?.isSome → m.name ≠ "Field") ↔
      (namedProperties e.columns).Pairwise fun p q =>
        isKept p.1 = false → isKept q.1 = false → p.2 ≠ "Field" := by
    rw [namedProperties_columns, List.pairwise_map]
    exact List.Pairwise.iff_of_mem fun hm hm' => by
      rw [alias?_isSome_iff hm, alias?_isSome_iff hm']
  have hfit : isKept (.ofString "Field") = true := by decide +kernel
  rw [hpairs, namedProperties, attributeNames,
    pairwise_assign_iff (by decide) (List.Subset.refl _), mem_keptNames_iff, hfit, SparesHelper]
  simp only [true_and]

/-- **Which calls get the helper.**  It is imported at the top of the program, and the body of a
class calls it for each attribute with an alias.  All of these calls get what was imported if and
only if no attribute with an alias has its name, in normal form, and stands before another attribute
with an alias.  An attribute of this very name comes from a property that has other characters in
front of it, and stands before another attribute with an alias unless the entity spares the helper.
How names are brought to normal form is left open, but for names in ASCII, which are in normal
form. -/
theorem helper_calls_iff (schema : Text) {normal : String → String}
    (hnormal : ∀ name : String, (∀ c ∈ name.toList, c.toNat < 0x80) → normal name = name) :
    "Field" ∈ (preamble.map Line.code).flatMap Line.bindings ∧
    (classBody (e.resource schema)).flatMap lineCalls
      = "ConfigDict" :: (e.members.filter (·.alias?.isSome)).map (fun _ => "Field") ∧
    (CallsOutside normal (classBody (e.resource schema)) ↔ e.members.Pairwise fun m m' =>
      m.alias?.isSome → m'.alias?.isSome → normal m.name ≠ "Field") ∧
    ((e.members.Pairwise fun m m' =>
      m.alias?.isSome → m'.alias?.isSome → m.name ≠ "Field") ↔ e.SparesHelper) ∧
    ∀ property, baseAttribute property = "Field" ↔
      ∃ front, property = front ++ Text.ofString "Field" ∧ ∀ x ∈ front, wordChar x = '_' :=
  ⟨by decide +kernel, calls_classBody schema, callsOutside_iff schema hnormal,
    e.pairwise_members_iff, baseAttribute_eq_field_iff⟩

instance : Decidable e.SparesHelper := inferInstanceAs (Decidable (_ ∨ _))

/-- An entity that does not spare the helper: its first attribute takes the name, and its second one
calls it. -/
def helperEntity : Entity := .ofProperties "Doc" [("_Field", .string), ("_id", .i64)]

/-- An entity with a property that keeps the name of the helper. -/
def keptHelperEntity : Entity :=
  .ofProperties "Doc" [("_Field", .string), ("Field", .string), ("_id", .i64)]

theorem helper_calls_helperEntity :
    (∀ name : String, (∀ c ∈ name.toList, c.toNat < 0x80) → id name = name) ∧
    ¬ CallsOutside id (classBody (helperEntity.resource "public")) ∧
    CallsOutside id (classBody (keptHelperEntity.resource "public")) := by
  have hid : ∀ name : String, (∀ c ∈ name.toList, c.toNat < 0x80) → id name = name :=
    fun _ _ => rfl
  obtain ⟨-, -, houtside, hspares, -⟩ := helper_calls_iff helperEntity "public" hid
  obtain ⟨-, -, houtside', hspares', -⟩ := helper_calls_iff keptHelperEntity "public" hid
  exact ⟨hid, fun h => absurd (hspares.1 (houtside.1 h)) (by decide +kernel),
    houtside'.2 (hspares'.2 (by decide +kernel))⟩

/-- It is not so that all calls in the body of a class get what was imported, even if the properties
have different names: of the two attributes of this entity, which both have an alias, the first is
called like the helper that the second one calls. -/
theorem helperEntity_captures :
    helperEntity.columns.Nodup ∧
    helperEntity.members = [⟨"_Field", "Field", .string, 0⟩, ⟨"_id", "id", .i64, 1⟩] ∧
    (classBody (helperEntity.resource "public")).map Line.text
      = ["    model_config = ConfigDict(populate_by_name=True)", "",
        "    Field: str = Field(alias='_Field')", "    id: int = Field(alias='_id')"] ∧
    ¬ ∀ e : Entity, e.columns.Nodup → CallsOutside id (classBody (e.resource "public")) := by
  have hnodup : helperEntity.columns.Nodup := by decide +kernel
  refine ⟨hnodup, by decide +kernel, by decide +kernel, fun hall => ?_⟩
  have hpairs := (callsOutside_iff "public" fun _ _ => rfl).1 (hall helperEntity hnodup)
  exact absurd (helperEntity.pairwise_members_iff.1 hpairs) (by decide +kernel)

end Entity

end EntityService
