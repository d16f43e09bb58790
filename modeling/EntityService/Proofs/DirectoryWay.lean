import EntityService.Proofs.FileEffects
import Mathlib.Data.List.Induction

/-!
# Directories that can be made

Operations succeed where nothing is in the way: below a directory that is there, making a chain of
directories ends with all of them there, whichever of them were there before, and a file can be
written into the last one.

Making a chain starts at its last directory and goes up until one can be made.  So the induction is
on the chain from its last name, and each step has two cases: the directories above are all there,
or one of them is missing.

## What is here

* `IsEntryName` — a name that an entry of a directory can have.
* `FileTree.OnWay` — the places on the way from a place down through names.
* `FileTree.follow_or_missing` — a way down is there as a whole, or a directory on it is missing.
* `FileTree.Clear`, `FileTree.Clear.makeDirectories` — a chain that nothing is in the way of, and
  what making it leaves.
* `FileTree.write_of_directories`, `FileTree.read_of_directories` — writing and reading a file at
  the end of a chain.
-/

set_option autoImplicit false

namespace EntityService

open EntityService.Files

/-- A name that an entry of a directory can have. -/
structure IsEntryName (name : String) : Prop extends IsPlainName name where
  ne_up : name ≠ ".."
  short : name.utf8ByteSize ≤ maxName

namespace FileTree

variable {t made : FileTree} {here parent place : Place} {root : Root}
  {existing names upper : List String} {name : String}

/-! ## Ways down -/

/-- The places on the way from a place down through names, with both ends. -/
def OnWay (parent : Place) (names : List String) (place : Place) : Prop :=
  parent <+: place ∧ place <+: parent ++ names

instance (parent : Place) (names : List String) (place : Place) :
    Decidable (OnWay parent names place) :=
  inferInstanceAs (Decidable (_ ∧ _))

theorem onWay_iff :
    OnWay parent names place ↔ ∃ below, below <+: names ∧ place = parent ++ below := by
  constructor
  · rintro ⟨⟨below, rfl⟩, hbelow⟩
    exact ⟨below, (List.prefix_append_right_inj parent).1 hbelow, rfl⟩
  · rintro ⟨below, hbelow, rfl⟩
    exact ⟨List.prefix_append _ _, (List.prefix_append_right_inj parent).2 hbelow⟩

theorem onWay_self : OnWay parent names parent := ⟨List.prefix_refl _, List.prefix_append _ _⟩

theorem onWay_nil : OnWay parent [] place ↔ place = parent := by
  rw [onWay_iff]
  constructor
  · rintro ⟨below, hbelow, rfl⟩
    rw [List.prefix_nil.1 hbelow, List.append_nil]
  · rintro rfl
    exact ⟨[], List.nil_prefix, (List.append_nil _).symm⟩

theorem onWay_cons :
    OnWay parent (name :: names) place ↔ place = parent ∨ OnWay (parent ++ [name]) names place := by
  simp only [onWay_iff]
  constructor
  · rintro ⟨below, hbelow, rfl⟩
    cases below with
    | nil => exact .inl (List.append_nil _)
    | cons first rest =>
      obtain ⟨rfl, hrest⟩ := List.cons_prefix_cons.1 hbelow
      exact .inr ⟨rest, hrest, by rw [List.append_assoc]; rfl⟩
  · rintro (rfl | ⟨below, hbelow, rfl⟩)
    · exact ⟨[], List.nil_prefix, (List.append_nil _).symm⟩
    · exact ⟨name :: below, (List.prefix_cons_inj name).2 hbelow, by rw [List.append_assoc]; rfl⟩

theorem onWay_concat :
    OnWay parent (upper ++ [name]) place ↔
      OnWay parent upper place ∨ place = parent ++ (upper ++ [name]) := by
  simp only [onWay_iff, List.prefix_concat_iff, or_and_right, exists_or]
  rw [or_comm]
  simp

/-- **A way down is followed to its end** if there are directories all the way. -/
theorem follow_of_directories (hnames : ∀ name ∈ names, IsEntryName name)
    (h : ∀ place, OnWay parent names place → t.node? place = some .directory) :
    t.follow parent names = .ok (parent ++ names) := by
  induction names generalizing parent with
  | nil => rw [List.append_nil, follow]
  | cons name names ih =>
    obtain ⟨hname, hnames⟩ := List.forall_mem_cons.1 hnames
    have hparent : t.node? parent = some .directory := h _ (onWay_cons.2 (.inl rfl))
    have hnext : t.node? (parent ++ [name]) = some .directory :=
      h _ (onWay_cons.2 (.inr onWay_self))
    have hstep : t.step parent name = .ok (parent ++ [name]) := by
      rw [step_down hparent hname.toIsPlainName hname.ne_up hname.short, hnext]
      rfl
    rw [follow, hstep]
    simp only
    rw [ih hnames fun place hplace => h place (onWay_cons.2 (.inr hplace)), List.append_assoc]
    rfl

/-- **A way down without files on it** is there as a whole, or a directory on it is missing. -/
theorem follow_or_missing (hnames : ∀ name ∈ names, IsEntryName name)
    (hparent : t.node? parent = some .directory)
    (hfile : ∀ place content, OnWay parent names place → t.node? place ≠ some (.file content)) :
    (∀ place, OnWay parent names place → t.node? place = some .directory) ∨
      t.follow parent names = .error .noEntry := by
  induction names generalizing parent with
  | nil =>
    refine .inl fun place hplace => ?_
    rw [onWay_nil.1 hplace, hparent]
  | cons name names ih =>
    obtain ⟨hname, hnames⟩ := List.forall_mem_cons.1 hnames
    have hdown := step_down hparent hname.toIsPlainName hname.ne_up hname.short
    cases hnode : t.node? (parent ++ [name]) with
    | none =>
      rw [hnode] at hdown
      refine .inr ?_
      rw [follow, hdown]
      rfl
    | some node =>
      cases node with
      | file content => exact absurd hnode (hfile _ _ (onWay_cons.2 (.inr onWay_self)))
      | directory =>
        rw [hnode] at hdown
        rcases ih hnames hnode fun place content hplace =>
          hfile place content (onWay_cons.2 (.inr hplace)) with hall | hmissing
        · refine .inl fun place hplace => ?_
          rcases onWay_cons.1 hplace with rfl | hplace
          · exact hparent
          · exact hall place hplace
        · refine .inr ?_
          rw [follow, hdown]
          exact hmissing

/-- **A file or directory can be put below a chain of directories** that are all there. -/
theorem opens_of_directories (hleads : t.Leads here ⟨root, existing⟩ parent)
    (hnames : ∀ other ∈ upper ++ [name], IsEntryName other)
    (hall : ∀ place, OnWay parent upper place → t.node? place = some .directory)
    (hfault : pathFault? (Path.text ⟨root, existing ++ (upper ++ [name])⟩) = none) :
    t.Opens here root (existing ++ upper) (parent ++ upper) name := by
  have hname := hnames name (by simp)
  refine ⟨by rwa [List.append_assoc], ?_, ?_, hname.ne_up, hname.short⟩
  · rw [Leads, follow_append, show t.follow (start here root) existing = .ok parent from hleads]
    exact follow_of_directories (List.forall_mem_append.1 hnames).1 hall
  · exact hall _ (onWay_iff.2 ⟨upper, List.prefix_refl _, rfl⟩)

/-! ## Chains of directories -/

/-- A path that leads to a directory needs nothing made. -/
theorem ensureDirectory_of_directory {p : Path} (hplain : p.IsPlain)
    (hfault : pathFault? p.text = none) (hstart : t.node? (start here p.root) = some .directory)
    (h : t.Leads here p place) (hplace : t.node? place = some .directory) :
    t.ensureDirectory here p = .ok t := by
  have hlook := look_of_leads hplain hfault hstart h hplace
  rw [ensureDirectory]
  cases hmake : t.makeDirectory here p with
  | error cause => simp only [hlook]
  | ok made =>
    -- Nothing can be made, because the place that the path leads to is taken.
    obtain ⟨upper, dir, name, hp, hopens, hnone, -⟩ := makeDirectory_eq_ok_iff.1 hmake
    rw [hp] at h
    obtain ⟨dir', hdir', hstep⟩ := follow_concat_eq_ok_iff.1 h
    rw [← hopens.leads.unique hdir'] at hstep
    have hname : IsPlainName name := hplain name (by rw [hp]; simp)
    rw [step_down hopens.directory hname hopens.ne_up hopens.short, hnone] at hstep
    cases hstep

/-- A chain of directories that can be made: it begins below a directory that a path leads to, and
no file is in its way. -/
structure Clear (t : FileTree) (here : Place) (root : Root) (existing : List String)
    (parent : Place) (names : List String) : Prop where
  leads : t.Leads here ⟨root, existing⟩ parent
  directory : t.node? parent = some .directory
  plain : Path.IsPlain ⟨root, existing⟩
  entries : ∀ name ∈ names, IsEntryName name
  fault : pathFault? (Path.text ⟨root, existing ++ names⟩) = none
  noFile : ∀ place content, OnWay parent names place → t.node? place ≠ some (.file content)

namespace Clear

theorem init (h : t.Clear here root existing parent (upper ++ [name])) :
    t.Clear here root existing parent upper where
  leads := h.leads
  directory := h.directory
  plain := h.plain
  entries := fun other hother => h.entries other (List.mem_append_left _ hother)
  fault := by
    have hfault := h.fault
    rw [← List.append_assoc] at hfault
    exact pathFault?_of_append hfault
  noFile := fun place content hplace => h.noFile place content (onWay_concat.2 (.inl hplace))

theorem isPlain (h : t.Clear here root existing parent names) :
    Path.IsPlain ⟨root, existing ++ names⟩ :=
  List.forall_mem_append.2 ⟨h.plain, fun name hname => (h.entries name hname).toIsPlainName⟩

theorem start_directory (h : t.Clear here root existing parent names) :
    t.node? (start here root) = some .directory := by
  by_cases hexisting : existing = []
  · subst hexisting
    have hparent : start here root = parent := Except.ok.inj h.leads
    rw [hparent, h.directory]
  · exact Leads.start_directory h.leads hexisting

theorem follow_eq (h : t.Clear here root existing parent names) (more : List String) :
    t.follow (start here root) (existing ++ more) = t.follow parent more := by
  rw [follow_append, show t.follow (start here root) existing = .ok parent from h.leads]
  rfl

/-- **The last directory of a chain,** where those above are there. -/
theorem ensureDirectory_last (h : t.Clear here root existing parent (upper ++ [name]))
    (hupper : ∀ place, OnWay parent upper place → t.node? place = some .directory) :
    ∃ made, t.ensureDirectory here ⟨root, existing ++ (upper ++ [name])⟩ = .ok made ∧
      ∀ place, made.node? place
        = if place = parent ++ (upper ++ [name]) then some .directory else t.node? place := by
  have hplace : parent ++ (upper ++ [name]) = parent ++ upper ++ [name] :=
    (List.append_assoc _ _ _).symm
  have hnames : existing ++ (upper ++ [name]) = existing ++ upper ++ [name] :=
    (List.append_assoc _ _ _).symm
  have hopens := opens_of_directories h.leads h.entries hupper h.fault
  cases hnode : t.node? (parent ++ (upper ++ [name])) with
  | none =>
    have hmake : t.makeDirectory here ⟨root, existing ++ (upper ++ [name])⟩
        = .ok (t.put (parent ++ upper ++ [name]) .directory) :=
      makeDirectory_eq_ok_iff.2 ⟨_, _, name, by rw [hnames], hopens, by rw [← hplace, hnode], rfl⟩
    refine ⟨_, by rw [ensureDirectory, hmake], fun place => ?_⟩
    rw [node?_put t (List.concat_ne_nil _ _), hplace]
  | some node =>
    cases node with
    | file content =>
      exact absurd hnode (h.noFile _ _ (onWay_concat.2 (.inr rfl)))
    | directory =>
      have hleads : t.Leads here ⟨root, existing ++ (upper ++ [name])⟩
          (parent ++ (upper ++ [name])) := by
        rw [Leads, h.follow_eq]
        refine follow_of_directories h.entries fun other hother => ?_
        rcases onWay_concat.1 hother with hother | rfl
        · exact hupper other hother
        · exact hnode
      refine ⟨t, ensureDirectory_of_directory h.isPlain h.fault h.start_directory hleads hnode,
        fun place => ?_⟩
      split
      · rename_i heq
        rw [heq, hnode]
      · rfl

/-- **The last directory of a chain,** where one of those above is missing. -/
theorem ensureDirectory_missing (h : t.Clear here root existing parent (upper ++ [name]))
    (hupper : t.follow parent upper = .error .noEntry) :
    t.ensureDirectory here ⟨root, existing ++ (upper ++ [name])⟩
      = .error ⟨.noEntry, Path.text ⟨root, existing ++ (upper ++ [name])⟩⟩ := by
  have hfollow : t.follow (start here root) (existing ++ (upper ++ [name])) = .error .noEntry := by
    rw [h.follow_eq, follow_append, hupper]
    rfl
  have hlook := look_of_error h.isPlain h.fault h.start_directory hfollow
  have htarget : t.target here ⟨root, existing ++ (upper ++ [name])⟩ = .error .noEntry := by
    rw [target, h.fault]
    simp only [← List.append_assoc, List.getLast?_concat, List.dropLast_concat]
    rw [h.follow_eq, hupper]
  rw [ensureDirectory, makeDirectory, htarget]
  simp only [hlook]

/-- Making a chain takes nothing away. -/
theorem keeps (h : t.Clear here root existing parent names)
    (hmade : ∀ place, made.node? place
      = if OnWay parent names place then some .directory else t.node? place) : t.Keeps made := by
  intro place node hnode
  rw [hmade]
  split
  · rename_i hplace
    cases node with
    | directory => exact ⟨_, rfl, Iff.rfl⟩
    | file content => exact absurd hnode (h.noFile place content hplace)
  · exact ⟨node, hnode, Iff.rfl⟩

/-- The rest of a chain can still be made after its beginning. -/
theorem after_making (h : t.Clear here root existing parent (upper ++ [name]))
    (hmade : ∀ place, made.node? place
      = if OnWay parent upper place then some .directory else t.node? place) :
    made.Clear here root existing parent (upper ++ [name]) := by
  have hkeeps := h.init.keeps hmade
  refine ⟨hkeeps.leads h.leads, hkeeps.directory h.directory, h.plain, h.entries, h.fault, ?_⟩
  intro place content hplace
  rw [hmade]
  split
  · nofun
  · exact h.noFile place content hplace

/-- **Making a chain,** by induction on its names from the last one up. -/
theorem makeDirectoriesUp (h : t.Clear here root existing parent names) :
    ∃ made, makeDirectoriesUp here root t (existing ++ names).reverse = (.ok (), made) ∧
      ∀ place, made.node? place
        = if OnWay parent names place then some .directory else t.node? place := by
  induction names using List.reverseRecOn generalizing t with
  | nil =>
    have hensure : t.ensureDirectory here ⟨root, existing⟩ = .ok t :=
      ensureDirectory_of_directory h.plain (by simpa using h.fault) h.start_directory h.leads
        h.directory
    refine ⟨t, ?_, fun place => ?_⟩
    · rw [List.append_nil]
      cases hnames : existing.reverse with
      | nil =>
        rw [List.reverse_eq_nil_iff.1 hnames] at hensure
        rw [FileTree.makeDirectoriesUp, hensure]
      | cons name upper =>
        rw [List.reverse_eq_iff.1 hnames] at hensure
        simp only [FileTree.makeDirectoriesUp, hensure]
    · split
      · rename_i hplace
        rw [onWay_nil.1 hplace, h.directory]
      · rfl
  | append_singleton upper name ih =>
    have hreverse : (existing ++ (upper ++ [name])).reverse
        = name :: (existing ++ upper).reverse := by
      rw [← List.append_assoc, List.reverse_append]
      rfl
    have hrestore : (name :: (existing ++ upper).reverse).reverse
        = existing ++ (upper ++ [name]) := by
      rw [← hreverse, List.reverse_reverse]
    rw [hreverse]
    simp only [FileTree.makeDirectoriesUp, hrestore]
    rcases follow_or_missing h.init.entries h.directory h.init.noFile with hall | hmissing
    · obtain ⟨made, hensure, hmade⟩ := h.ensureDirectory_last hall
      refine ⟨made, by rw [hensure], fun place => ?_⟩
      rw [hmade]
      by_cases hlast : place = parent ++ (upper ++ [name])
      · rw [if_pos hlast, if_pos (onWay_concat.2 (.inr hlast))]
      · rw [if_neg hlast]
        split
        · rename_i hplace
          exact hall place ((onWay_concat.1 hplace).resolve_right hlast)
        · rfl
    · obtain ⟨middle, hmiddle, hnodes⟩ := ih h.init
      obtain ⟨made, hensure, hmade⟩ := (h.after_making hnodes).ensureDirectory_last
        fun place hplace => by rw [hnodes, if_pos hplace]
      refine ⟨made, ?_, fun place => ?_⟩
      · rw [h.ensureDirectory_missing hmissing]
        simp only [hmiddle, hensure, if_true]
      · rw [hmade, hnodes]
        by_cases hlast : place = parent ++ (upper ++ [name])
        · rw [if_pos hlast, if_pos (onWay_concat.2 (.inr hlast))]
        · rw [if_neg hlast]
          exact if_congr (onWay_concat.trans (or_iff_left hlast)).symm rfl rfl

theorem makeDirectories (h : t.Clear here root existing parent names) :
    ∃ made, t.makeDirectories here ⟨root, existing ++ names⟩ = (.ok (), made) ∧
      ∀ place, made.node? place
        = if OnWay parent names place then some .directory else t.node? place :=
  h.makeDirectoriesUp

end Clear

/-! ## Files at the end of a chain -/

/-- **Writing a file below a chain of directories** that are all there. -/
theorem write_of_directories (hleads : t.Leads here ⟨root, existing⟩ parent)
    (hnames : ∀ other ∈ upper ++ [name], IsEntryName other)
    (hall : ∀ place, OnWay parent upper place → t.node? place = some .directory)
    (hfault : pathFault? (Path.text ⟨root, existing ++ (upper ++ [name])⟩) = none)
    (hplace : t.node? (parent ++ (upper ++ [name])) ≠ some .directory) (content : List UInt8) :
    t.write here ⟨root, existing ++ (upper ++ [name])⟩ content
      = .ok (t.put (parent ++ (upper ++ [name])) (.file content)) := by
  have hopens := opens_of_directories hleads hnames hall hfault
  rw [← List.append_assoc] at hplace
  rw [← List.append_assoc, ← List.append_assoc]
  exact write_eq_ok_iff.2 ⟨_, _, name, rfl, hopens, hplace, rfl⟩

/-- **Reading a file below a chain of directories.** -/
theorem read_of_directories (hplain : Path.IsPlain ⟨root, existing⟩)
    (hleads : t.Leads here ⟨root, existing⟩ parent)
    (hnames : ∀ other ∈ upper ++ [name], IsEntryName other)
    (hall : ∀ place, OnWay parent upper place → t.node? place = some .directory)
    (hfault : pathFault? (Path.text ⟨root, existing ++ (upper ++ [name])⟩) = none)
    {content : List UInt8} (hplace : t.node? (parent ++ (upper ++ [name])) = some (.file content)) :
    t.read here ⟨root, existing ++ (upper ++ [name])⟩ = .ok content := by
  have hopens := opens_of_directories hleads hnames hall hfault
  have hname := (hnames name (by simp)).toIsPlainName
  have hwhole : Path.IsPlain ⟨root, existing ++ (upper ++ [name])⟩ :=
    List.forall_mem_append.2 ⟨hplain, fun other hother => (hnames other hother).toIsPlainName⟩
  rw [← List.append_assoc] at hplace
  rw [← List.append_assoc] at hfault hwhole ⊢
  exact read_of_leads hwhole hfault (List.concat_ne_nil _ _)
    (hopens.leads_concat hname (Keeps.refl t) (by rw [hplace]; rfl)) hplace

end FileTree
end EntityService
