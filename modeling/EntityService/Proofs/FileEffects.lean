import EntityService.Proofs.DistinctKeys
import EntityService.Proofs.PathText

/-!
# What file operations leave

An operation on a file tree puts nodes into it and takes none away.  This file says which ones, on
success and on failure, with no assumption about the tree.

The places that a path leads to are read off the tree that an operation leaves, where the
directories on the way are there.

## What is here

* `FileTree.node?_put` — a tree with a node put into it.
* `FileTree.Keeps` — no node is taken away or changes its kind; `Keeps.follow` — paths still lead
  where they led.
* `FileTree.Leads`, `FileTree.look_of_leads`, `FileTree.read_of_leads` — the place that a path leads
  to, and what is found there.
* `FileTree.Opens`, `FileTree.target_eq_some_iff` — when there is a place to put something.
* `FileTree.makeDirectory_eq_ok_iff`, `FileTree.write_eq_ok_iff` — what one operation puts there.
* `FileTree.Wrote`, `FileTree.exists_wrote` — what writing leaves.
* `FileTree.Made`, `FileTree.makeDirectories_made` — what making directories leaves.
-/

set_option autoImplicit false

namespace EntityService.FileTree

open EntityService.Files

variable {t t' : FileTree} {here place : Place}

/-! ## Putting nodes -/

theorem node?_root (t : FileTree) : t.node? [] = some .directory := by
  rw [node?, if_pos rfl]

/-- **A tree with a node put into it** has this node at its place and everything else as before. -/
theorem node?_put (t : FileTree) (hplace : place ≠ []) (node : Node) (other : Place) :
    (t.put place node).node? other = if other = place then some node else t.node? other := by
  by_cases hother : other = []
  · subst hother
    rw [node?_root, node?_root, if_neg (Ne.symm hplace)]
  · rw [node?, if_neg hother, put, Mapping.get?_insert, node?, if_neg hother]
    by_cases heq : place = other
    · rw [if_pos heq, if_pos heq.symm]
    · rw [if_neg heq, if_neg (Ne.symm heq)]

/-! ## Keeping nodes -/

/-- No node is taken away or changes its kind. -/
def Keeps (t t' : FileTree) : Prop :=
  ∀ place node, t.node? place = some node →
    ∃ node', t'.node? place = some node' ∧ (node' = .directory ↔ node = .directory)

namespace Keeps

theorem refl (t : FileTree) : t.Keeps t := fun _ node h => ⟨node, h, Iff.rfl⟩

theorem trans {t'' : FileTree} (h : t.Keeps t') (h' : t'.Keeps t'') : t.Keeps t'' := by
  intro place node hnode
  obtain ⟨node', hnode', hkind⟩ := h place node hnode
  obtain ⟨node'', hnode'', hkind'⟩ := h' place node' hnode'
  exact ⟨node'', hnode'', hkind'.trans hkind⟩

theorem directory (h : t.Keeps t') (hplace : t.node? place = some .directory) :
    t'.node? place = some .directory := by
  obtain ⟨node', hnode', hkind⟩ := h place _ hplace
  rw [hnode', hkind.2 rfl]

theorem isSome (h : t.Keeps t') (hplace : (t.node? place).isSome = true) :
    (t'.node? place).isSome = true := by
  obtain ⟨node, hnode⟩ := Option.isSome_iff_exists.1 hplace
  obtain ⟨node', hnode', -⟩ := h place node hnode
  rw [hnode']
  rfl

/-- A node in the place of nothing, or of one of its kind. -/
theorem put {node : Node} (hplace : place ≠ [])
    (h : ∀ node', t.node? place = some node' → (node = .directory ↔ node' = .directory)) :
    t.Keeps (t.put place node) := by
  intro other node' hnode'
  rw [node?_put t hplace]
  by_cases heq : other = place
  · rw [if_pos heq]
    subst heq
    exact ⟨node, rfl, h node' hnode'⟩
  · rw [if_neg heq]
    exact ⟨node', hnode', Iff.rfl⟩

end Keeps

/-! ## Following paths -/

/-- **One step.**  It starts at a directory, and it stays, goes up, or goes down to a node. -/
theorem step_eq_ok {name : String} {next : Place} (h : t.step place name = .ok next) :
    t.node? place = some .directory ∧
      ((Path.Stays name ∧ next = place) ∨ (name = ".." ∧ next = above place) ∨
        (name ≠ ".." ∧ ¬ Path.Stays name ∧ next = place ++ [name] ∧
          name.utf8ByteSize ≤ maxName ∧ (t.node? next).isSome = true)) := by
  rw [step] at h
  split at h
  · cases h
  · cases h
  · rename_i hdirectory
    refine ⟨hdirectory, ?_⟩
    split at h
    · rename_i hstays
      cases h
      exact .inl ⟨hstays, rfl⟩
    · rename_i hmoves
      split at h
      · rename_i hup
        cases h
        exact .inr (.inl ⟨hup, rfl⟩)
      · rename_i hdown
        split at h
        · cases h
        · rename_i hshort
          split at h
          · rename_i hsome
            cases h
            exact .inr (.inr ⟨hdown, hmoves, rfl, by omega, hsome⟩)
          · cases h

/-- A step down to a node that is there. -/
theorem step_down {name : String} (hplace : t.node? place = some .directory)
    (hplain : IsPlainName name) (hup : name ≠ "..") (hshort : name.utf8ByteSize ≤ maxName) :
    t.step place name
      = if (t.node? (place ++ [name])).isSome then .ok (place ++ [name]) else .error .noEntry := by
  rw [step, hplace]
  simp only
  rw [if_neg (fun h => h.elim hplain.ne_empty hplain.ne_point), if_neg hup, if_neg (by omega)]

theorem step_stays {name : String} (hplace : t.node? place = some .directory)
    (h : Path.Stays name) : t.step place name = .ok place := by
  rw [step, hplace]
  exact if_pos h

theorem Keeps.step (h : t.Keeps t') {name : String} {next : Place}
    (hstep : t.step place name = .ok next) : t'.step place name = .ok next := by
  obtain ⟨hplace, hcases⟩ := step_eq_ok hstep
  have hplace' := h.directory hplace
  rw [FileTree.step, hplace']
  simp only
  rcases hcases with ⟨hstays, rfl⟩ | ⟨rfl, rfl⟩ | ⟨hup, hmoves, rfl, hshort, hsome⟩
  · exact if_pos hstays
  · rfl
  · have hmoves : ¬(name = "" ∨ name = ".") := hmoves
    rw [if_neg hmoves, if_neg hup, if_neg (by omega), if_pos (h.isSome hsome)]

theorem follow_append (t : FileTree) (place : Place) (names more : List String) :
    t.follow place (names ++ more) = t.follow place names >>= fun next => t.follow next more := by
  induction names generalizing place with
  | nil => rfl
  | cons name names ih =>
    rw [List.cons_append, follow, follow]
    cases t.step place name with
    | ok next => exact ih next
    | error cause => rfl

/-- A path with one name more leads one step further. -/
theorem follow_concat_eq_ok_iff {names : List String} {name : String} {next : Place} :
    t.follow place (names ++ [name]) = .ok next ↔
      ∃ last, t.follow place names = .ok last ∧ t.step last name = .ok next := by
  rw [follow_append, bind_eq_ok]
  refine exists_congr fun last => and_congr_right fun _ => ?_
  rw [follow]
  cases t.step last name with
  | ok next => rfl
  | error cause => simp

/-- **Paths still lead where they led.** -/
theorem Keeps.follow (h : t.Keeps t') {names : List String} {next : Place}
    (hfollow : t.follow place names = .ok next) : t'.follow place names = .ok next := by
  induction names generalizing place with
  | nil => exact hfollow
  | cons name names ih =>
    rw [FileTree.follow] at hfollow ⊢
    cases hstep : t.step place name with
    | error cause =>
      rw [hstep] at hfollow
      cases hfollow
    | ok middle =>
      rw [hstep] at hfollow
      rw [h.step hstep]
      exact ih hfollow

/-- Names that stay where they are can be left out. -/
theorem follow_stays {before : List String} (hplace : t.node? place = some .directory)
    (h : ∀ name ∈ before, Path.Stays name) (names : List String) :
    t.follow place (before ++ names) = t.follow place names := by
  induction before with
  | nil => rfl
  | cons name before ih =>
    rw [List.cons_append, FileTree.follow, step_stays hplace (h name List.mem_cons_self)]
    exact ih fun other hother => h other (List.mem_cons_of_mem _ hother)

/-! ## Where a path leads -/

/-- A path leads to a place. -/
def Leads (t : FileTree) (here : Place) (p : Path) (place : Place) : Prop :=
  t.follow (start here p.root) p.names = .ok place

theorem Leads.unique {p : Path} {place' : Place} (h : t.Leads here p place)
    (h' : t.Leads here p place') : place = place' :=
  Except.ok.inj (h.symm.trans h')

theorem Keeps.leads (hkeeps : t.Keeps t') {p : Path} (h : t.Leads here p place) :
    t'.Leads here p place :=
  hkeeps.follow h

/-- A path with names that leads anywhere starts at a directory. -/
theorem Leads.start_directory {p : Path} (h : t.Leads here p place) (hne : p.names ≠ []) :
    t.node? (start here p.root) = some .directory := by
  rw [Leads] at h
  cases hnames : p.names with
  | nil => exact absurd hnames hne
  | cons name names =>
    rw [hnames, FileTree.follow] at h
    cases hstep : t.step (start here p.root) name with
    | ok next => exact (step_eq_ok hstep).1
    | error cause =>
      rw [hstep] at h
      cases h

/-- **The text of a path is followed as the path is.** -/
theorem follow_text {p : Path} (hplain : p.IsPlain)
    (hstart : t.node? (start here p.root) = some .directory) :
    t.follow (start here (Path.rootOf p.text)) (Path.pieces p.text)
      = t.follow (start here p.root) p.names := by
  obtain ⟨before, hstays, hpieces⟩ := Path.pieces_text hplain
  rw [Path.rootOf_text hplain, hpieces, follow_stays hstart hstays]

theorem look_of_leads {p : Path} (hplain : p.IsPlain) (hfault : pathFault? p.text = none)
    (hstart : t.node? (start here p.root) = some .directory) (h : t.Leads here p place)
    {node : Node} (hnode : t.node? place = some node) : t.look here p.text = .ok node := by
  have hfollow := (follow_text hplain hstart).trans h
  rw [look, hfault]
  simp only [if_neg (Path.text_ne_empty hplain), hfollow, hnode]

theorem look_of_error {p : Path} (hplain : p.IsPlain) (hfault : pathFault? p.text = none)
    (hstart : t.node? (start here p.root) = some .directory) {cause : Cause}
    (h : t.follow (start here p.root) p.names = .error cause) :
    t.look here p.text = .error cause := by
  have hfollow := (follow_text hplain hstart).trans h
  rw [look, hfault]
  simp only [if_neg (Path.text_ne_empty hplain), hfollow]

theorem read_of_leads {p : Path} (hplain : p.IsPlain) (hfault : pathFault? p.text = none)
    (hne : p.names ≠ []) (h : t.Leads here p place) {content : List UInt8}
    (hnode : t.node? place = some (.file content)) : t.read here p = .ok content := by
  rw [read, look_of_leads hplain hfault (h.start_directory hne) h hnode]

/-! ## Where something can be put -/

/-- A path with a last name stands for the place of this name in a directory, whether or not there
is anything yet. -/
structure Opens (t : FileTree) (here : Place) (root : Root) (upper : List String) (dir : Place)
    (name : String) : Prop where
  fault : pathFault? (Path.text ⟨root, upper ++ [name]⟩) = none
  leads : t.Leads here ⟨root, upper⟩ dir
  directory : t.node? dir = some .directory
  ne_up : name ≠ ".."
  short : name.utf8ByteSize ≤ maxName

theorem Opens.target {root : Root} {upper : List String} {dir : Place} {name : String}
    (h : t.Opens here root upper dir name) :
    t.target here ⟨root, upper ++ [name]⟩
      = .ok (some (dir ++ [name], t.node? (dir ++ [name]))) := by
  have hfollow : t.follow (start here root) upper = .ok dir := h.leads
  have hshort := h.short
  rw [FileTree.target, h.fault]
  simp only [List.getLast?_concat, List.dropLast_concat]
  rw [hfollow]
  simp only
  rw [h.directory]
  simp only
  rw [if_neg h.ne_up, if_neg (by omega)]

/-- **When there is a place to put something.** -/
theorem target_eq_some_iff {p : Path} {node? : Option Node} :
    t.target here p = .ok (some (place, node?)) ↔
      ∃ upper dir name, p = ⟨p.root, upper ++ [name]⟩ ∧ t.Opens here p.root upper dir name ∧
        place = dir ++ [name] ∧ node? = t.node? place := by
  constructor
  · intro h
    rw [target] at h
    split at h
    · cases h
    · rename_i hfault
      split at h
      · cases h
      · rename_i name hlast
        have hp : p = ⟨p.root, p.names.dropLast ++ [name]⟩ := by
          rw [List.dropLast_append_getLast? _ hlast]
        split at h
        · cases h
        · rename_i dir hfollow
          split at h
          · cases h
          · cases h
          · rename_i hdirectory
            split at h
            · cases h
            · rename_i hup
              split at h
              · cases h
              · rename_i hshort
                cases h
                rw [hp] at hfault
                exact ⟨_, dir, name, hp, ⟨hfault, hfollow, hdirectory, hup, by omega⟩, rfl, rfl⟩
  · rintro ⟨upper, dir, name, hp, hopens, rfl, rfl⟩
    rw [hp]
    exact hopens.target

/-- **A path leads to what was put at its place.** -/
theorem Opens.leads_concat {root : Root} {upper : List String} {dir : Place} {name : String}
    (h : t.Opens here root upper dir name) (hplain : IsPlainName name) (hkeeps : t.Keeps t')
    (hthere : (t'.node? (dir ++ [name])).isSome = true) :
    t'.Leads here ⟨root, upper ++ [name]⟩ (dir ++ [name]) := by
  refine follow_concat_eq_ok_iff.2 ⟨dir, hkeeps.leads h.leads, ?_⟩
  rw [step_down (hkeeps.directory h.directory) hplain h.ne_up h.short, if_pos hthere]

/-! ## Operations -/

/-- **Making a directory** puts one where there was nothing. -/
theorem makeDirectory_eq_ok_iff {p : Path} :
    t.makeDirectory here p = .ok t' ↔
      ∃ upper dir name, p = ⟨p.root, upper ++ [name]⟩ ∧ t.Opens here p.root upper dir name ∧
        t.node? (dir ++ [name]) = none ∧ t' = t.put (dir ++ [name]) .directory := by
  constructor
  · intro h
    rw [makeDirectory] at h
    split at h
    · cases h
    · cases h
    · cases h
    · rename_i place htarget
      cases h
      obtain ⟨upper, dir, name, hp, hopens, rfl, hnone⟩ := target_eq_some_iff.1 htarget
      exact ⟨upper, dir, name, hp, hopens, hnone.symm, rfl⟩
  · rintro ⟨upper, dir, name, hp, hopens, hnone, rfl⟩
    rw [hp, makeDirectory, hopens.target, hnone]

/-- **Writing** puts a file where there was no directory. -/
theorem write_eq_ok_iff {p : Path} {content : List UInt8} :
    t.write here p content = .ok t' ↔
      ∃ upper dir name, p = ⟨p.root, upper ++ [name]⟩ ∧ t.Opens here p.root upper dir name ∧
        t.node? (dir ++ [name]) ≠ some .directory ∧
        t' = t.put (dir ++ [name]) (.file content) := by
  constructor
  · intro h
    rw [write] at h
    split at h
    · cases h
    · cases h
    · cases h
    · rename_i place node? hother htarget
      cases h
      obtain ⟨upper, dir, name, hp, hopens, rfl, rfl⟩ := target_eq_some_iff.1 htarget
      exact ⟨upper, dir, name, hp, hopens, hother, rfl⟩
  · rintro ⟨upper, dir, name, hp, hopens, hother, rfl⟩
    rw [hp, write, hopens.target]
    cases hnode : t.node? (dir ++ [name]) with
    | none => rfl
    | some node =>
      cases node with
      | directory => exact absurd hnode hother
      | file => rfl

/-- What writing to a path leaves: the content at a place that the path leads to, and everything
else as before. -/
structure Wrote (t : FileTree) (here : Place) (p : Path) (content : List UInt8) (t' : FileTree)
    (place : Place) : Prop where
  fault : pathFault? p.text = none
  keeps : t.Keeps t'
  leads : t'.Leads here p place
  last : place.getLast? = p.names.getLast?
  there : t'.node? place = some (.file content)
  others : ∀ other, other ≠ place → t'.node? other = t.node? other

theorem exists_wrote {p : Path} (hplain : p.IsPlain) {content : List UInt8}
    (h : t.write here p content = .ok t') : ∃ place, t.Wrote here p content t' place := by
  obtain ⟨upper, dir, name, hp, hopens, hfile, rfl⟩ := write_eq_ok_iff.1 h
  have hnames : p.names = upper ++ [name] := congrArg Path.names hp
  have hplace : dir ++ [name] ≠ [] := List.concat_ne_nil _ _
  have hthere : (t.put (dir ++ [name]) (.file content)).node? (dir ++ [name])
      = some (.file content) := by
    rw [node?_put t hplace, if_pos rfl]
  have hkeeps : t.Keeps (t.put (dir ++ [name]) (.file content)) := by
    refine Keeps.put hplace fun node hnode => ⟨nofun, ?_⟩
    rintro rfl
    exact absurd hnode hfile
  refine ⟨dir ++ [name], ?_, hkeeps, ?_, ?_, hthere, fun other hother => ?_⟩
  · rw [hp]
    exact hopens.fault
  · rw [hp]
    exact hopens.leads_concat (hplain name (by rw [hnames]; simp)) hkeeps (by rw [hthere]; rfl)
  · rw [hnames, List.getLast?_concat, List.getLast?_concat]
  · rw [node?_put t hplace, if_neg hother]

theorem Wrote.read {p : Path} {content : List UInt8} (h : t.Wrote here p content t' place)
    (hplain : p.IsPlain) (hne : p.names ≠ []) : t'.read here p = .ok content :=
  read_of_leads hplain h.fault hne h.leads h.there

/-! ## Making directories -/

/-- What making the directories on the way of names may leave: all that was there, and directories
that beginnings of the names lead to. -/
structure Made (t : FileTree) (here : Place) (root : Root) (names : List String) (t' : FileTree) :
    Prop where
  kept : ∀ place node, t.node? place = some node → t'.node? place = some node
  added : ∀ place node, t.node? place = none → t'.node? place = some node →
    node = .directory ∧ ∃ way, way <+: names ∧ t'.Leads here ⟨root, way⟩ place

namespace Made

variable {root : Root} {names : List String}

theorem refl (t : FileTree) (here : Place) (root : Root) (names : List String) :
    t.Made here root names t := by
  refine ⟨fun _ _ h => h, fun place node hnone hsome => ?_⟩
  rw [hnone] at hsome
  cases hsome

theorem keeps (h : t.Made here root names t') : t.Keeps t' :=
  fun place node hnode => ⟨node, h.kept place node hnode, Iff.rfl⟩

theorem trans {t'' : FileTree} {more : List String} (h : t.Made here root names t')
    (h' : t'.Made here root (names ++ more) t'') : t.Made here root (names ++ more) t'' := by
  refine ⟨fun place node hnode => h'.kept _ _ (h.kept _ _ hnode), fun place node hnone hsome => ?_⟩
  cases hmiddle : t'.node? place with
  | none => exact h'.added place node hmiddle hsome
  | some node' =>
    obtain ⟨rfl, way, hway, hleads⟩ := h.added place node' hnone hmiddle
    rw [h'.kept _ _ hmiddle] at hsome
    cases hsome
    exact ⟨rfl, way, hway.trans (List.prefix_append _ _), h'.keeps.leads hleads⟩

end Made

theorem made_of_makeDirectory {p : Path} (hplain : p.IsPlain)
    (h : t.makeDirectory here p = .ok t') : t.Made here p.root p.names t' := by
  obtain ⟨upper, dir, name, hp, hopens, hnone, rfl⟩ := makeDirectory_eq_ok_iff.1 h
  have hplace : dir ++ [name] ≠ [] := List.concat_ne_nil _ _
  have hnew : (t.put (dir ++ [name]) .directory).node? (dir ++ [name]) = some .directory := by
    rw [node?_put t hplace, if_pos rfl]
  have hkept : ∀ place node, t.node? place = some node →
      (t.put (dir ++ [name]) .directory).node? place = some node := by
    intro place node hnode
    rw [node?_put t hplace, if_neg, hnode]
    rintro rfl
    rw [hnone] at hnode
    cases hnode
  refine ⟨hkept, fun place node habsent hpresent => ?_⟩
  rw [node?_put t hplace] at hpresent
  split at hpresent
  · rename_i heq
    cases hpresent
    subst heq
    refine ⟨rfl, p.names, List.prefix_refl _, ?_⟩
    have hname : IsPlainName name := hplain name (by rw [hp]; simp)
    rw [show p.names = upper ++ [name] from congrArg Path.names hp]
    refine hopens.leads_concat hname (fun place node hnode => ?_) (by rw [hnew]; rfl)
    exact ⟨node, hkept _ _ hnode, Iff.rfl⟩
  · rw [habsent] at hpresent
    cases hpresent

theorem made_of_ensureDirectory {p : Path} (hplain : p.IsPlain)
    (h : t.ensureDirectory here p = .ok t') : t.Made here p.root p.names t' := by
  rw [ensureDirectory] at h
  split at h
  · rename_i hmade
    cases h
    exact made_of_makeDirectory hplain hmade
  · split at h
    · cases h
      exact Made.refl t here p.root p.names
    · cases h

/-- **Making directories, with or without success,** by induction on the names from the last one up:
what the directories above leave is followed by at most one more directory. -/
theorem makeDirectoriesUp_made (here : Place) (root : Root) (t : FileTree) (names : List String)
    (hplain : Path.IsPlain ⟨root, names.reverse⟩) :
    t.Made here root names.reverse (makeDirectoriesUp here root t names).2 := by
  induction names with
  | nil =>
    rw [makeDirectoriesUp]
    split
    · rename_i made hmade
      exact made_of_ensureDirectory hplain hmade
    · exact Made.refl t here root _
  | cons name upper ih =>
    rw [List.reverse_cons] at hplain
    have hupper : Path.IsPlain ⟨root, upper.reverse⟩ :=
      fun other hother => hplain other (List.mem_append_left _ hother)
    have ih := ih hupper
    rw [makeDirectoriesUp]
    simp only [List.reverse_cons]
    split
    · rename_i made hmade
      exact made_of_ensureDirectory hplain hmade
    · split
      · split
        · rename_i made hmade
          rw [hmade] at ih
          exact ih.trans (Made.refl made here root _)
        · rename_i made hmade
          rw [hmade] at ih
          split
          · rename_i more hmore
            exact ih.trans (made_of_ensureDirectory hplain hmore)
          · exact ih.trans (Made.refl made here root _)
      · exact Made.refl t here root _

theorem makeDirectories_made (t : FileTree) (here : Place) {p : Path} (hplain : p.IsPlain) :
    t.Made here p.root p.names (t.makeDirectories here p).2 := by
  have h := makeDirectoriesUp_made here p.root t p.names.reverse (by rwa [List.reverse_reverse])
  rwa [List.reverse_reverse] at h

end EntityService.FileTree
