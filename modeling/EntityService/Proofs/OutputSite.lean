import EntityService.Proofs.DirectoryWay
import EntityService.Proofs.RunEffects

/-!
# Output directories

An output directory holds one folder for each project, with the manifest in it and the program in a
directory of its own.  It need not be there: the directories down to it are made by the first run.

What a run needs is that nothing is in its way, and what it leaves must not be in the way of a later
one.  This is the invariant `Site.Tidy`: at the places that runs may use there are only directories
on the way to some program, and the two files of projects.  No file of a project is on the way to a
program, of whichever project, since the directory of a program and its manifest have different
names.

## What is here

* `Site`, `Site.Vacant` — an output directory, and that there is nothing in it yet.
* `Site.Reserved` — the places that only runs put something at.
* `Site.Fits`, `Site.Nameable` — requests and projects that the file system has names for.
* `Site.Ready` — the directories of a project are there, so that its files can be written and read.
* `Site.install` — what a run with artifacts changes.
* `Site.Tidy`, `Site.Tidy.install`, `Site.Tidy.written` — the invariant, and that writing a project
  succeeds and changes what it should.
-/

set_option autoImplicit false

namespace EntityService

open EntityService.Files FileTree

/-! ## Output directories -/

/-- An output directory: the names of a path that is there, and the names of directories below it
that need not be there. -/
structure Site where
  here : Place
  root : Root
  existing : List String
  missing : List String
  /-- The place that the existing names lead to. -/
  parent : Place
  plain : Path.IsPlain ⟨root, existing ++ missing⟩
  entries : ∀ name ∈ missing, name ≠ ".." ∧ name.utf8ByteSize ≤ maxName

namespace Site

variable {site : Site}

/-- The path of the output directory. -/
def output (site : Site) : Path := ⟨site.root, site.existing ++ site.missing⟩

/-- The place of the output directory. -/
def base (site : Site) : Place := site.parent ++ site.missing

/-- The folder of a project. -/
def folder (site : Site) (project : String) : Path := Job.projectFolder site.output project

def manifestPlace (site : Site) (project : String) : Place :=
  site.base ++ [project, "pyproject.toml"]

def sourcePlace (site : Site) (project : String) : Place :=
  site.base ++ [project, "src", "main.py"]

/-- The names from the parent down to the directory of a program. -/
def way (site : Site) (project : String) : List String := site.missing ++ [project, "src"]

/-- The places that only runs put something at: the first missing directory with all below it, or
all below the output directory if none is missing. -/
def Reserved (site : Site) (place : Place) : Prop :=
  site.parent ++ site.missing.take 1 <+: place ∧ place ≠ site.parent

instance (site : Site) (place : Place) : Decidable (site.Reserved place) :=
  inferInstanceAs (Decidable (_ ∧ _))

/-- **The output directory is absent or empty,** below directories that are there. -/
structure Vacant (site : Site) (t : FileTree) : Prop where
  leads : t.Leads site.here ⟨site.root, site.existing⟩ site.parent
  directory : t.node? site.parent = some .directory
  free : ∀ place, site.Reserved place → t.node? place = none

/-! ## Places of projects -/

theorem isPlain_existing (site : Site) : Path.IsPlain ⟨site.root, site.existing⟩ :=
  fun name hname => site.plain name (List.mem_append_left _ hname)

theorem isEntryName_missing (site : Site) : ∀ name ∈ site.missing, IsEntryName name :=
  fun name hname => ⟨site.plain name (List.mem_append_right _ hname), (site.entries name hname).1,
    (site.entries name hname).2⟩

theorem manifestPlace_inj {p q : String} :
    site.manifestPlace p = site.manifestPlace q ↔ p = q := by
  simp [manifestPlace]

theorem sourcePlace_inj {p q : String} : site.sourcePlace p = site.sourcePlace q ↔ p = q := by
  simp [sourcePlace]

theorem manifestPlace_ne_sourcePlace (p q : String) :
    site.manifestPlace p ≠ site.sourcePlace q := by
  simp [manifestPlace, sourcePlace]

/-- The places in the output directory on the way to a program. -/
theorem onWay_base_iff {p : String} {names : List String} :
    OnWay site.parent (site.way p) (site.base ++ names) ↔ names <+: [p, "src"] := by
  have hparent : site.parent <+: site.base ++ names := by
    rw [base, List.append_assoc]
    exact List.prefix_append _ _
  rw [OnWay, and_iff_right hparent, way, base, ← List.append_assoc, List.prefix_append_right_inj]

/-- **No manifest is on the way to a program,** so projects are not in each other's way. -/
theorem not_onWay_manifestPlace (p q : String) :
    ¬OnWay site.parent (site.way p) (site.manifestPlace q) := by
  rw [manifestPlace, onWay_base_iff]
  simp

theorem not_onWay_sourcePlace (p q : String) :
    ¬OnWay site.parent (site.way p) (site.sourcePlace q) := by
  rw [sourcePlace, onWay_base_iff]
  simp

theorem reserved_of_base {place : Place} (h : site.base <+: place) (hne : place ≠ site.parent) :
    site.Reserved place :=
  ⟨((List.prefix_append_right_inj _).2 (List.take_prefix _ _)).trans h, hne⟩

theorem reserved_below_base {names : List String} (h : names ≠ []) :
    site.Reserved (site.base ++ names) := by
  refine reserved_of_base (List.prefix_append _ _) ?_
  rw [base, List.append_assoc]
  simp [h]

theorem reserved_manifestPlace (p : String) : site.Reserved (site.manifestPlace p) :=
  reserved_below_base (by simp)

theorem reserved_sourcePlace (p : String) : site.Reserved (site.sourcePlace p) :=
  reserved_below_base (by simp)

theorem reserved_of_onWay {p : String} {place : Place} (h : OnWay site.parent (site.way p) place)
    (hne : place ≠ site.parent) : site.Reserved place := by
  obtain ⟨below, hbelow, rfl⟩ := onWay_iff.1 h
  refine ⟨(List.prefix_append_right_inj _).2 ?_, hne⟩
  rw [way] at hbelow
  cases below with
  | nil => simp at hne
  | cons first rest =>
    cases hmissing : site.missing with
    | nil => exact List.nil_prefix
    | cons name names =>
      rw [hmissing, List.cons_append] at hbelow
      obtain ⟨rfl, -⟩ := List.cons_prefix_cons.1 hbelow
      simp

/-! ## The paths of a project -/

/-- A request that writes into the output directory.  The paths of its project, if this is a project
name at all, are short enough for the file system. -/
structure Fits (site : Site) (request : RunRequest) : Prop where
  output : request.output?.getD (.ofString Job.defaultOutput) = site.output
  short : Names.isProjectName request.project = true →
    request.project.utf8ByteSize ≤ maxName ∧
    pathFault? (Job.manifestPath (site.folder request.project)).text = none ∧
    pathFault? (Job.sourcePath (site.folder request.project)).text = none

/-- A project with a name that the file system can hold, and with paths that can be given to it. -/
structure Nameable (site : Site) (project : String) : Prop where
  entry : IsEntryName project
  manifestFault : pathFault? (Job.manifestPath (site.folder project)).text = none
  sourceFault : pathFault? (Job.sourcePath (site.folder project)).text = none

theorem Fits.nameable {request : RunRequest} (hfits : site.Fits request)
    (hproject : Names.isProjectName request.project = true) : site.Nameable request.project := by
  obtain ⟨hshort, hmanifest, hsource⟩ := hfits.short hproject
  exact ⟨⟨Names.isPlainName_project hproject, Names.ne_up_of_isProjectName hproject, hshort⟩,
    hmanifest, hsource⟩

theorem isEntryName_src : IsEntryName "src" :=
  ⟨⟨by decide, by decide, by decide⟩, by decide, by decide⟩

theorem isEntryName_manifest : IsEntryName "pyproject.toml" :=
  ⟨⟨by decide, by decide, by decide⟩, by decide, by decide⟩

theorem isEntryName_source : IsEntryName "main.py" :=
  ⟨⟨by decide, by decide, by decide⟩, by decide, by decide⟩

theorem manifestPlace_eq (site : Site) (p : String) :
    site.manifestPlace p = site.parent ++ ((site.missing ++ [p]) ++ ["pyproject.toml"]) := by
  simp [manifestPlace, base]

theorem sourcePlace_eq (site : Site) (p : String) :
    site.sourcePlace p = site.parent ++ (site.way p ++ ["main.py"]) := by
  simp [sourcePlace, base, way]

namespace Nameable

variable {p : String}

theorem folder_eq (h : site.Nameable p) :
    site.folder p = ⟨site.root, site.existing ++ (site.missing ++ [p])⟩ := by
  rw [folder, Job.projectFolder, Path.join_plainName _ h.entry.toIsPlainName, output,
    List.append_assoc]

theorem sourceFolder_eq (h : site.Nameable p) :
    Job.sourceFolder (site.folder p) = ⟨site.root, site.existing ++ site.way p⟩ := by
  rw [Job.sourceFolder_eq, h.folder_eq, way]
  simp

theorem manifestPath_eq (h : site.Nameable p) :
    Job.manifestPath (site.folder p)
      = ⟨site.root, site.existing ++ ((site.missing ++ [p]) ++ ["pyproject.toml"])⟩ := by
  rw [Job.manifestPath_eq, h.folder_eq]
  simp

theorem sourcePath_eq (h : site.Nameable p) :
    Job.sourcePath (site.folder p)
      = ⟨site.root, site.existing ++ (site.way p ++ ["main.py"])⟩ := by
  rw [Job.sourcePath_eq, h.folder_eq, way]
  simp

theorem isEntryName_way (h : site.Nameable p) : ∀ name ∈ site.way p, IsEntryName name := by
  rw [way, List.forall_mem_append]
  refine ⟨site.isEntryName_missing, ?_⟩
  simp only [List.forall_mem_cons, List.not_mem_nil, false_implies, implies_true, and_true]
  exact ⟨h.entry, isEntryName_src⟩

theorem isEntryName_manifestPath (h : site.Nameable p) :
    ∀ name ∈ (site.missing ++ [p]) ++ ["pyproject.toml"], IsEntryName name := by
  rw [List.forall_mem_append, List.forall_mem_append, List.forall_mem_singleton,
    List.forall_mem_singleton]
  exact ⟨⟨site.isEntryName_missing, h.entry⟩, isEntryName_manifest⟩

theorem isEntryName_sourcePath (h : site.Nameable p) :
    ∀ name ∈ site.way p ++ ["main.py"], IsEntryName name := by
  rw [List.forall_mem_append, List.forall_mem_singleton]
  exact ⟨h.isEntryName_way, isEntryName_source⟩

end Nameable

/-- The directories of a project are there. -/
structure Ready (site : Site) (t : FileTree) (p : String) : Prop where
  leads : t.Leads site.here ⟨site.root, site.existing⟩ site.parent
  all : ∀ place, OnWay site.parent (site.way p) place → t.node? place = some .directory

namespace Ready

variable {t : FileTree} {p : String}

theorem folder (h : site.Ready t p) :
    ∀ place, OnWay site.parent (site.missing ++ [p]) place → t.node? place = some .directory := by
  intro place hplace
  refine h.all place ?_
  rw [way, show site.missing ++ [p, "src"] = (site.missing ++ [p]) ++ ["src"] by simp]
  exact onWay_concat.2 (.inl hplace)

/-- A file beside the way leaves them there. -/
theorem put_file (h : site.Ready t p) {place : Place} (hne : place ≠ [])
    (hway : ¬OnWay site.parent (site.way p) place) (hplace : t.node? place ≠ some .directory)
    (content : List UInt8) : site.Ready (t.put place (.file content)) p := by
  have hkeeps : t.Keeps (t.put place (.file content)) := by
    refine Keeps.put hne fun node hnode => ⟨nofun, ?_⟩
    rintro rfl
    exact absurd hnode hplace
  refine ⟨hkeeps.leads h.leads, fun other hother => ?_⟩
  rw [node?_put t hne, if_neg, h.all other hother]
  rintro rfl
  exact hway hother

theorem write_manifest (h : site.Ready t p) (hp : site.Nameable p)
    (hplace : t.node? (site.manifestPlace p) ≠ some .directory) (content : List UInt8) :
    t.write site.here (Job.manifestPath (site.folder p)) content
      = .ok (t.put (site.manifestPlace p) (.file content)) := by
  have hfault := hp.manifestFault
  rw [manifestPlace_eq] at hplace ⊢
  rw [hp.manifestPath_eq] at hfault ⊢
  exact write_of_directories h.leads hp.isEntryName_manifestPath h.folder hfault hplace content

theorem write_source (h : site.Ready t p) (hp : site.Nameable p)
    (hplace : t.node? (site.sourcePlace p) ≠ some .directory) (content : List UInt8) :
    t.write site.here (Job.sourcePath (site.folder p)) content
      = .ok (t.put (site.sourcePlace p) (.file content)) := by
  have hfault := hp.sourceFault
  rw [sourcePlace_eq] at hplace ⊢
  rw [hp.sourcePath_eq] at hfault ⊢
  exact write_of_directories h.leads hp.isEntryName_sourcePath h.all hfault hplace content

/-- The files of a project are read where they are. -/
theorem holds (h : site.Ready t p) (hp : site.Nameable p) {a : Artifacts}
    (hmanifest : t.node? (site.manifestPlace p) = some (.file (Text.Utf8.encode a.manifest)))
    (hsource : t.node? (site.sourcePlace p) = some (.file (Text.Utf8.encode a.source))) :
    t.Holds site.here (site.folder p) a := by
  have hmanifestFault := hp.manifestFault
  have hsourceFault := hp.sourceFault
  rw [manifestPlace_eq] at hmanifest
  rw [sourcePlace_eq] at hsource
  rw [hp.manifestPath_eq] at hmanifestFault
  rw [hp.sourcePath_eq] at hsourceFault
  constructor
  · rw [hp.manifestPath_eq]
    exact read_of_directories site.isPlain_existing h.leads hp.isEntryName_manifestPath h.folder
      hmanifestFault hmanifest
  · rw [hp.sourcePath_eq]
    exact read_of_directories site.isPlain_existing h.leads hp.isEntryName_sourcePath h.all
      hsourceFault hsource

end Ready

/-! ## One run -/

/-- What a run with artifacts changes: two files, and the directories on the way to the program. -/
def install (site : Site) (a : Artifacts) (nodes : Place → Option Node) (place : Place) :
    Option Node :=
  if place = site.manifestPlace a.project then some (.file (Text.Utf8.encode a.manifest))
  else if place = site.sourcePlace a.project then some (.file (Text.Utf8.encode a.source))
  else if OnWay site.parent (site.way a.project) place then some .directory
  else nodes place

theorem install_manifestPlace (a : Artifacts) (nodes : Place → Option Node) (p : String) :
    site.install a nodes (site.manifestPlace p)
      = if a.project = p then some (.file (Text.Utf8.encode a.manifest))
        else nodes (site.manifestPlace p) := by
  rw [install, if_neg (manifestPlace_ne_sourcePlace p a.project),
    if_neg (not_onWay_manifestPlace a.project p)]
  exact if_congr (manifestPlace_inj.trans eq_comm) rfl rfl

theorem install_sourcePlace (a : Artifacts) (nodes : Place → Option Node) (p : String) :
    site.install a nodes (site.sourcePlace p)
      = if a.project = p then some (.file (Text.Utf8.encode a.source))
        else nodes (site.sourcePlace p) := by
  rw [install, if_neg (manifestPlace_ne_sourcePlace a.project p).symm,
    if_neg (not_onWay_sourcePlace a.project p)]
  exact if_congr (sourcePlace_inj.trans eq_comm) rfl rfl

/-- Where the nodes of a changed tree come from. -/
theorem install_eq_some {a : Artifacts} {nodes : Place → Option Node} {place : Place} {node : Node}
    (h : site.install a nodes place = some node) :
    (node ≠ .directory ∧
      (place = site.manifestPlace a.project ∨ place = site.sourcePlace a.project)) ∨
    (node = .directory ∧ OnWay site.parent (site.way a.project) place) ∨
    nodes place = some node := by
  rw [install] at h
  split at h
  · rename_i hplace
    cases h
    exact .inl ⟨nofun, .inl hplace⟩
  · split at h
    · rename_i hplace
      cases h
      exact .inl ⟨nofun, .inr hplace⟩
    · split at h
      · rename_i hway
        cases h
        exact .inr (.inl ⟨rfl, hway⟩)
      · exact .inr (.inr h)

theorem install_of_onWay {a : Artifacts} {nodes : Place → Option Node} {place : Place}
    {p : String} (h : OnWay site.parent (site.way p) place) :
    site.install a nodes place
      = if OnWay site.parent (site.way a.project) place then some .directory
        else nodes place := by
  rw [install, if_neg, if_neg]
  · rintro rfl
    exact not_onWay_sourcePlace _ _ h
  · rintro rfl
    exact not_onWay_manifestPlace _ _ h

/-- Only reserved places change. -/
theorem install_of_not_reserved {a : Artifacts} {nodes : Place → Option Node} {place : Place}
    (hparent : nodes site.parent = some .directory) (h : ¬site.Reserved place) :
    site.install a nodes place = nodes place := by
  rw [install, if_neg, if_neg]
  · split
    · rename_i hway
      have heq : place = site.parent := by
        by_contra hne
        exact h (reserved_of_onWay hway hne)
      rw [heq, hparent]
    · rfl
  · rintro rfl
    exact h (reserved_sourcePlace _)
  · rintro rfl
    exact h (reserved_manifestPlace _)

/-- **Nothing is in the way of a run:** at the reserved places there are only directories on the way
to some program, and the two files of projects. -/
structure Tidy (site : Site) (t : FileTree) : Prop where
  leads : t.Leads site.here ⟨site.root, site.existing⟩ site.parent
  directory : t.node? site.parent = some .directory
  onWay : ∀ place, site.Reserved place → t.node? place = some .directory →
    ∃ p, OnWay site.parent (site.way p) place
  file : ∀ place content, site.Reserved place → t.node? place = some (.file content) →
    ∃ p, place = site.manifestPlace p ∨ place = site.sourcePlace p

theorem Vacant.tidy {t : FileTree} (h : site.Vacant t) : site.Tidy t where
  leads := h.leads
  directory := h.directory
  onWay := fun place hplace hnode => by
    rw [h.free place hplace] at hnode
    cases hnode
  file := fun place content hplace hnode => by
    rw [h.free place hplace] at hnode
    cases hnode

namespace Tidy

variable {t t' : FileTree}

/-- No file is on the way to a program. -/
theorem not_file_of_onWay (h : site.Tidy t) {p : String} {place : Place} {content : List UInt8}
    (hplace : OnWay site.parent (site.way p) place) : t.node? place ≠ some (.file content) := by
  intro hnode
  by_cases hne : place = site.parent
  · rw [hne, h.directory] at hnode
    cases hnode
  · obtain ⟨q, rfl | rfl⟩ := h.file place content (reserved_of_onWay hplace hne) hnode
    · exact not_onWay_manifestPlace _ _ hplace
    · exact not_onWay_sourcePlace _ _ hplace

theorem manifestPlace_ne_directory (h : site.Tidy t) (p : String) :
    t.node? (site.manifestPlace p) ≠ some .directory := by
  intro hnode
  obtain ⟨q, hway⟩ := h.onWay _ (reserved_manifestPlace p) hnode
  exact not_onWay_manifestPlace _ _ hway

theorem sourcePlace_ne_directory (h : site.Tidy t) (p : String) :
    t.node? (site.sourcePlace p) ≠ some .directory := by
  intro hnode
  obtain ⟨q, hway⟩ := h.onWay _ (reserved_sourcePlace p) hnode
  exact not_onWay_sourcePlace _ _ hway

/-- A run with artifacts takes nothing away. -/
theorem keeps (h : site.Tidy t) {a : Artifacts} (hnodes : t'.node? = site.install a t.node?) :
    t.Keeps t' := by
  intro place node hnode
  rw [hnodes, Site.install]
  split
  · rename_i heq
    refine ⟨_, rfl, nofun, ?_⟩
    rintro rfl
    rw [heq] at hnode
    exact absurd hnode (h.manifestPlace_ne_directory _)
  · split
    · rename_i heq
      refine ⟨_, rfl, nofun, ?_⟩
      rintro rfl
      rw [heq] at hnode
      exact absurd hnode (h.sourcePlace_ne_directory _)
    · split
      · rename_i hway
        cases node with
        | directory => exact ⟨_, rfl, Iff.rfl⟩
        | file content => exact absurd hnode (h.not_file_of_onWay hway)
      · exact ⟨node, hnode, Iff.rfl⟩

/-- **A run with artifacts leaves the place tidy.** -/
theorem install (h : site.Tidy t) {a : Artifacts} (hnodes : t'.node? = site.install a t.node?) :
    site.Tidy t' := by
  have hkeeps := h.keeps hnodes
  refine ⟨hkeeps.leads h.leads, hkeeps.directory h.directory, fun place hplace hnode => ?_,
    fun place content hplace hnode => ?_⟩
  · rw [hnodes] at hnode
    rcases install_eq_some hnode with ⟨hfile, -⟩ | ⟨-, hway⟩ | hold
    · exact absurd rfl hfile
    · exact ⟨_, hway⟩
    · exact h.onWay place hplace hold
  · rw [hnodes] at hnode
    rcases install_eq_some hnode with ⟨-, hfile⟩ | ⟨hdirectory, -⟩ | hold
    · exact ⟨_, hfile⟩
    · cases hdirectory
    · exact h.file place content hplace hold

/-- The directories of a project can be made. -/
theorem exists_made (h : site.Tidy t) {p : String} (hp : site.Nameable p) :
    ∃ made, t.makeDirectories site.here (Job.sourceFolder (site.folder p)) = (.ok (), made) ∧
      site.Ready made p ∧ ∀ place, made.node? place
        = if OnWay site.parent (site.way p) place then some .directory else t.node? place := by
  have hfault : pathFault? (Path.text ⟨site.root, site.existing ++ site.way p⟩) = none := by
    have hsource := hp.sourceFault
    rw [hp.sourcePath_eq, ← List.append_assoc] at hsource
    exact pathFault?_of_append hsource
  have hclear : t.Clear site.here site.root site.existing site.parent (site.way p) :=
    ⟨h.leads, h.directory, site.isPlain_existing, hp.isEntryName_way, hfault,
      fun place content hplace => h.not_file_of_onWay hplace⟩
  obtain ⟨made, hmake, hmade⟩ := hclear.makeDirectories
  rw [← hp.sourceFolder_eq] at hmake
  refine ⟨made, hmake, ⟨(hclear.keeps hmade).leads h.leads, fun place hplace => ?_⟩, hmade⟩
  rw [hmade, if_pos hplace]

/-- **Writing a project** where nothing is in the way succeeds, and changes what it should.  The
ways in which it would fail are excluded one after the other. -/
theorem written (h : site.Tidy t) {a : Artifacts} (hp : site.Nameable a.project)
    {written : Except Files.Fault Path}
    (hwritten : t.Written site.here (site.folder a.project) a written t') :
    t'.node? = site.install a t.node? := by
  obtain ⟨made, hmake, hready, hmade⟩ := h.exists_made hp
  have hmanifestPlace : site.manifestPlace a.project ≠ [] := by simp [manifestPlace]
  have hsourcePlace : site.sourcePlace a.project ≠ [] := by simp [sourcePlace]
  have hmanifestFree : made.node? (site.manifestPlace a.project) ≠ some .directory := by
    rw [hmade, if_neg (not_onWay_manifestPlace _ _)]
    exact h.manifestPlace_ne_directory _
  have hmanifest := hready.write_manifest hp hmanifestFree (Text.Utf8.encode a.manifest)
  have hready' := hready.put_file hmanifestPlace (not_onWay_manifestPlace _ _) hmanifestFree
    (Text.Utf8.encode a.manifest)
  have hsource := hready'.write_source hp (by
    rw [node?_put _ hmanifestPlace, if_neg (manifestPlace_ne_sourcePlace _ _).symm, hmade,
      if_neg (not_onWay_sourcePlace _ _)]
    exact h.sourcePlace_ne_directory _) (Text.Utf8.encode a.source)
  cases hwritten with
  | noDirectory hmake' => cases hmake.symm.trans hmake'
  | noManifest hmake' hmanifest' =>
    cases hmake.symm.trans hmake'
    cases hmanifest.symm.trans hmanifest'
  | noSource hmake' hmanifest' hsource' =>
    cases hmake.symm.trans hmake'
    cases hmanifest.symm.trans hmanifest'
    cases hsource.symm.trans hsource'
  | full hmake' hmanifest' hsource' =>
    cases hmake.symm.trans hmake'
    cases hmanifest.symm.trans hmanifest'
    cases hsource.symm.trans hsource'
    funext place
    rw [node?_put _ hsourcePlace, node?_put _ hmanifestPlace, hmade, Site.install]
    by_cases hplace : place = site.manifestPlace a.project
    · rw [if_pos hplace, hplace, if_neg (manifestPlace_ne_sourcePlace _ _), if_pos rfl]
    · rw [if_neg hplace, if_neg hplace]

end Tidy

end Site

end EntityService
