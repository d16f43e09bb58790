import EntityService.Proofs.RunHistory

/-!
# Projects stay below the output directory

A project is written into the folder of its name in the output directory.  A name with a slash in
it, or the name `..`, would lead somewhere else.  The test for names of projects lets neither
through, although it lets more through than the letters and digits of ASCII.

Paths are compared as they are written, and this alone does not say where they lead: an output path
may hold `..`, and its directories may be missing.  So the places that a run touches are looked at
as well, in the tree that the run leaves.  There the output path leads somewhere if anything was put
below it.

## What is here

* `IsDownName`, `Names.isDownName_project` — names that lead one step down.
* `Path.parent`, `Path.lastName?`, `Path.Below` — how paths lie to each other.
* `FileTree.follow_down`, `FileTree.Leads.exists_upper` — where names that lead down end.
* `Job.directoryWays`, `Job.fileWays` — the ways from an output directory into a project.
* `FileTree.Inside`, `FileTree.Touched.inside` — what a run touches, seen from the output directory.
* `Job.project_stays_below` — the main statement.
-/

set_option autoImplicit false

namespace EntityService

open EntityService.Files

/-! ## Names that lead down -/

/-- A name that leads one step down. -/
structure IsDownName (name : String) : Prop extends IsPlainName name where
  ne_up : name ≠ ".."

theorem IsEntryName.isDownName {name : String} (h : IsEntryName name) : IsDownName name :=
  ⟨h.toIsPlainName, h.ne_up⟩

namespace Names

variable {name : String}

/-- **The name of a project leads one step down.** -/
theorem isDownName_project (h : isProjectName name = true) : IsDownName name :=
  ⟨isPlainName_project h, ne_up_of_isProjectName h⟩

theorem null_not_mem_project (h : isProjectName name = true) : '\x00' ∉ name.toList := by
  intro hnull
  rcases isProjectChar_of_mem h hnull with hchar | hline
  · exact absurd hchar (by decide)
  · exact absurd hline (by decide)

end Names

/-! ## How paths lie to each other -/

namespace Path

/-- The path without its last name. -/
def parent (p : Path) : Path := ⟨p.root, p.names.dropLast⟩

/-- The last name of a path. -/
def lastName? (p : Path) : Option String := p.names.getLast?

/-- A path strictly below another one: it goes on where the other one ends, with names that each
lead one step down. -/
def Below (p upper : Path) : Prop :=
  ∃ names : List String, names ≠ [] ∧ (∀ name ∈ names, IsDownName name) ∧
    p = ⟨upper.root, upper.names ++ names⟩

end Path

namespace FileTree

variable {t : FileTree} {here place next : Place}

/-- **Names that lead down end below the place where they start.** -/
theorem follow_down {names : List String} (hnames : ∀ name ∈ names, IsDownName name)
    (h : t.follow place names = .ok next) : next = place ++ names := by
  induction names generalizing place with
  | nil =>
    rw [follow] at h
    cases h
    rw [List.append_nil]
  | cons name names ih =>
    obtain ⟨hname, hnames⟩ := List.forall_mem_cons.1 hnames
    rw [follow] at h
    cases hstep : t.step place name with
    | error cause =>
      rw [hstep] at h
      cases h
    | ok middle =>
      rw [hstep] at h
      have hmiddle : middle = place ++ [name] := by
        rcases (step_eq_ok hstep).2 with ⟨hstays, -⟩ | ⟨hup, -⟩ | ⟨-, -, hdown, -⟩
        · exact absurd hstays fun h => h.elim hname.ne_empty hname.ne_point
        · exact absurd hup hname.ne_up
        · exact hdown
      rw [ih hnames h, hmiddle, List.append_assoc]
      rfl

/-- **A path that goes on down** leads below the place that its beginning leads to. -/
theorem Leads.exists_upper {root : Root} {upper names : List String}
    (hnames : ∀ name ∈ names, IsDownName name) (h : t.Leads here ⟨root, upper ++ names⟩ place) :
    ∃ base, t.Leads here ⟨root, upper⟩ base ∧ place = base ++ names := by
  rw [Leads, follow_append] at h
  obtain ⟨base, hbase, hrest⟩ := bind_eq_ok.1 h
  exact ⟨base, hbase, follow_down hnames hrest⟩

end FileTree

/-! ## The ways into a project -/

namespace Job

/-- The ways from an output directory to the directories of a project. -/
def directoryWays (project : String) : List (List String) := [[project], [project, "src"]]

/-- The ways from an output directory to the files of a project. -/
def fileWays (project : String) : List (List String) :=
  [[project, "pyproject.toml"], [project, "src", "main.py"]]

variable {project : String} {output : Path}

theorem isDownName_ways (h : IsDownName project) :
    ∀ way ∈ directoryWays project ++ fileWays project, ∀ name ∈ way, IsDownName name := by
  have hsrc := Site.isEntryName_src.isDownName
  have hmanifest := Site.isEntryName_manifest.isDownName
  have hsource := Site.isEntryName_source.isDownName
  simp [directoryWays, fileWays, h, hsrc, hmanifest, hsource]

theorem projectFolder_eq (h : IsPlainName project) :
    projectFolder output project = ⟨output.root, output.names ++ [project]⟩ :=
  output.join_plainName h

theorem sourceFolder_names (h : IsPlainName project) :
    (sourceFolder (projectFolder output project)).names = output.names ++ [project, "src"] := by
  rw [sourceFolder_eq, projectFolder_eq h, List.append_assoc]
  rfl

/-- The files of a project lead into it by these ways. -/
theorem filePath_eq (h : IsPlainName project) :
    ∀ p ∈ [manifestPath (projectFolder output project), sourcePath (projectFolder output project)],
      ∃ way ∈ fileWays project, p = ⟨output.root, output.names ++ way⟩ := by
  have hmanifest : manifestPath (projectFolder output project)
      = ⟨output.root, output.names ++ [project, "pyproject.toml"]⟩ := by
    rw [manifestPath_eq, projectFolder_eq h, List.append_assoc]
    rfl
  have hsource : sourcePath (projectFolder output project)
      = ⟨output.root, output.names ++ [project, "src", "main.py"]⟩ := by
    rw [sourcePath_eq, projectFolder_eq h, List.append_assoc]
    rfl
  simp [fileWays, hmanifest, hsource]

/-- The files of a project lie below the output directory. -/
theorem below_output (h : IsDownName project) :
    ∀ p ∈ [manifestPath (projectFolder output project), sourcePath (projectFolder output project)],
      p.Below output := by
  intro p hp
  obtain ⟨way, hway, rfl⟩ := filePath_eq h.toIsPlainName p hp
  refine ⟨way, ?_, isDownName_ways h way (List.mem_append_right _ hway), rfl⟩
  rintro rfl
  simp [fileWays] at hway

end Job

namespace FileTree

variable {before after : FileTree} {here place : Place} {output : Path} {project : String}

/-- A place where something is different after a run, seen from the output directory: this is a new
directory on the way to it, or something below it. -/
inductive Inside (here : Place) (output : Path) (project : String) (before after : FileTree)
    (place : Place) : Prop
  /-- A directory on the way to the output directory, or this one itself. -/
  | above (way : List String) :
    way <+: output.names → after.Leads here ⟨output.root, way⟩ place →
    before.node? place = none → after.node? place = some .directory →
    Inside here output project before after place
  /-- A directory of the project. -/
  | directory (base way : List String) :
    after.Leads here output base → way ∈ Job.directoryWays project → place = base ++ way →
    before.node? place = none → after.node? place = some .directory →
    Inside here output project before after place
  /-- A file of the project. -/
  | file (base way : List String) (content : List UInt8) :
    after.Leads here output base → way ∈ Job.fileWays project → place = base ++ way →
    after.node? place = some (.file content) →
    Inside here output project before after place

theorem inside_of_file (hproject : IsDownName project) {p : Path}
    (hp : p ∈ [Job.manifestPath (Job.projectFolder output project),
      Job.sourcePath (Job.projectFolder output project)])
    (hleads : after.Leads here p place) {content : List UInt8}
    (hfile : after.node? place = some (.file content)) :
    Inside here output project before after place := by
  obtain ⟨way, hway, rfl⟩ := Job.filePath_eq hproject.toIsPlainName p hp
  have hdown := Job.isDownName_ways hproject way (List.mem_append_right _ hway)
  obtain ⟨base, hbase, hplace⟩ := hleads.exists_upper hdown
  exact .file base way content hbase hway hplace hfile

/-- **What a run touches is inside.**  The cases are those of what it may touch: a directory is on
the way to the output directory or below it, and a file is below it. -/
theorem Touched.inside (hproject : IsDownName project) {a : Artifacts}
    (h : Touched here (Job.projectFolder output project) a before after place) :
    Inside here output project before after place := by
  cases h with
  | directory way hway hleads hnone hdirectory =>
    rw [Job.projectFolder_eq hproject.toIsPlainName] at hleads
    rw [Job.sourceFolder_names hproject.toIsPlainName] at hway
    -- A directory is above the folder, or it is the folder, or the one in it for the program.
    by_cases habove : way <+: output.names
    · exact .above way habove hleads hnone hdirectory
    · obtain ⟨more, hmore, rfl⟩ : ∃ more ∈ Job.directoryWays project,
          way = output.names ++ more := by
        rw [← List.singleton_append, ← List.append_assoc, List.prefix_concat_iff,
          List.prefix_concat_iff] at hway
        rcases hway with rfl | rfl | hway
        · exact ⟨[project, "src"], by simp [Job.directoryWays], by simp⟩
        · exact ⟨[project], by simp [Job.directoryWays], rfl⟩
        · exact absurd hway habove
      have hdown := Job.isDownName_ways hproject more (List.mem_append_left _ hmore)
      obtain ⟨base, hbase, hplace⟩ := hleads.exists_upper hdown
      exact .directory base more hbase hmore hplace hnone hdirectory
  | manifest hleads hfile => exact inside_of_file hproject (by simp) hleads hfile
  | source hleads hfile => exact inside_of_file hproject (by simp) hleads hfile

end FileTree

/-! ## Runs -/

/-- The output directory of a run. -/
def RunRequest.outputPath (request : RunRequest) : Path :=
  request.output?.getD (.ofString Job.defaultOutput)

namespace Job

/-- **A project stays below the output directory.**  Its name is a single name that leads one step
down, so its folder lies in the output directory under this name, and its files lie below.  Whatever
is different after a run is a new directory on the way to the output directory, or is one of the
directories and files of the project below it. -/
theorem project_stays_below {name : String} (hname : Names.isProjectName name = true) :
    ('/' ∉ name.toList ∧ '\x00' ∉ name.toList ∧ name ≠ "" ∧ name ≠ "." ∧ name ≠ "..") ∧
    (∀ output : Path,
      (projectFolder output name).parent = output ∧
      (projectFolder output name).lastName? = some name ∧
      (manifestPath (projectFolder output name)).Below output ∧
      (sourcePath (projectFolder output name)).Below output) ∧
    ∀ (host : Host) (request : RunRequest) (tree : FileTree), request.project = name →
      (∀ output ∈ request.output?, output.IsPlain) →
      ∀ place, ((run host request).execute tree).2.tree.node? place ≠ tree.node? place →
        tree.Inside host.here request.outputPath name
          ((run host request).execute tree).2.tree place := by
  have hdown := Names.isDownName_project hname
  refine ⟨⟨hdown.no_slash, Names.null_not_mem_project hname, hdown.ne_empty, hdown.ne_point,
    hdown.ne_up⟩, fun output => ?_, fun host request tree hproject houtput place hdiffers => ?_⟩
  · refine ⟨?_, ?_, below_output hdown _ (by simp), below_output hdown _ (by simp)⟩
    · rw [projectFolder_eq hdown.toIsPlainName, Path.parent, List.dropLast_concat]
    · rw [projectFolder_eq hdown.toIsPlainName, Path.lastName?, List.getLast?_concat]
  · subst hproject
    obtain ⟨herror, hok⟩ := run_touches host request tree houtput
    cases hgenerated : request.generated host.here tree with
    | error failure =>
      obtain ⟨events, hrun⟩ := herror failure hgenerated
      rw [hrun] at hdiffers
      exact absurd rfl hdiffers
    | ok a => exact ((hok a hgenerated).leaves.touched place hdiffers).inside hdown

theorem program_of_workRequest :
    ((run ⟨["w"], fun _ => .exited 1⟩ workRequest).execute Site.freshTree).2.tree.node?
      ["w", "out", "p", "src", "main.py"]
        = some (.file (Text.Utf8.encode workArtifacts.source)) := by
  have hread : Site.freshTree.read ["w"] (.ofString workRequest.schemaPath) = .ok [0x7b, 0x7d] := by
    decide +kernel
  have hartifacts : Site.workStep.artifacts? Site.freshSite.here Site.freshTree
      = some workArtifacts := by
    rw [Step.artifacts?]
    exact congrArg Except.toOption (generated_workRequest hread)
  obtain ⟨hnodes, -⟩ := Site.vacant_freshSite.tidy.after_eq
    (Site.fits_freshSite Site.workStep (by simp))
  have hone : Site.freshSite.installAll (some workArtifacts).toList Site.freshTree.node?
      = Site.freshSite.install workArtifacts Site.freshTree.node? := rfl
  have hplace := congrFun hnodes (Site.freshSite.sourcePlace "p")
  have hproject : workArtifacts.project = "p" := rfl
  rw [hartifacts, hone, Site.install_sourcePlace, if_pos hproject, Step.after] at hplace
  have hhost : (⟨Site.freshSite.here, Site.workStep.ending⟩ : Host)
      = ⟨["w"], fun _ => .exited 1⟩ := rfl
  have hrequest : Site.workStep.request = workRequest := rfl
  rw [hhost, hrequest] at hplace
  exact hplace

/-- A program is at a place below the output directory where nothing was. -/
theorem project_stays_below_workRequest :
    Names.isProjectName "p" = true ∧
    (∀ output ∈ workRequest.output?, output.IsPlain) ∧
    ((run ⟨["w"], fun _ => .exited 1⟩ workRequest).execute Site.freshTree).2.tree.node?
      ["w", "out", "p", "src", "main.py"]
        ≠ Site.freshTree.node? ["w", "out", "p", "src", "main.py"] ∧
    Site.freshTree.Inside ["w"] workRequest.outputPath "p"
      ((run ⟨["w"], fun _ => .exited 1⟩ workRequest).execute Site.freshTree).2.tree
      ["w", "out", "p", "src", "main.py"] := by
  have hname : Names.isProjectName "p" = true := by decide
  have hnone : Site.freshTree.node? ["w", "out", "p", "src", "main.py"] = none := by decide
  have hdiffers : ((run ⟨["w"], fun _ => .exited 1⟩ workRequest).execute Site.freshTree).2.tree.node?
      ["w", "out", "p", "src", "main.py"]
        ≠ Site.freshTree.node? ["w", "out", "p", "src", "main.py"] := by
    rw [program_of_workRequest, hnone]
    nofun
  exact ⟨hname, isPlain_workRequest, hdiffers, (project_stays_below hname).2.2
    ⟨["w"], fun _ => .exited 1⟩ workRequest Site.freshTree rfl isPlain_workRequest _ hdiffers⟩

end Job

end EntityService
