import EntityService.Job
import EntityService.Proofs.FileEffects

/-!
# What a run touches

A run reads a document, generates a project from it, and writes the project: directories, then the
manifest, then the program.  Each of these steps can fail, and a formatter can fail after them, so a
run can end in many states.  This file says what all of them have in common.

The states are listed once, in `FileTree.Written`; what holds of them is then shown along the order
of the steps, each step keeping what is known of the ones before it.

## What is here

* `Job.outcome` — what a job leaves, with a rule for each way to build a job.
* `RunRequest.generated` — what loading and generating give in a tree.
* `FileTree.Written`, `Job.outcome_writeProject` — the ways in which writing a project ends.
* `Job.run_of_generated_error`, `Job.run_of_generated` — the ways in which a run ends.
* `FileTree.Touched`, `FileTree.Leaves`, `FileTree.Written.leaves` — what is different afterwards.
* `RunFrame`, `Job.run_touches` — what a run may touch.
-/

set_option autoImplicit false

namespace EntityService

open EntityService.Files

namespace Job

variable {α β : Type} {job : Job α} {next : α → Job β} {p done : Progress}

/-! ## Outcomes -/

/-- The result or failure of a job and what it leaves, from what was done before. -/
def outcome (job : Job α) (p : Progress) : Except Failure α × Progress :=
  Id.run (StateT.run (ExceptT.run job) p)

theorem execute_eq_outcome (job : Job α) (tree : FileTree) :
    job.execute tree = job.outcome ⟨tree, [], []⟩ := rfl

theorem outcome_bind (job : Job α) (next : α → Job β) (p : Progress) :
    (job >>= next).outcome p =
      match job.outcome p with
      | (.ok a, done) => (next a).outcome done
      | (.error failure, done) => (.error failure, done) := by
  have hbind : (job >>= next).outcome p
      = Id.run (StateT.run (ExceptT.bindCont next (job.outcome p).1) (job.outcome p).2) := rfl
  rw [hbind]
  rcases job.outcome p with ⟨result, done⟩
  cases result <;> rfl

/-- After a job that succeeds the next one goes on. -/
theorem outcome_bind_ok {a : α} (h : job.outcome p = (.ok a, done)) :
    (job >>= next).outcome p = (next a).outcome done := by
  rw [outcome_bind, h]

/-- After a job that fails nothing goes on. -/
theorem outcome_bind_error {failure : Failure} (h : job.outcome p = (.error failure, done)) :
    (job >>= next).outcome p = (.error failure, done) := by
  rw [outcome_bind, h]

/-- Two jobs one after the other succeed if both of them do. -/
theorem outcome_bind_eq_ok {b : β} :
    (job >>= next).outcome p = (.ok b, done) ↔
      ∃ a between, job.outcome p = (.ok a, between) ∧ (next a).outcome between = (.ok b, done) := by
  rw [outcome_bind]
  rcases job.outcome p with ⟨result, between⟩
  cases result with
  | error failure => exact iff_of_false (by simp) (by simp)
  | ok a =>
    constructor
    · exact fun h => ⟨a, between, rfl, h⟩
    · rintro ⟨a', between', heq, h⟩
      cases heq
      exact h

theorem outcome_get (p : Progress) : (get : Job Progress).outcome p = (.ok p, p) := rfl

theorem outcome_fail (failure : Failure) (p : Progress) :
    (fail failure : Job α).outcome p = (.error failure, p) := rfl

theorem outcome_report (event : Event) (p : Progress) :
    (report event).outcome p = (.ok (), { p with events := p.events ++ [event] }) := rfl

theorem outcome_follow (reported : Reported (Except Refusal α)) (p : Progress) :
    (follow reported).outcome p
      = (reported.result.mapError .refused, { p with events := p.events ++ reported.events }) := by
  obtain ⟨events, result⟩ := reported
  cases result <;> rfl

/-! ## The steps of a run -/

/-- What loading a document in a tree gives. -/
def loaded (here : Place) (tree : FileTree) (path : Path) : Except Failure Json.Value :=
  match tree.read here path with
  | .error fault => .error (.files fault)
  | .ok content => (Document.ofBytes content).mapError .document

theorem outcome_load (host : Host) (path : Path) (p : Progress) :
    (load host path).outcome p = (loaded host.here p.tree path, p) := by
  rw [load, outcome_bind_ok (outcome_get p), loaded]
  cases p.tree.read host.here path with
  | error fault => rfl
  | ok content =>
    simp only
    cases Document.ofBytes content <;> rfl

theorem outcome_makeDirectories (host : Host) (path : Path) (p : Progress) :
    (makeDirectories host path).outcome p
      = ((p.tree.makeDirectories host.here path).1.mapError .files,
          { p with tree := (p.tree.makeDirectories host.here path).2 }) := by
  rw [makeDirectories]
  cases hmade : p.tree.makeDirectories host.here path with
  | mk result tree =>
    rw [outcome_bind_ok (outcome_get p), hmade]
    cases result <;> rfl

theorem outcome_writeText (host : Host) (path : Path) (text : String) (p : Progress) :
    (writeText host path text).outcome p =
      match p.tree.write host.here path (Text.Utf8.encode text) with
      | .ok tree => (.ok (), { p with tree })
      | .error fault => (.error (.files fault), p) := by
  rw [writeText, outcome_bind_ok (outcome_get p)]
  cases p.tree.write host.here path (Text.Utf8.encode text) <;> rfl

end Job

namespace FileTree

/-! ## Writing a project -/

/-- The ways in which writing a project ends, with the result or fault and the tree that is left. -/
inductive Written (t : FileTree) (here : Place) (folder : Path) (a : Artifacts) :
    Except Files.Fault Path → FileTree → Prop
  | noDirectory {fault : Files.Fault} {made : FileTree} :
    t.makeDirectories here (Job.sourceFolder folder) = (.error fault, made) →
    Written t here folder a (.error fault) made
  | noManifest {fault : Files.Fault} {made : FileTree} :
    t.makeDirectories here (Job.sourceFolder folder) = (.ok (), made) →
    made.write here (Job.manifestPath folder) (Text.Utf8.encode a.manifest) = .error fault →
    Written t here folder a (.error fault) made
  | noSource {fault : Files.Fault} {made half : FileTree} :
    t.makeDirectories here (Job.sourceFolder folder) = (.ok (), made) →
    made.write here (Job.manifestPath folder) (Text.Utf8.encode a.manifest) = .ok half →
    half.write here (Job.sourcePath folder) (Text.Utf8.encode a.source) = .error fault →
    Written t here folder a (.error fault) half
  | full {made half after : FileTree} :
    t.makeDirectories here (Job.sourceFolder folder) = (.ok (), made) →
    made.write here (Job.manifestPath folder) (Text.Utf8.encode a.manifest) = .ok half →
    half.write here (Job.sourcePath folder) (Text.Utf8.encode a.source) = .ok after →
    Written t here folder a (.ok (Job.sourcePath folder)) after

end FileTree

namespace Job

theorem outcome_writeProject (host : Host) (a : Artifacts) (output? : Option Path) (p : Progress) :
    ∃ result after events,
      p.tree.Written host.here
        (projectFolder (output?.getD (.ofString defaultOutput)) a.project) a result after ∧
      (writeProject host a.manifest a.source a.project output?).outcome p
        = (result.mapError .files, ⟨after, events, p.commands⟩) := by
  rw [writeProject]
  generalize projectFolder (output?.getD (.ofString defaultOutput)) a.project = folder
  have hmade := outcome_makeDirectories host (sourceFolder folder) p
  cases hmake : p.tree.makeDirectories host.here (sourceFolder folder) with
  | mk result made =>
    rw [hmake] at hmade
    cases result with
    | error fault =>
      exact ⟨_, _, _, .noDirectory hmake, outcome_bind_error hmade⟩
    | ok _ =>
      rw [outcome_bind_ok hmade]
      have hmanifest := outcome_writeText host (manifestPath folder) a.manifest
        { p with tree := made }
      cases hhalf : made.write host.here (manifestPath folder) (Text.Utf8.encode a.manifest) with
      | error fault =>
        simp only [hhalf] at hmanifest
        exact ⟨_, _, _, .noManifest hmake hhalf, outcome_bind_error hmanifest⟩
      | ok half =>
        simp only [hhalf] at hmanifest
        rw [outcome_bind_ok hmanifest]
        have hsource := outcome_writeText host (sourcePath folder) a.source { p with tree := half }
        cases hafter : half.write host.here (sourcePath folder) (Text.Utf8.encode a.source) with
        | error fault =>
          simp only [hafter] at hsource
          exact ⟨_, _, _, .noSource hmake hhalf hafter, outcome_bind_error hsource⟩
        | ok after =>
          simp only [hafter] at hsource
          rw [outcome_bind_ok hsource]
          exact ⟨_, _, _, .full hmake hhalf hafter, rfl⟩

/-! ## Formatting -/

/-- Starts a formatter if one is asked for. -/
def formatIfAsked (host : Host) (path : Path) : Option String → Job Unit
  | none => pure ()
  | some command => if command = "" then pure () else formatSource host path command

/-- A formatter leaves the files as they are.  At most one command is started, with the file as its
last word. -/
structure Formats (path : Path) (p : Progress) (left : Except Failure Unit × Progress) : Prop where
  tree : left.2.tree = p.tree
  commands : left.2.commands = p.commands ∨
    ∃ words, words ≠ [] ∧ left.2.commands = p.commands ++ [words ++ [path.text]]

theorem formats_formatWith (host : Host) (path : Path) (words : List String) (p : Progress) :
    Formats path p ((formatWith host path words).outcome p) := by
  cases words with
  | nil => exact ⟨rfl, .inl rfl⟩
  | cons tool arguments =>
    have hreport := outcome_report (.formatting path.text tool) p
    rw [formatWith, outcome_bind_ok hreport]
    cases hending : host.ending (tool :: arguments ++ [path.text]) with
    | notStarted fault =>
      simp only [hending]
      exact ⟨rfl, .inl rfl⟩
    | exited status =>
      simp only [hending]
      split
      · exact ⟨rfl, .inr ⟨tool :: arguments, List.cons_ne_nil _ _, rfl⟩⟩
      · exact ⟨rfl, .inr ⟨tool :: arguments, List.cons_ne_nil _ _, rfl⟩⟩

theorem formats_formatIfAsked (host : Host) (path : Path) (formatter? : Option String)
    (p : Progress) : Formats path p ((formatIfAsked host path formatter?).outcome p) := by
  cases formatter? with
  | none => exact ⟨rfl, .inl rfl⟩
  | some command =>
    rw [formatIfAsked]
    split
    · exact ⟨rfl, .inl rfl⟩
    · rw [formatSource]
      split
      · exact ⟨rfl, .inl rfl⟩
      · exact formats_formatWith host path _ p

/-! ## Runs -/

/-- Loads a document and generates a project from it. -/
def prepare (host : Host) (request : RunRequest) : Job Artifacts := do
  report (.loading request.schemaPath)
  let document ← load host (.ofString request.schemaPath)
  follow (Artifacts.generate document request.project request.databaseSchema)

theorem run_eq (host : Host) (request : RunRequest) :
    run host request = (do
      let artifacts ← prepare host request
      let path ←
        writeProject host artifacts.manifest artifacts.source artifacts.project request.output?
      formatIfAsked host path request.formatter?
      report (.finished request.project artifacts.entities.length)
      pure path) := by
  rw [run]
  simp only [prepare, bind_assoc]
  cases request.formatter? with
  | none => rfl
  | some command =>
    simp only [formatIfAsked]
    split <;> rfl

end Job

/-- What loading and generating give in a tree: the artifacts, or why there are none. -/
def RunRequest.generated (request : RunRequest) (here : Place) (tree : FileTree) :
    Except Failure Artifacts := do
  let document ← Job.loaded here tree (.ofString request.schemaPath)
  (Artifacts.generate document request.project request.databaseSchema).result.mapError .refused

/-- The folder that a run writes its project into. -/
def RunRequest.folder (request : RunRequest) : Path :=
  Job.projectFolder (request.output?.getD (.ofString Job.defaultOutput)) request.project

theorem Artifacts.generate_eq_ok {document : Json.Value} {project : String} {schema : Text}
    {a : Artifacts}
    (h : (generate document project schema).result = .ok a) :
    a.project = project ∧ a.manifest = manifestText project ∧
      Names.isProjectName project = true := by
  rw [generate] at h
  split at h
  · rename_i hname
    cases hbuilt : (Schema.build document).result with
    | error refusal =>
      simp only [hbuilt] at h
      cases h
    | ok entities =>
      cases hrender : render entities schema with
      | error refusal =>
        simp only [hbuilt, hrender] at h
        cases h
      | ok rendered =>
        simp only [hbuilt, hrender] at h
        cases h
        exact ⟨rfl, rfl, hname⟩
  · cases h

theorem RunRequest.generated_eq_ok {request : RunRequest} {here : Place} {tree : FileTree}
    {a : Artifacts} (h : request.generated here tree = .ok a) :
    a.project = request.project ∧ Names.isProjectName request.project = true := by
  rw [generated] at h
  obtain ⟨document, -, h⟩ := bind_eq_ok.1 h
  cases hresult : (Artifacts.generate document request.project request.databaseSchema).result with
  | error refusal =>
    rw [hresult] at h
    cases h
  | ok artifacts =>
    rw [hresult] at h
    cases h
    obtain ⟨hproject, -, hname⟩ := Artifacts.generate_eq_ok hresult
    exact ⟨hproject, hname⟩

namespace Job

variable (host : Host) {request : RunRequest} {tree : FileTree}

theorem outcome_prepare (host : Host) (request : RunRequest) (tree : FileTree) :
    ∃ events, (prepare host request).outcome ⟨tree, [], []⟩
      = (request.generated host.here tree, ⟨tree, events, []⟩) := by
  have hreport : (report (.loading request.schemaPath)).outcome ⟨tree, [], []⟩
      = (.ok (), ⟨tree, [.loading request.schemaPath], []⟩) := rfl
  have hload := outcome_load host (.ofString request.schemaPath)
    ⟨tree, [.loading request.schemaPath], []⟩
  rw [prepare, outcome_bind_ok hreport, RunRequest.generated]
  cases hloaded : loaded host.here tree (.ofString request.schemaPath) with
  | error failure =>
    rw [hloaded] at hload
    exact ⟨_, outcome_bind_error hload⟩
  | ok document =>
    rw [hloaded] at hload
    rw [outcome_bind_ok hload]
    exact ⟨_, outcome_follow _ _⟩

/-- **A run that gets no artifacts** leaves the tree as it was and starts nothing. -/
theorem run_of_generated_error {failure : Failure}
    (h : request.generated host.here tree = .error failure) :
    ∃ events, (run host request).execute tree = (.error failure, ⟨tree, events, []⟩) := by
  obtain ⟨events, hprepare⟩ := outcome_prepare host request tree
  rw [h] at hprepare
  exact ⟨events, by rw [execute_eq_outcome, run_eq, outcome_bind_error hprepare]⟩

/-- What is left of a run after its project was written, or was not. -/
structure Ends (written : Except Files.Fault Path) (after : FileTree)
    (left : Except Failure Path × Progress) : Prop where
  tree : left.2.tree = after
  result : ∀ path, left.1 = .ok path → written = .ok path
  commands : left.2.commands = [] ∨ ∃ path words, written = .ok path ∧ words ≠ [] ∧
    left.2.commands = [words ++ [path.text]]

/-- **A run that gets artifacts** writes them. -/
theorem run_of_generated {a : Artifacts} (h : request.generated host.here tree = .ok a) :
    ∃ written after, tree.Written host.here request.folder a written after ∧
      Ends written after ((run host request).execute tree) := by
  obtain ⟨hproject, -⟩ := RunRequest.generated_eq_ok h
  obtain ⟨before, hprepare⟩ := outcome_prepare host request tree
  rw [h] at hprepare
  rw [execute_eq_outcome, run_eq, outcome_bind_ok hprepare]
  obtain ⟨written, after, events, hwritten, hwrite⟩ :=
    outcome_writeProject host a request.output? ⟨tree, before, []⟩
  rw [hproject] at hwritten
  refine ⟨written, after, hwritten, ?_⟩
  cases written with
  | error fault =>
    rw [outcome_bind_error hwrite]
    exact ⟨rfl, nofun, .inl rfl⟩
  | ok path =>
    rw [outcome_bind_ok hwrite]
    obtain ⟨hsame, hcommands⟩ :=
      formats_formatIfAsked host path request.formatter? ⟨after, events, []⟩
    cases hformat : (formatIfAsked host path request.formatter?).outcome ⟨after, events, []⟩ with
    | mk result done =>
      rw [hformat] at hsame hcommands
      have hstarted : done.commands = [] ∨ ∃ path' words,
          (.ok path : Except Files.Fault Path) = .ok path' ∧ words ≠ [] ∧
            done.commands = [words ++ [path'.text]] :=
        hcommands.imp id fun ⟨words, hne, heq⟩ => ⟨path, words, rfl, hne, heq⟩
      cases result with
      | error failure =>
        rw [outcome_bind_error hformat]
        exact ⟨hsame, nofun, hstarted⟩
      | ok _ =>
        rw [outcome_bind_ok hformat]
        exact ⟨hsame, fun _ heq => by cases heq; rfl, hstarted⟩

end Job

/-! ## The paths of a project -/

namespace Job

theorem sourceFolder_eq (folder : Path) :
    sourceFolder folder = ⟨folder.root, folder.names ++ ["src"]⟩ :=
  folder.join_plainName ⟨by decide, by decide, by decide⟩

theorem manifestPath_eq (folder : Path) :
    manifestPath folder = ⟨folder.root, folder.names ++ ["pyproject.toml"]⟩ :=
  folder.join_plainName ⟨by decide, by decide, by decide⟩

theorem sourcePath_eq (folder : Path) :
    sourcePath folder = ⟨folder.root, folder.names ++ ["src", "main.py"]⟩ := by
  rw [sourcePath, Path.join_plainName _ ⟨by decide, by decide, by decide⟩, sourceFolder_eq,
    List.append_assoc]
  rfl

variable {folder : Path}

theorem isPlain_sourceFolder (h : folder.IsPlain) : (sourceFolder folder).IsPlain := h.join _

theorem isPlain_manifestPath (h : folder.IsPlain) : (manifestPath folder).IsPlain := h.join _

theorem isPlain_sourcePath (h : folder.IsPlain) : (sourcePath folder).IsPlain := (h.join _).join _

end Job

theorem RunRequest.isPlain_folder {request : RunRequest}
    (h : ∀ output ∈ request.output?, output.IsPlain) : request.folder.IsPlain := by
  refine Path.IsPlain.join ?_ _
  cases houtput : request.output? with
  | none => exact Path.isPlain_ofString _
  | some output => exact h output houtput

namespace FileTree

/-! ## What is different afterwards -/

/-- Both files of a project are there in full. -/
structure Holds (t : FileTree) (here : Place) (folder : Path) (a : Artifacts) : Prop where
  manifest : t.read here (Job.manifestPath folder) = .ok (Text.Utf8.encode a.manifest)
  source : t.read here (Job.sourcePath folder) = .ok (Text.Utf8.encode a.source)

/-- A place where something is different after a run: a new directory on the way to the program, the
manifest, or the program. -/
inductive Touched (here : Place) (folder : Path) (a : Artifacts) (before after : FileTree)
    (place : Place) : Prop
  | directory (way : List String) :
    way <+: (Job.sourceFolder folder).names → after.Leads here ⟨folder.root, way⟩ place →
    before.node? place = none → after.node? place = some .directory →
    Touched here folder a before after place
  | manifest :
    after.Leads here (Job.manifestPath folder) place →
    after.node? place = some (.file (Text.Utf8.encode a.manifest)) →
    Touched here folder a before after place
  | source :
    after.Leads here (Job.sourcePath folder) place →
    after.node? place = some (.file (Text.Utf8.encode a.source)) →
    Touched here folder a before after place

/-- Nothing is lost, and what is different is at places that a run may touch. -/
structure OnlyTouches (here : Place) (folder : Path) (a : Artifacts) (before after : FileTree) :
    Prop where
  kept : before.Keeps after
  touched : ∀ place, after.node? place ≠ before.node? place →
    Touched here folder a before after place

variable {here : Place} {folder : Path} {a : Artifacts} {before made half after : FileTree}

theorem onlyTouches_of_made
    (h : before.Made here folder.root (Job.sourceFolder folder).names made) :
    OnlyTouches here folder a before made := by
  refine ⟨h.keeps, fun place hdiffers => ?_⟩
  cases hbefore : before.node? place with
  | some node =>
    rw [hbefore, h.kept _ _ hbefore] at hdiffers
    exact absurd rfl hdiffers
  | none =>
    cases hmade : made.node? place with
    | none =>
      rw [hbefore, hmade] at hdiffers
      exact absurd rfl hdiffers
    | some node =>
      obtain ⟨rfl, way, hway, hleads⟩ := h.added _ _ hbefore hmade
      exact .directory way hway hleads hbefore hmade

/-- **A write adds at most its own place** to those that were touched. -/
theorem OnlyTouches.write (h : OnlyTouches here folder a before half) {p : Path}
    {content : List UInt8} {place : Place} (hwrote : half.Wrote here p content after place)
    (hplace : Touched here folder a before after place) :
    OnlyTouches here folder a before after := by
  refine ⟨h.kept.trans hwrote.keeps, fun other hdiffers => ?_⟩
  by_cases heq : other = place
  · rw [heq]
    exact hplace
  · have hsame := hwrote.others other heq
    rw [hsame] at hdiffers
    cases h.touched other hdiffers with
    | directory way hway hleads hnone hdirectory =>
      exact .directory way hway (hwrote.keeps.leads hleads) hnone (hsame.trans hdirectory)
    | manifest hleads hfile =>
      exact .manifest (hwrote.keeps.leads hleads) (hsame.trans hfile)
    | source hleads hfile =>
      exact .source (hwrote.keeps.leads hleads) (hsame.trans hfile)

/-- Writing the program leaves the manifest. -/
theorem Wrote.holds {place place' : Place} (hfolder : folder.IsPlain)
    (hmanifest : made.Wrote here (Job.manifestPath folder) (Text.Utf8.encode a.manifest) half place)
    (hsource : half.Wrote here (Job.sourcePath folder) (Text.Utf8.encode a.source) after place') :
    after.Holds here folder a := by
  have hne : place ≠ place' := by
    intro heq
    have hlast := hmanifest.last
    rw [heq, hsource.last, Job.sourcePath_eq, Job.manifestPath_eq] at hlast
    simp at hlast
  refine ⟨read_of_leads (Job.isPlain_manifestPath hfolder) hmanifest.fault ?_
    (hsource.keeps.leads hmanifest.leads) ?_, hsource.read (Job.isPlain_sourcePath hfolder) ?_⟩
  · simp [Job.manifestPath_eq]
  · rw [hsource.others place hne, hmanifest.there]
  · simp [Job.sourcePath_eq]

/-- What a run may leave of the files: as in `OnlyTouches`, and the program is not touched before
the manifest is there. -/
structure Leaves (here : Place) (folder : Path) (a : Artifacts) (before after : FileTree) : Prop
    extends OnlyTouches here folder a before after where
  manifestFirst : ∀ place content, after.Leads here (Job.sourcePath folder) place →
    after.node? place = some (.file content) → before.node? place ≠ some (.file content) →
    after.read here (Job.manifestPath folder) = .ok (Text.Utf8.encode a.manifest)

theorem leaves_of_made (h : before.Made here folder.root (Job.sourceFolder folder).names made) :
    Leaves here folder a before made := by
  refine ⟨onlyTouches_of_made h, fun place content _ hfile hdiffers => ?_⟩
  cases hbefore : before.node? place with
  | none =>
    cases (h.added _ _ hbefore hfile).1
  | some node =>
    rw [h.kept _ _ hbefore] at hfile
    cases hfile
    exact absurd hbefore hdiffers

theorem made_of_makeDirectories (hfolder : folder.IsPlain) {result : Except Fault Unit}
    (h : before.makeDirectories here (Job.sourceFolder folder) = (result, made)) :
    before.Made here folder.root (Job.sourceFolder folder).names made := by
  have hmade := before.makeDirectories_made here (Job.isPlain_sourceFolder hfolder)
  rw [h, Job.sourceFolder_eq] at hmade
  rw [Job.sourceFolder_eq]
  exact hmade

/-- What is different after the manifest is written. -/
theorem onlyTouches_of_manifest (hfolder : folder.IsPlain)
    (hmade : before.Made here folder.root (Job.sourceFolder folder).names made)
    (hmanifest : made.write here (Job.manifestPath folder) (Text.Utf8.encode a.manifest)
      = .ok half) :
    OnlyTouches here folder a before half ∧ ∃ place,
      made.Wrote here (Job.manifestPath folder) (Text.Utf8.encode a.manifest) half place := by
  obtain ⟨place, hwrote⟩ := exists_wrote (Job.isPlain_manifestPath hfolder) hmanifest
  exact ⟨(onlyTouches_of_made hmade).write hwrote (.manifest hwrote.leads hwrote.there),
    place, hwrote⟩

/-- **Whichever way writing a project ends,** it leaves only what it may.  The cases are the ways it
ends; each one goes one step further than the one before. -/
theorem Written.leaves {written : Except Files.Fault Path} (hfolder : folder.IsPlain)
    (h : before.Written here folder a written after) :
    Leaves here folder a before after ∧
      ∀ path, written = .ok path → path = Job.sourcePath folder ∧ after.Holds here folder a := by
  cases h with
  | noDirectory hmake => exact ⟨leaves_of_made (made_of_makeDirectories hfolder hmake), nofun⟩
  | noManifest hmake hmanifest =>
    exact ⟨leaves_of_made (made_of_makeDirectories hfolder hmake), nofun⟩
  | noSource hmake hmanifest hsource =>
    obtain ⟨htouches, place, hwrote⟩ :=
      onlyTouches_of_manifest hfolder (made_of_makeDirectories hfolder hmake) hmanifest
    have hread := hwrote.read (Job.isPlain_manifestPath hfolder) (by simp [Job.manifestPath_eq])
    exact ⟨⟨htouches, fun _ _ _ _ _ => hread⟩, nofun⟩
  | full hmake hmanifest hsource =>
    obtain ⟨htouches, place, hwrote⟩ :=
      onlyTouches_of_manifest hfolder (made_of_makeDirectories hfolder hmake) hmanifest
    obtain ⟨place', hwrote'⟩ := exists_wrote (Job.isPlain_sourcePath hfolder) hsource
    have hholds := hwrote.holds hfolder hwrote'
    refine ⟨⟨htouches.write hwrote' (.source hwrote'.leads hwrote'.there), ?_⟩, ?_⟩
    · exact fun _ _ _ _ _ => hholds.manifest
    · rintro path heq
      cases heq
      exact ⟨rfl, hholds⟩

end FileTree

/-! ## What a run may touch -/

/-- **What a run with artifacts may touch,** however it ends. -/
structure RunFrame (here : Place) (folder : Path) (a : Artifacts) (before : FileTree)
    (left : Except Failure Path × Progress) : Prop where
  leaves : FileTree.Leaves here folder a before left.2.tree
  returned : ∀ path, left.1 = .ok path →
    path = Job.sourcePath folder ∧ left.2.tree.Holds here folder a
  started : left.2.commands = [] ∨ left.2.tree.Holds here folder a ∧
    ∃ words, words ≠ [] ∧ left.2.commands = [words ++ [(Job.sourcePath folder).text]]

namespace Job

/-- **What a run may touch.**  If it gets no artifacts, nothing; and then it starts nothing.  The
output path may be any that can be read from a text. -/
theorem run_touches (host : Host) (request : RunRequest) (tree : FileTree)
    (houtput : ∀ output ∈ request.output?, output.IsPlain) :
    (∀ failure, request.generated host.here tree = .error failure →
      ∃ events, (run host request).execute tree = (.error failure, ⟨tree, events, []⟩)) ∧
    (∀ a, request.generated host.here tree = .ok a →
      RunFrame host.here request.folder a tree ((run host request).execute tree)) := by
  refine ⟨fun failure h => run_of_generated_error host h, fun a h => ?_⟩
  obtain ⟨written, after, hwritten, htree, hresult, hcommands⟩ := run_of_generated host h
  obtain ⟨hleaves, hfull⟩ := hwritten.leaves (RunRequest.isPlain_folder houtput)
  rw [← htree] at hleaves hfull
  refine ⟨hleaves, fun path hpath => hfull path (hresult path hpath), ?_⟩
  refine hcommands.imp id ?_
  rintro ⟨path, words, hpath, hne, hwords⟩
  obtain ⟨rfl, hholds⟩ := hfull path hpath
  exact ⟨hholds, words, hne, hwords⟩

/-- A working directory with an empty schema document and an older manifest. -/
def workTree : FileTree :=
  ⟨[(["w"], .directory), (["w", "schema.json"], .file [0x7b, 0x7d]), (["w", "out"], .directory),
    (["w", "out", "p"], .directory), (["w", "out", "p", "pyproject.toml"], .file [0x23])]⟩

def workRequest : RunRequest :=
  { schemaPath := "schema.json", project := "p", output? := some (.ofString "out"),
    databaseSchema := "public", formatter? := some "black -q" }

theorem isPlain_workRequest : ∀ output ∈ workRequest.output?, output.IsPlain := by
  rintro output hsome
  cases hsome
  exact Path.isPlain_ofString "out"

def workArtifacts : Artifacts := ⟨"p", manifestText "p", (renderService [] "public").result, []⟩

theorem generated_workRequest {tree : FileTree}
    (hread : tree.read ["w"] (.ofString workRequest.schemaPath) = .ok [0x7b, 0x7d]) :
    workRequest.generated ["w"] tree = .ok workArtifacts := by
  have hdocument : Document.ofBytes [0x7b, 0x7d] = .ok (.object []) := by rfl
  have hloaded : loaded ["w"] tree (.ofString workRequest.schemaPath) = .ok (.object []) := by
    rw [loaded, hread]
    simp only [hdocument]
    rfl
  rw [RunRequest.generated, hloaded]
  rfl

/-- The formatter fails after the files were written. -/
theorem run_touches_workRequest :
    (∀ output ∈ workRequest.output?, output.IsPlain) ∧
    workRequest.generated ["w"] workTree = .ok workArtifacts ∧
    RunFrame ["w"] workRequest.folder workArtifacts workTree
      ((run ⟨["w"], fun _ => .exited 1⟩ workRequest).execute workTree) := by
  have houtput := isPlain_workRequest
  have hread : workTree.read ["w"] (.ofString workRequest.schemaPath) = .ok [0x7b, 0x7d] := by
    decide +kernel
  have hgenerated := generated_workRequest hread
  exact ⟨houtput, hgenerated,
    (run_touches ⟨["w"], fun _ => .exited 1⟩ workRequest workTree houtput).2 _ hgenerated⟩

end Job
end EntityService
