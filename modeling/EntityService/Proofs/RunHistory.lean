import EntityService.Proofs.OutputSite

/-!
# Histories of runs

Runs follow each other with one output directory.  At first nothing is there.  What is there later
is decided by the artifacts of the runs that got some: the last ones for each project, whatever
happened in between.

The proof compares trees by what is at each place.  A run that gets artifacts changes these as
`Site.install` says, and any other run changes nothing; so a history of runs is a fold of
`Site.install`, and what is said about histories is said about this fold.

## What is here

* `Step`, `treeAfter`, `passed` — runs, the tree that they leave, and the artifacts that they get.
* `Site.Tidy.after_eq`, `Site.Tidy.treeAfter_eq` — what a run and a history of runs change.
* `Site.History`, `Site.Vacant.history` — the last artifacts of each project are there, and nothing
  else is.
* `Site.SchemaOutside`, `Site.Tidy.artifacts?_after` — documents outside the output directory are
  read alike before and after a run.
* `Site.projects_do_not_interfere` — a run made again changes nothing, and runs of two projects
  commute.
-/

set_option autoImplicit false

namespace EntityService

open EntityService.Files FileTree

/-! ## Runs one after the other -/

/-- A run of a history, with what becomes of commands. -/
structure Step where
  ending : List String → Ending
  request : RunRequest

namespace Step

/-- The tree that a run leaves. -/
def after (step : Step) (here : Place) (t : FileTree) : FileTree :=
  ((Job.run ⟨here, step.ending⟩ step.request).execute t).2.tree

/-- The artifacts of a run that gets past generating. -/
def artifacts? (step : Step) (here : Place) (t : FileTree) : Option Artifacts :=
  (step.request.generated here t).toOption

theorem project_of_artifacts? {step : Step} {here : Place} {t : FileTree} {a : Artifacts}
    (h : step.artifacts? here t = some a) :
    a.project = step.request.project ∧ Names.isProjectName step.request.project = true := by
  rw [artifacts?] at h
  cases hresult : step.request.generated here t with
  | error failure =>
    rw [hresult] at h
    cases h
  | ok a' =>
    rw [hresult] at h
    cases h
    exact RunRequest.generated_eq_ok hresult

end Step

/-- The tree that runs leave. -/
def treeAfter (here : Place) (t : FileTree) (steps : List Step) : FileTree :=
  steps.foldl (fun t step => step.after here t) t

/-- The artifacts of the runs that get past generating, each in the tree that the runs before it
leave. -/
def passed (here : Place) : FileTree → List Step → List Artifacts
  | _, [] => []
  | t, step :: steps => (step.artifacts? here t).toList ++ passed here (step.after here t) steps

/-- The last artifacts of a project. -/
def lastOf (project : String) (as : List Artifacts) : Option Artifacts :=
  (as.filter (·.project = project)).getLast?

theorem treeAfter_nil (here : Place) (t : FileTree) : treeAfter here t [] = t := rfl

theorem treeAfter_cons (here : Place) (t : FileTree) (step : Step) (steps : List Step) :
    treeAfter here t (step :: steps) = treeAfter here (step.after here t) steps := by
  rw [treeAfter, List.foldl_cons, treeAfter]

theorem treeAfter_append (here : Place) (t : FileTree) (steps more : List Step) :
    treeAfter here t (steps ++ more) = treeAfter here (treeAfter here t steps) more :=
  List.foldl_append

theorem lastOf_concat (project : String) (as : List Artifacts) (a : Artifacts) :
    lastOf project (as ++ [a]) = if a.project = project then some a else lastOf project as := by
  rw [lastOf, List.filter_append]
  split
  · rename_i h
    rw [List.filter_cons_of_pos (by simpa using h), List.filter_nil, List.getLast?_concat]
  · rename_i h
    rw [List.filter_cons_of_neg (by simpa using h), List.filter_nil, List.append_nil]
    rfl

theorem mem_of_lastOf {project : String} {as : List Artifacts} {a : Artifacts}
    (h : lastOf project as = some a) : a ∈ as ∧ a.project = project := by
  have hmem := List.mem_of_getLast? h
  rw [List.mem_filter, decide_eq_true_eq] at hmem
  exact hmem

theorem exists_step_of_mem_passed {here : Place} {t : FileTree} {steps : List Step} {a : Artifacts}
    (h : a ∈ passed here t steps) :
    ∃ step ∈ steps, a.project = step.request.project ∧
      Names.isProjectName step.request.project = true := by
  induction steps generalizing t with
  | nil => exact absurd h List.not_mem_nil
  | cons step steps ih =>
    rw [passed, List.mem_append, Option.mem_toList] at h
    rcases h with h | h
    · exact ⟨step, List.mem_cons_self, Step.project_of_artifacts? h⟩
    · obtain ⟨step', hmem, hstep'⟩ := ih h
      exact ⟨step', List.mem_cons_of_mem _ hmem, hstep'⟩

namespace Site

variable {site : Site} {t : FileTree}

/-- What artifacts change one after the other. -/
def installAll (site : Site) (as : List Artifacts) (nodes : Place → Option Node) :
    Place → Option Node :=
  as.foldl (fun nodes a => site.install a nodes) nodes

theorem installAll_append (as more : List Artifacts) (nodes : Place → Option Node) :
    site.installAll (as ++ more) nodes = site.installAll more (site.installAll as nodes) :=
  List.foldl_append

/-- **One run** changes what its artifacts say. -/
theorem Tidy.after_eq (h : site.Tidy t) {step : Step} (hfits : site.Fits step.request) :
    (step.after site.here t).node? = site.installAll (step.artifacts? site.here t).toList t.node? ∧
      site.Tidy (step.after site.here t) := by
  cases hgenerated : step.request.generated site.here t with
  | error failure =>
    have hnone : step.artifacts? site.here t = none := by rw [Step.artifacts?, hgenerated]; rfl
    obtain ⟨events, hrun⟩ := Job.run_of_generated_error ⟨site.here, step.ending⟩ hgenerated
    have hafter : step.after site.here t = t := by rw [Step.after, hrun]
    rw [hnone, hafter]
    exact ⟨rfl, h⟩
  | ok a =>
    have hsome : step.artifacts? site.here t = some a := by rw [Step.artifacts?, hgenerated]; rfl
    obtain ⟨hproject, hname⟩ := RunRequest.generated_eq_ok hgenerated
    obtain ⟨written, after, hwritten, hends⟩ :=
      Job.run_of_generated ⟨site.here, step.ending⟩ hgenerated
    have hfolder : step.request.folder = site.folder a.project := by
      rw [RunRequest.folder, hfits.output, hproject]
      rfl
    have hp := hfits.nameable hname
    rw [← hproject] at hp
    rw [hfolder] at hwritten
    have hnodes := h.written hp hwritten
    rw [← hends.tree] at hnodes
    rw [hsome]
    exact ⟨hnodes, h.install hnodes⟩

/-- **A history of runs** changes what the artifacts say that runs get on the way, by induction on
the runs. -/
theorem Tidy.treeAfter_eq (h : site.Tidy t) {steps : List Step}
    (hfits : ∀ step ∈ steps, site.Fits step.request) :
    (treeAfter site.here t steps).node? = site.installAll (passed site.here t steps) t.node? ∧
      site.Tidy (treeAfter site.here t steps) := by
  induction steps generalizing t with
  | nil => exact ⟨rfl, h⟩
  | cons step steps ih =>
    obtain ⟨hnodes, htidy⟩ := h.after_eq (hfits step List.mem_cons_self)
    obtain ⟨hrest, htidy'⟩ := ih htidy fun other hmem => hfits other (List.mem_cons_of_mem _ hmem)
    rw [treeAfter_cons, hrest, hnodes, passed, installAll_append]
    exact ⟨rfl, htidy'⟩

/-! ## What is there in the end -/

/-- At the place of a file of a project there is what the last artifacts of the project say. -/
theorem installAll_file {place : Place} {project : String} {content : Artifacts → List UInt8}
    (hplace : ∀ a nodes, site.install a nodes place
      = if a.project = project then some (.file (content a)) else nodes place)
    (as : List Artifacts) {nodes : Place → Option Node} (hnone : nodes place = none) :
    site.installAll as nodes place = (lastOf project as).map fun a => .file (content a) := by
  induction as using List.reverseRecOn with
  | nil => exact hnone
  | append_singleton as a ih =>
    rw [installAll, List.foldl_append, List.foldl_cons, List.foldl_nil, hplace, lastOf_concat]
    split
    · rfl
    · exact ih

/-- On the way to the program of a project that has artifacts there are directories. -/
theorem installAll_onWay {place : Place} {p : String}
    (hplace : OnWay site.parent (site.way p) place) {as : List Artifacts} {a : Artifacts}
    (ha : a ∈ as) (hproject : a.project = p) (nodes : Place → Option Node) :
    site.installAll as nodes place = some .directory := by
  induction as using List.reverseRecOn with
  | nil => exact absurd ha List.not_mem_nil
  | append_singleton as last ih =>
    rw [installAll, List.foldl_append, List.foldl_cons, List.foldl_nil, install_of_onWay hplace]
    split
    · rfl
    · rename_i hother
      refine ih ((List.mem_append.1 ha).resolve_right ?_)
      rw [List.mem_singleton]
      rintro rfl
      exact hother (by rwa [hproject])

/-- Only reserved places change. -/
theorem installAll_of_not_reserved {place : Place} (h : ¬site.Reserved place)
    (as : List Artifacts) {nodes : Place → Option Node}
    (hparent : nodes site.parent = some .directory) :
    site.installAll as nodes place = nodes place := by
  have hparentFree : ¬site.Reserved site.parent := fun hreserved => hreserved.2 rfl
  induction as generalizing nodes with
  | nil => rfl
  | cons a as ih =>
    have hsame := install_of_not_reserved (a := a) hparent hparentFree
    rw [installAll, List.foldl_cons]
    refine (ih (hsame.trans hparent)).trans ?_
    exact install_of_not_reserved hparent h

/-- **What a history of runs leaves,** told by the artifacts that runs got on the way. -/
structure History (site : Site) (before after : FileTree) (as : List Artifacts) : Prop where
  manifest : ∀ p, after.node? (site.manifestPlace p)
    = (lastOf p as).map fun a => .file (Text.Utf8.encode a.manifest)
  source : ∀ p, after.node? (site.sourcePlace p)
    = (lastOf p as).map fun a => .file (Text.Utf8.encode a.source)
  holds : ∀ p a, lastOf p as = some a → after.Holds site.here (site.folder p) a
  nothingElse : ∀ place content, site.base <+: place → after.node? place = some (.file content) →
    ∃ p, place = site.manifestPlace p ∨ place = site.sourcePlace p
  outside : ∀ place content, ¬site.base <+: place →
    (after.node? place = some (.file content) ↔ before.node? place = some (.file content))

theorem Vacant.history (h : site.Vacant t) {steps : List Step}
    (hfits : ∀ step ∈ steps, site.Fits step.request) :
    site.History t (treeAfter site.here t steps) (passed site.here t steps) := by
  obtain ⟨hnodes, htidy⟩ := h.tidy.treeAfter_eq hfits
  have hmanifest : ∀ p, (treeAfter site.here t steps).node? (site.manifestPlace p)
      = (lastOf p (passed site.here t steps)).map fun a => .file (Text.Utf8.encode a.manifest) := by
    intro p
    rw [hnodes]
    exact installAll_file (fun a nodes => install_manifestPlace a nodes p) _
      (h.free _ (reserved_manifestPlace p))
  have hsource : ∀ p, (treeAfter site.here t steps).node? (site.sourcePlace p)
      = (lastOf p (passed site.here t steps)).map fun a => .file (Text.Utf8.encode a.source) := by
    intro p
    rw [hnodes]
    exact installAll_file (fun a nodes => install_sourcePlace a nodes p) _
      (h.free _ (reserved_sourcePlace p))
  refine ⟨hmanifest, hsource, fun p a hlast => ?_, fun place content hbase hnode => ?_,
    fun place content hbase => ?_⟩
  · obtain ⟨hmem, hproject⟩ := mem_of_lastOf hlast
    obtain ⟨step, hstep, hrequest, hname⟩ := exists_step_of_mem_passed hmem
    have hp := (hfits step hstep).nameable hname
    rw [← hrequest, hproject] at hp
    have hready : site.Ready (treeAfter site.here t steps) p := by
      refine ⟨htidy.leads, fun place hplace => ?_⟩
      rw [hnodes]
      exact installAll_onWay hplace hmem hproject _
    exact hready.holds hp (by rw [hmanifest, hlast]; rfl) (by rw [hsource, hlast]; rfl)
  · refine htidy.file place content (reserved_of_base hbase ?_) hnode
    rintro rfl
    rw [htidy.directory] at hnode
    cases hnode
  · by_cases hreserved : site.Reserved place
    · constructor
      · intro hnode
        obtain ⟨p, rfl | rfl⟩ := htidy.file place content hreserved hnode
        · exact absurd (List.prefix_append _ _) hbase
        · exact absurd (List.prefix_append _ _) hbase
      · intro hnode
        rw [h.free place hreserved] at hnode
        cases hnode
    · rw [hnodes, installAll_of_not_reserved hreserved _ h.directory]

end Site

/-! ## Documents outside the output directory -/

namespace FileTree

variable {t t' : FileTree} {place : Place}

/-- The place that names lead to.  If they lead nowhere, the first place on their way that they ask
for in vain. -/
def goal (t : FileTree) : Place → List String → Place
  | place, [] => place
  | place, name :: names =>
    match t.step place name with
    | .ok next => t.goal next names
    | .error _ => place ++ [name]

theorem goal_of_follow {names : List String} {next : Place}
    (h : t.follow place names = .ok next) : t.goal place names = next := by
  induction names generalizing place with
  | nil => exact Except.ok.inj h
  | cons name names ih =>
    rw [follow] at h
    rw [goal]
    cases hstep : t.step place name with
    | error cause =>
      rw [hstep] at h
      cases h
    | ok middle =>
      rw [hstep] at h
      exact ih h

theorem step_congr {name : String} (hplace : t'.node? place = t.node? place)
    (hnext : t'.node? (place ++ [name]) = t.node? (place ++ [name])) :
    t'.step place name = t.step place name := by
  rw [step, step, hplace, hnext]

end FileTree

namespace Site

variable {site : Site} {t t' : FileTree}

theorem Reserved.concat {place : Place} (h : site.Reserved place) (name : String) :
    site.Reserved (place ++ [name]) := by
  refine ⟨h.1.trans (List.prefix_append _ _), fun heq => ?_⟩
  have hlength := h.1.length_le
  rw [← heq, List.length_append, List.length_append, List.length_singleton] at hlength
  omega

/-- **A way whose goal is not reserved** is the same after more nodes were put at reserved places.
As far as it leads it still does, and where it ends in vain there is still nothing. -/
theorem follow_congr (hkeeps : t.Keeps t')
    (hsame : ∀ place, ¬site.Reserved place → t'.node? place = t.node? place)
    {place : Place} {names : List String} (hgoal : ¬site.Reserved (t.goal place names)) :
    t'.follow place names = t.follow place names := by
  induction names generalizing place with
  | nil => rfl
  | cons name names ih =>
    rw [goal] at hgoal
    rw [follow, follow]
    cases hstep : t.step place name with
    | ok next =>
      rw [hstep] at hgoal
      rw [hkeeps.step hstep]
      exact ih hgoal
    | error cause =>
      rw [hstep] at hgoal
      have hplace : ¬site.Reserved place := fun hreserved => hgoal (hreserved.concat name)
      rw [step_congr (hsame _ hplace) (hsame _ hgoal), hstep]

theorem look_congr (hkeeps : t.Keeps t')
    (hsame : ∀ place, ¬site.Reserved place → t'.node? place = t.node? place) {text : String}
    (hgoal : ¬site.Reserved (t.goal (start site.here (Path.rootOf text)) (Path.pieces text))) :
    t'.look site.here text = t.look site.here text := by
  rw [look, look, follow_congr hkeeps hsame hgoal]
  cases hfollow : t.follow (start site.here (Path.rootOf text)) (Path.pieces text) with
  | error cause => rfl
  | ok place =>
    rw [goal_of_follow hfollow] at hgoal
    simp only [hsame place hgoal]

/-- The schema file lies outside the output directory: the schema path leads to some other place, or
it leads nowhere and what it asks for in vain is some other place.  A path through an output
directory that is not there yet is not of this kind: it leads nowhere now, and somewhere after a
run. -/
def SchemaOutside (site : Site) (t : FileTree) (request : RunRequest) : Prop :=
  ¬site.Reserved (t.goal (start site.here (Path.rootOf (Path.ofString request.schemaPath).text))
    (Path.pieces (Path.ofString request.schemaPath).text))

instance (site : Site) (t : FileTree) (request : RunRequest) :
    Decidable (site.SchemaOutside t request) :=
  inferInstanceAs (Decidable (¬_))

/-- A run takes nothing away, and puts something at reserved places only. -/
theorem Tidy.after_keeps (h : site.Tidy t) {step : Step} (hfits : site.Fits step.request) :
    t.Keeps (step.after site.here t) ∧ ∀ place, ¬site.Reserved place →
      (step.after site.here t).node? place = t.node? place := by
  have hnodes := (h.after_eq hfits).1
  cases hartifacts : step.artifacts? site.here t with
  | none =>
    rw [hartifacts] at hnodes
    have hnodes : (step.after site.here t).node? = t.node? := hnodes
    exact ⟨fun place node hnode => ⟨node, by rwa [hnodes], Iff.rfl⟩, fun place _ => by rw [hnodes]⟩
  | some a =>
    rw [hartifacts] at hnodes
    have hnodes : (step.after site.here t).node? = site.install a t.node? := hnodes
    refine ⟨h.keeps hnodes, fun place hplace => ?_⟩
    rw [hnodes, install_of_not_reserved h.directory hplace]

/-- **A document outside the output directory** is read alike after another run. -/
theorem Tidy.artifacts?_after (h : site.Tidy t) {first second : Step}
    (hfits : site.Fits first.request) (houtside : site.SchemaOutside t second.request) :
    second.artifacts? site.here (first.after site.here t) = second.artifacts? site.here t := by
  obtain ⟨hkeeps, hsame⟩ := h.after_keeps hfits
  have hread : (first.after site.here t).read site.here (.ofString second.request.schemaPath)
      = t.read site.here (.ofString second.request.schemaPath) := by
    rw [FileTree.read, FileTree.read, look_congr hkeeps hsame houtside]
  rw [Step.artifacts?, Step.artifacts?, RunRequest.generated, RunRequest.generated, Job.loaded,
    Job.loaded, hread]

/-! ## Repeated runs, and runs of different projects -/

theorem install_idem (a : Artifacts) (nodes : Place → Option Node) :
    site.install a (site.install a nodes) = site.install a nodes := by
  funext place
  by_cases hmanifest : place = site.manifestPlace a.project
  · rw [install, install, if_pos hmanifest, if_pos hmanifest]
  · by_cases hsource : place = site.sourcePlace a.project
    · rw [install, install, if_neg hmanifest, if_pos hsource, if_neg hmanifest, if_pos hsource]
    · simp only [install, if_neg hmanifest, if_neg hsource]
      split <;> rfl

theorem install_comm {a b : Artifacts} (hne : a.project ≠ b.project)
    (nodes : Place → Option Node) :
    site.install a (site.install b nodes) = site.install b (site.install a nodes) := by
  funext place
  by_cases hfile : ∃ p, place = site.manifestPlace p ∨ place = site.sourcePlace p
  · obtain ⟨p, rfl | rfl⟩ := hfile
    · simp only [install_manifestPlace]
      split
      · rename_i ha
        rw [if_neg (fun hb => hne (ha.trans hb.symm))]
      · rfl
    · simp only [install_sourcePlace]
      split
      · rename_i ha
        rw [if_neg (fun hb => hne (ha.trans hb.symm))]
      · rfl
  · have hmanifest : ∀ p, place ≠ site.manifestPlace p := fun p heq => hfile ⟨p, .inl heq⟩
    have hsource : ∀ p, place ≠ site.sourcePlace p := fun p heq => hfile ⟨p, .inr heq⟩
    simp only [install, if_neg (hmanifest _), if_neg (hsource _)]
    split
    · split <;> rfl
    · rfl

theorem installAll_toList_idem (a? : Option Artifacts) (nodes : Place → Option Node) :
    site.installAll a?.toList (site.installAll a?.toList nodes)
      = site.installAll a?.toList nodes := by
  cases a? with
  | none => rfl
  | some a => exact install_idem a nodes

theorem installAll_toList_comm {a? b? : Option Artifacts}
    (hne : ∀ a ∈ a?, ∀ b ∈ b?, a.project ≠ b.project) (nodes : Place → Option Node) :
    site.installAll b?.toList (site.installAll a?.toList nodes)
      = site.installAll a?.toList (site.installAll b?.toList nodes) := by
  cases a? with
  | none => rfl
  | some a =>
    cases b? with
    | none => rfl
    | some b => exact (install_comm (hne a rfl b rfl) nodes).symm

/-- Two runs, the second with a document outside the output directory: each changes what the
artifacts say that it would get first. -/
theorem Tidy.after_after_eq (h : site.Tidy t) {first second : Step}
    (hfirst : site.Fits first.request) (hsecond : site.Fits second.request)
    (houtside : site.SchemaOutside t second.request) :
    (second.after site.here (first.after site.here t)).node?
      = site.installAll (second.artifacts? site.here t).toList
          (site.installAll (first.artifacts? site.here t).toList t.node?) := by
  obtain ⟨hnodes, htidy⟩ := h.after_eq hfirst
  rw [← h.artifacts?_after hfirst houtside, ← hnodes]
  exact (htidy.after_eq hsecond).1

theorem Tidy.repeated (h : site.Tidy t) {step : Step} (hfits : site.Fits step.request)
    (houtside : site.SchemaOutside t step.request) :
    (step.after site.here (step.after site.here t)).node? = (step.after site.here t).node? := by
  rw [h.after_after_eq hfits hfits houtside, (h.after_eq hfits).1]
  exact installAll_toList_idem _ _

theorem Tidy.swapped (h : site.Tidy t) {a b : Step} (ha : site.Fits a.request)
    (hb : site.Fits b.request) (houta : site.SchemaOutside t a.request)
    (houtb : site.SchemaOutside t b.request) (hne : a.request.project ≠ b.request.project) :
    (b.after site.here (a.after site.here t)).node?
      = (a.after site.here (b.after site.here t)).node? := by
  rw [h.after_after_eq ha hb houtb, h.after_after_eq hb ha houta]
  refine installAll_toList_comm (fun first hfirst second hsecond => ?_) _
  rw [(Step.project_of_artifacts? hfirst).1, (Step.project_of_artifacts? hsecond).1]
  exact hne

/-- **Projects do not interfere.**  However runs follow each other with an output directory that is
absent or empty at first, the last artifacts of each project are there in full, and nothing else is.
So a run made again changes nothing, and runs of different projects may change places, if their
documents lie outside. -/
theorem projects_do_not_interfere (h : site.Vacant t) {steps : List Step}
    (hfits : ∀ step ∈ steps, site.Fits step.request) :
    site.History t (treeAfter site.here t steps) (passed site.here t steps) ∧
    (∀ step : Step, site.Fits step.request →
      site.SchemaOutside (treeAfter site.here t steps) step.request →
      (treeAfter site.here t (steps ++ [step, step])).node?
        = (treeAfter site.here t (steps ++ [step])).node?) ∧
    (∀ a b : Step, site.Fits a.request → site.Fits b.request →
      site.SchemaOutside (treeAfter site.here t steps) a.request →
      site.SchemaOutside (treeAfter site.here t steps) b.request →
      a.request.project ≠ b.request.project →
      (treeAfter site.here t (steps ++ [a, b])).node?
        = (treeAfter site.here t (steps ++ [b, a])).node?) := by
  obtain ⟨-, htidy⟩ := h.tidy.treeAfter_eq hfits
  refine ⟨h.history hfits, fun step hstep houtside => ?_, fun a b ha hb houta houtb hne => ?_⟩
  · simp only [treeAfter_append, treeAfter_cons, treeAfter_nil]
    exact htidy.repeated hstep houtside
  · simp only [treeAfter_append, treeAfter_cons, treeAfter_nil]
    exact htidy.swapped ha hb houta houtb hne

/-- A working directory with an empty schema document and nothing else. -/
def freshTree : FileTree :=
  ⟨[(["w"], .directory), (["w", "schema.json"], .file [0x7b, 0x7d])]⟩

/-- An output directory that is not there yet. -/
def freshSite : Site where
  here := ["w"]
  root := .relative
  existing := []
  missing := ["out"]
  parent := ["w"]
  plain := Path.isPlain_ofString "out"
  entries := by decide

/-- A run without a document. -/
def lostStep : Step :=
  ⟨fun _ => .exited 0, { Job.workRequest with schemaPath := "absent.json" }⟩

/-- A run whose formatter fails. -/
def workStep : Step := ⟨fun _ => .exited 1, Job.workRequest⟩

theorem vacant_freshSite : freshSite.Vacant freshTree := by
  refine ⟨rfl, by decide, fun place hplace => ?_⟩
  have hne : place ≠ [] := by
    rintro rfl
    exact absurd hplace (by decide)
  rw [node?, if_neg hne, Mapping.get?_eq_none_iff]
  intro hmem
  rcases List.mem_cons.1 hmem with rfl | hmem
  · exact absurd hplace (by decide)
  · rw [List.mem_singleton.1 hmem] at hplace
    exact absurd hplace (by decide)

theorem fits_freshSite : ∀ step ∈ [lostStep, workStep], freshSite.Fits step.request := by
  have hfits : freshSite.Fits Job.workRequest := ⟨by decide +kernel, fun _ => by decide +kernel⟩
  rw [List.forall_mem_cons, List.forall_mem_singleton]
  exact ⟨⟨hfits.output, hfits.short⟩, hfits⟩

theorem passed_freshTree : passed ["w"] freshTree [lostStep, workStep] = [Job.workArtifacts] := by
  have hlost : lostStep.request.generated ["w"] freshTree
      = .error (.files ⟨.noEntry, "absent.json"⟩) := by
    have hread : freshTree.read ["w"] (.ofString lostStep.request.schemaPath)
        = .error ⟨.noEntry, "absent.json"⟩ := by decide +kernel
    rw [RunRequest.generated, Job.loaded, hread]
    rfl
  have hread : freshTree.read ["w"] (.ofString Job.workRequest.schemaPath) = .ok [0x7b, 0x7d] := by
    decide +kernel
  obtain ⟨events, hrun⟩ := Job.run_of_generated_error ⟨["w"], lostStep.ending⟩ hlost
  have hafter : lostStep.after ["w"] freshTree = freshTree := by rw [Step.after, hrun]
  rw [passed, passed, passed, hafter, Step.artifacts?, Step.artifacts?, hlost, workStep,
    Job.generated_workRequest hread]
  rfl

/-- A run that fails at once, and one whose formatter fails: the project is there.  Made again, the
second run changes nothing. -/
theorem projects_do_not_interfere_freshSite :
    freshSite.Vacant freshTree ∧
    (∀ step ∈ [lostStep, workStep], freshSite.Fits step.request) ∧
    passed ["w"] freshTree [lostStep, workStep] = [Job.workArtifacts] ∧
    (treeAfter ["w"] freshTree [lostStep, workStep]).node? ["w", "out", "p", "pyproject.toml"]
      = some (.file (Text.Utf8.encode (manifestText "p"))) ∧
    (treeAfter ["w"] freshTree [lostStep, workStep]).node? ["w", "out", "q", "pyproject.toml"]
      = none ∧
    (treeAfter ["w"] freshTree [workStep, workStep]).node?
      = (treeAfter ["w"] freshTree [workStep]).node? := by
  have hmanifest := (projects_do_not_interfere vacant_freshSite fits_freshSite).1.manifest
  rw [show freshSite.here = ["w"] from rfl, passed_freshTree] at hmanifest
  have hnone : ∀ step ∈ ([] : List Step), freshSite.Fits step.request := by simp
  have hrepeated := (projects_do_not_interfere vacant_freshSite hnone).2.1 workStep
    (fits_freshSite _ (by simp)) (by rw [treeAfter_nil]; decide +kernel)
  exact ⟨vacant_freshSite, fits_freshSite, passed_freshTree, hmanifest "p", hmanifest "q",
    hrepeated⟩

end Site

end EntityService
