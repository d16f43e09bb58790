import EntityService.CommandLine.Run
import EntityService.Proofs.PrintedValue
import EntityService.Proofs.RunEffects

/-!
# Complaints about shapes

A complaint about the shape of a value quotes the value.  The quotation is one line, and the value
can be had back from it: it is what a file with this text is loaded as.  So values that are
different are complained about differently, and no value makes a complaint look like two.

What the complaint says of the value depends on the value alone.  What is printed before it depends
on the switches: the fields of the entities that were read are listed as they stand, but only if
detail is asked for.

## What is here

* `Quotes` — a text quotes a value; `quotes_print`.
* `line_complaint` — a complaint as it reaches the console.
* `Job.run_of_build_error` — the run of a document that is refused.
* `Refusal.quotes_of_message_shape` — the main statement.
-/

set_option autoImplicit false

namespace EntityService

open EntityService.Json EntityService.CommandLine

/-! ## Quotations -/

/-- A text quotes a value: it is printable ASCII, and a file that holds it and nothing else is
loaded as the value. -/
structure Quotes (text : String) (v : Value) : Prop where
  visible : ∀ c ∈ text.toList, IsVisible c
  loaded : ∀ (host : Host) (tree : FileTree) (path : Path),
    tree.read host.here path = .ok (Text.Utf8.encode text) →
      (Job.load host path).execute tree = (.ok v, ⟨tree, [], []⟩)

theorem quotes_print {v : Value} (h : v.IsPlain) : Quotes (print v) v where
  visible := h.isVisible
  loaded := by
    intro host tree path hread
    have hloaded : Job.loaded host.here tree path = .ok v := by
      rw [Job.loaded, hread]
      simp only [ofBytes_print h]
      rfl
    rw [Job.execute_eq_outcome, Job.outcome_load, hloaded]

/-- A text quotes at most one value. -/
theorem print_injective {v w : Value} (hv : v.IsPlain) (hw : w.IsPlain) (h : print w = print v) :
    w = v := by
  have hread := ofBytes_print hw
  rw [h, ofBytes_print hv] at hread
  exact (Except.ok.inj hread).symm

namespace Refusal

theorem message_shape (v : Value) :
    (shape v).message = "Could not convert value to object: " ++ print v :=
  congrArg (fun text => "Could not convert value to object: " ++ text) (Datum.report_ofJson v)

theorem print_eq_of_message_shape {v w : Value} (h : (shape w).message = (shape v).message) :
    print w = print v :=
  (String.append_right_inj "Could not convert value to object: ").1
    ((message_shape w).symm.trans (h.trans (message_shape v)))

/-- There is no number in the way of a complaint about a plain value. -/
theorem complaint_of_isPlain {v : Value} (h : v.IsPlain) : complaint v = shape v :=
  complaint_of_none h.longNumber?_eq_none

theorem isVisible_message_shape {v : Value} (h : v.IsPlain) :
    ∀ c ∈ (shape v).message.toList, IsVisible c := by
  have hstart : ∀ c ∈ ("Could not convert value to object: ").toList, IsVisible c :=
    isVisible_of_all rfl
  rw [message_shape, String.toList_append, List.forall_mem_append]
  exact ⟨hstart, h.isVisible⟩

end Refusal

/-! ## The console -/

/-- A complaint as it reaches the console: one line, and nothing of it is lost. -/
theorem line_complaint {complaint : String} (h : ∀ c ∈ complaint.toList, IsVisible c) :
    line (plain ("Error: " ++ complaint)) = "Error: " ++ complaint ++ "\n" := by
  have hlabel : ∀ c ∈ ("Error: ").toList, IsVisible c := isVisible_of_all rfl
  have hall : ∀ c ∈ ("Error: " ++ complaint).toList, IsVisible c := by
    rw [String.toList_append, List.forall_mem_append]
    exact ⟨hlabel, h⟩
  have hplain : plain ("Error: " ++ complaint) = "Error: " ++ complaint := by
    rw [plain, Text.withoutSequences_eq_self (not_mem_of_isVisible hall (by decide)),
      String.ofList_toList]
  have hreturn : '\r' ∉ ("Error: " ++ complaint ++ "\n").toList := by
    rw [String.toList_append, List.mem_append, not_or]
    exact ⟨not_mem_of_isVisible hall (by decide), by decide⟩
  rw [hplain, line, console, Text.joinLineEnds_eq_self hreturn, String.ofList_toList]

/-! ## Runs that end in a complaint -/

namespace Job

/-- **The run of a document that is refused** ends there, with what was reported on the way. -/
theorem run_of_build_error (host : Host) {request : RunRequest} {tree : FileTree}
    {document : Value} {refusal : Refusal}
    (hloaded : loaded host.here tree (.ofString request.schemaPath) = .ok document)
    (hname : Names.isProjectName request.project = true)
    (hbuild : (Schema.build document).result = .error refusal) :
    (run host request).execute tree = (.error (.refused refusal),
      ⟨tree, .loading request.schemaPath :: (Schema.build document).events, []⟩) := by
  have hreport : (report (.loading request.schemaPath)).outcome ⟨tree, [], []⟩
      = (.ok (), ⟨tree, [.loading request.schemaPath], []⟩) := rfl
  have hload := outcome_load host (.ofString request.schemaPath)
    ⟨tree, [.loading request.schemaPath], []⟩
  rw [hloaded] at hload
  have hgenerate : Artifacts.generate document request.project request.databaseSchema
      = ⟨(Schema.build document).events, .error refusal⟩ := by
    simp only [Artifacts.generate, if_pos hname, hbuild]
  have hprepare : (prepare host request).outcome ⟨tree, [], []⟩ = (.error (.refused refusal),
      ⟨tree, .loading request.schemaPath :: (Schema.build document).events, []⟩) := by
    rw [prepare, outcome_bind_ok hreport, outcome_bind_ok hload, outcome_follow, hgenerate]
    rfl
  rw [execute_eq_outcome, run_eq, outcome_bind_error hprepare]

end Job

/-- Nothing but entities is reported before a document is refused. -/
theorem Schema.events_of_build_error {document : Value} {refusal : Refusal}
    (h : (build document).result = .error refusal) :
    ∃ entities : List Entity, (build document).events = entities.map .entityRead := by
  unfold build at h ⊢
  split at h
  · split at h
    · rename_i entities _ heq
      exact ⟨entities, rfl⟩
    · cases h
  · exact ⟨[], rfl⟩

/-- Entities are shown only if detail is asked for. -/
theorem eventLines_entities (quiet : Bool) (path : String) (entities : List Entity) :
    eventLines false quiet (.loading path :: entities.map .entityRead)
      = if quiet then "" else line (Event.message (.loading path)).shown := by
  have hentities : (entities.map Event.entityRead).filter (shows false quiet) = [] := by
    rw [List.filter_eq_nil_iff, List.forall_mem_map]
    intro e _
    rw [shows, Event.level]
    cases quiet <;> decide
  rw [eventLines, List.filter_cons, hentities]
  cases quiet with
  | true => rfl
  | false =>
    have hshown : shows false false (.loading path) = true := rfl
    rw [if_pos hshown, List.map_singleton, String.join_cons, String.join_nil, String.append_empty,
      if_neg Bool.false_ne_true]

namespace CommandLine.Invocation

/-- What is printed before a document is refused. -/
def linesBefore (i : Invocation) (document : Value) : String :=
  eventLines i.verbose i.quiet (.loading i.schemaFile.text :: (Schema.build document).events)

variable (i : Invocation) {host : Host} {tree : FileTree} {refusal : Refusal}

theorem run_of_refused {progress : Progress} (hreported : refusal.isReported = true)
    (h : (Job.run host i.request).execute tree = (.error (.refused refusal), progress)) :
    i.run host tree = ⟨1, "", eventLines i.verbose i.quiet progress.events
      ++ line (plain ("Error: " ++ refusal.message)), none, progress⟩ := by
  unfold run
  simp only [h, Failure.report?, if_pos hreported]

/-- What a refused document leaves on standard error. -/
theorem stderr_of_build_error {document : Value}
    (hloaded : Job.loaded host.here tree (.ofString i.schemaFile.text) = .ok document)
    (hname : Names.isProjectName i.project = true)
    (hbuild : (Schema.build document).result = .error refusal)
    (hreported : refusal.isReported = true) :
    (i.run host tree).stderr
      = i.linesBefore document ++ line (plain ("Error: " ++ refusal.message)) := by
  have hrun : (Job.run host i.request).execute tree = (.error (.refused refusal),
      ⟨tree, .loading i.schemaFile.text :: (Schema.build document).events, []⟩) :=
    Job.run_of_build_error host hloaded hname hbuild
  exact congrArg Outcome.stderr (i.run_of_refused hreported hrun)

theorem linesBefore_eq {document : Value} (hverbose : i.verbose = false)
    (hbuild : (Schema.build document).result = .error refusal) :
    i.linesBefore document
      = if i.quiet then "" else line (Event.message (.loading i.schemaFile.text)).shown := by
  obtain ⟨entities, hevents⟩ := Schema.events_of_build_error hbuild
  rw [linesBefore, hverbose, hevents, eventLines_entities]

end CommandLine.Invocation

/-- **A complaint about a shape quotes the value on one line and loses nothing of it.**  Unless
detail is asked for, nothing else on standard error depends on the document. -/
theorem Refusal.quotes_of_message_shape {v : Value} (h : v.IsPlain) :
    (∃ text, (shape v).message = "Could not convert value to object: " ++ text ∧ Quotes text v) ∧
    (∀ w : Value, w.IsPlain → (shape w).message = (shape v).message → w = v) ∧
    ∀ (i : Invocation) (host : Host) (tree : FileTree) (document : Value),
      Job.loaded host.here tree (.ofString i.schemaFile.text) = .ok document →
      Names.isProjectName i.project = true →
      (Schema.build document).result = .error (.shape v) →
        (i.run host tree).stderr
          = i.linesBefore document ++ ("Error: " ++ (shape v).message ++ "\n") ∧
        (i.verbose = false → i.linesBefore document
          = if i.quiet then "" else line (Event.message (.loading i.schemaFile.text)).shown) := by
  refine ⟨⟨print v, message_shape v, quotes_print h⟩, ?_, ?_⟩
  · intro w hw heq
    exact print_injective h hw (print_eq_of_message_shape heq)
  · intro i host tree document hloaded hname hbuild
    refine ⟨?_, fun hverbose => i.linesBefore_eq hverbose hbuild⟩
    rw [i.stderr_of_build_error hloaded hname hbuild rfl, line_complaint (isVisible_message_shape h)]

/-! ## A complaint about an array -/

/-- A value with a character above U+FFFF, an end of a line, and keys that are not in order. -/
def oddArray : Value :=
  .array [.object [("b", .int (-12)), ("a", .string ("é😀\n\"" : String))], .null, .bool true]

/-- A document whose only definition is that value. -/
def oddDocument : Value := .object [("Order", oddArray)]

theorem isPlain_oddArray : oddArray.IsPlain := by
  have hwritable : Number.isWritable (-12) = true :=
    Number.isWritable_of_lt (show 2 ≤ Number.maxDigits by decide) (by decide)
  have hobject : Value.IsPlain
      (.object [("b", .int (-12)), ("a", .string ("é😀\n\"" : String))]) := by
    refine .object (by decide) ?_ ?_
    · simp only [Mapping.keys_cons, Mapping.keys_nil, List.forall_mem_cons]
      exact ⟨⟨_, rfl⟩, ⟨_, rfl⟩, List.forall_mem_nil _⟩
    · simp only [List.forall_mem_cons]
      exact ⟨.int hwritable, .string _, List.forall_mem_nil _⟩
  refine .array ?_
  simp only [List.forall_mem_cons]
  exact ⟨hobject, .null, .bool true, List.forall_mem_nil _⟩

theorem isPlain_oddDocument : oddDocument.IsPlain := by
  refine .object (by decide) ?_ ?_
  · simp only [Mapping.keys_cons, Mapping.keys_nil, List.forall_mem_cons]
    exact ⟨⟨_, rfl⟩, List.forall_mem_nil _⟩
  · simp only [List.forall_mem_cons]
    exact ⟨isPlain_oddArray, List.forall_mem_nil _⟩

/-- A working directory in which all commands end well. -/
def workHost : Host := ⟨["w"], fun _ => .exited 0⟩

/-- A working directory with one file. -/
def fileTree (text : String) : FileTree :=
  ⟨[(["w"], .directory), (["w", "v.json"], .file (Text.Utf8.encode text))]⟩

theorem read_fileTree (text : String) :
    (fileTree text).read ["w"] (.ofString "v.json") = .ok (Text.Utf8.encode text) := by
  rfl

def quietInvocation : Invocation :=
  { schemaFile := .ofString "v.json", project := "p", output := .ofString "out",
    databaseSchema := "public", format := false, formatter := "black", verbose := false,
    quiet := true }

/-- The complaint about the value is all that is printed, and the value can be had back from it. -/
theorem Refusal.quotes_of_message_shape_oddArray :
    oddArray.IsPlain ∧
    (∃ text, (shape oddArray).message = "Could not convert value to object: " ++ text ∧
      (Job.load workHost (.ofString "v.json")).execute (fileTree text)
        = (.ok oddArray, ⟨fileTree text, [], []⟩)) ∧
    (quietInvocation.run workHost (fileTree (print oddDocument))).stderr
      = "Error: " ++ (shape oddArray).message ++ "\n" := by
  obtain ⟨⟨text, hmessage, hquotes⟩, -, hconsole⟩ := quotes_of_message_shape isPlain_oddArray
  have hloaded : Job.loaded ["w"] (fileTree (print oddDocument))
      (.ofString quietInvocation.schemaFile.text) = .ok oddDocument := by
    have hpath : quietInvocation.schemaFile.text = "v.json" := by decide
    rw [hpath, Job.loaded, read_fileTree]
    simp only [ofBytes_print isPlain_oddDocument]
    rfl
  have hbuild : (Schema.build oddDocument).result = .error (shape oddArray) :=
    congrArg Except.error (complaint_of_isPlain isPlain_oddArray)
  obtain ⟨hstderr, hbefore⟩ := hconsole quietInvocation workHost _ _ hloaded (by decide) hbuild
  refine ⟨isPlain_oddArray, ⟨text, hmessage, hquotes.loaded _ _ _ (read_fileTree text)⟩, ?_⟩
  rw [hstderr, hbefore rfl]
  rfl

end EntityService
