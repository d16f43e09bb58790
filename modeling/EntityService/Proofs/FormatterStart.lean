import EntityService.Proofs.RunEffects
import EntityService.Proofs.Verbosity

/-!
# Whether the formatter is started

If formatting is asked for and the program exits with code zero, then one would like to rely on the
formatter having run.  The command line of the formatter is split into words, and that fails, and the
run with it, if a quote is left open; it also fails if there are no words, and if the formatter does
not end well.  So the run can only succeed if the formatter was started, once, on the program.

There is one hole: a command line of no characters at all is not split, but taken for there being no
formatter, and the run succeeds without one.  A variable of the environment that is empty counts as
not set, so it takes the option itself to get there.

## What is here

* `Job.formatSource_eq_ok`, `Job.Started`, `Job.formatIfAsked_eq_ok`, `Job.run_eq_ok` — what is known
  after a success, step by step.
* `Invocation.exitCode_eq_zero_iff`, `parse_of_exitCode` — success, told from the exit code.
* `formatter_eq_empty_iff` — when the command line of the formatter is empty.
* `Invocation.StartsFormatter`, `formatter_started_iff` — the main statement.
* `emptyFormatter_skips` — a command line that asks for formatting in vain.
-/

set_option autoImplicit false

namespace EntityService

open EntityService.Text

namespace Job

/-! ## What is known after a success -/

/-- **A formatter succeeds** if its command line has words and it ends well. -/
theorem formatSource_eq_ok {host : Host} {path : Path} {command : String} {p done : Progress} :
    (formatSource host path command).outcome p = (.ok (), done) ↔
      ∃ tool arguments, ShellWords.split command = .ok (tool :: arguments) ∧
        host.ending (tool :: arguments ++ [path.text]) = .exited 0 ∧
        done = ⟨p.tree, p.events ++ [.formatting path.text tool],
          p.commands ++ [tool :: arguments ++ [path.text]]⟩ := by
  rw [formatSource]
  cases ShellWords.split command with
  | error problem =>
    simp only [outcome_fail]
    exact iff_of_false (by simp) (by simp)
  | ok words =>
    cases words with
    | nil =>
      simp only [formatWith, outcome_fail]
      exact iff_of_false (by simp) (by simp)
    | cons tool arguments =>
      have hreport := outcome_report (.formatting path.text tool) p
      simp only [formatWith, outcome_bind_ok hreport]
      cases hending : host.ending (tool :: arguments ++ [path.text]) with
      | notStarted fault =>
        refine iff_of_false (fun h => ?_) ?_
        · cases congrArg Prod.fst h
        · rintro ⟨tool', arguments', hwords, hended, -⟩
          cases hwords
          cases hending.symm.trans hended
      | exited status =>
        by_cases hstatus : status = 0
        · rw [hstatus] at hending
          simp only [if_pos hstatus]
          constructor
          · intro h
            exact ⟨tool, arguments, rfl, hending, (congrArg Prod.snd h).symm⟩
          · rintro ⟨tool', arguments', hwords, -, rfl⟩
            cases hwords
            rfl
        · simp only [if_neg hstatus]
          refine iff_of_false (fun h => ?_) ?_
          · cases congrArg Prod.fst h
          · rintro ⟨tool', arguments', hwords, hended, -⟩
            cases hwords
            cases hending.symm.trans hended
            exact hstatus rfl

/-- The commands that a run has started on a program when it succeeds, given the command line of the
formatter: the formatter, once, or nothing if there is none or its command line is empty. -/
inductive Started (path : Path) : Option String → List (List String) → Prop
  | notAsked : Started path none []
  | empty : Started path (some "") []
  | once {command : String} {call : List String} :
    ShellWords.split command = .ok call → call ≠ [] →
    Started path (some command) [call ++ [path.text]]

theorem formatIfAsked_eq_ok {host : Host} {path : Path} {formatter? : Option String}
    {p done : Progress} (hnone : p.commands = [])
    (h : (formatIfAsked host path formatter?).outcome p = (.ok (), done)) :
    Started path formatter? done.commands ∧ done.tree = p.tree := by
  cases formatter? with
  | none =>
    obtain rfl : p = done := congrArg Prod.snd h
    rw [hnone]
    exact ⟨.notAsked, rfl⟩
  | some command =>
    rw [formatIfAsked] at h
    split at h
    · rename_i hempty
      obtain rfl : p = done := congrArg Prod.snd h
      rw [hempty, hnone]
      exact ⟨.empty, rfl⟩
    · obtain ⟨tool, arguments, hsplit, -, rfl⟩ := formatSource_eq_ok.1 h
      rw [hnone]
      exact ⟨.once hsplit (List.cons_ne_nil _ _), rfl⟩

/-- **A run succeeds** if it gets artifacts, writes them, and has started the formatter on the
program that it wrote. -/
theorem run_eq_ok {host : Host} {request : RunRequest} {tree : FileTree} {path : Path}
    {done : Progress} (h : (run host request).execute tree = (.ok path, done)) :
    ∃ a, request.generated host.here tree = .ok a ∧
      tree.Written host.here request.folder a (.ok path) done.tree ∧
      Started path request.formatter? done.commands := by
  -- The steps are taken off one by one, and what each of them leaves is compared with what is known
  -- of it however it ends.
  obtain ⟨before, hprepare⟩ := outcome_prepare host request tree
  rw [execute_eq_outcome, run_eq, outcome_bind_eq_ok] at h
  obtain ⟨a, prepared, hprepared, h⟩ := h
  obtain ⟨hgenerated, rfl⟩ := Prod.mk.inj (hprepare.symm.trans hprepared)
  obtain ⟨hproject, -⟩ := RunRequest.generated_eq_ok hgenerated
  rw [outcome_bind_eq_ok] at h
  obtain ⟨path', wrote, hwrote, h⟩ := h
  obtain ⟨result, after, events, hwritten, hwrite⟩ :=
    outcome_writeProject host a request.output? ⟨tree, before, []⟩
  obtain ⟨hresult, rfl⟩ := Prod.mk.inj (hwrite.symm.trans hwrote)
  rw [outcome_bind_eq_ok] at h
  obtain ⟨_, formatted, hformatted, h⟩ := h
  obtain ⟨hstarted, htree⟩ := formatIfAsked_eq_ok rfl hformatted
  cases h
  cases result with
  | error fault => cases hresult
  | ok written =>
    cases hresult
    rw [hproject] at hwritten
    refine ⟨a, hgenerated, ?_, hstarted⟩
    rw [show formatted.tree = after from htree]
    exact hwritten

end Job

namespace CommandLine

/-! ## Command lines -/

/-- A run exits with code zero if it succeeds. -/
theorem Invocation.exitCode_eq_zero_iff (i : Invocation) (host : Host) (tree : FileTree) :
    (i.run host tree).exitCode = 0 ↔
      ∃ path, (Job.run host i.request).execute tree = (.ok path, (i.run host tree).progress) := by
  rw [i.progress_run]
  unfold run
  rcases (Job.run host i.request).execute tree with ⟨result, progress⟩
  cases result with
  | ok path => exact iff_of_true rfl ⟨path, rfl⟩
  | error failure =>
    refine iff_of_false (fun h => ?_) (by simp)
    dsimp only at h
    cases hreport : failure.report? <;> rw [hreport] at h <;> cases h

variable {host : Host} {environment : Environment} {tree : FileTree} {words : List String}

theorem environmentValue?_ne_empty (environment : Environment) (p : Parameter) :
    environmentValue? environment p ≠ some "" := by
  rw [environmentValue?]
  split
  · split
    · exact nofun
    · rename_i hne
      exact fun h => hne (Option.some.inj h)
  · exact nofun

/-- **The command line of the formatter is empty** if the last option for it says so, and only
then: neither an empty variable nor the default counts. -/
theorem formatter_eq_empty_iff (s : Sorted) (environment : Environment) (schemaFile : String) :
    (Invocation.ofSorted environment s schemaFile).formatter = "" ↔
      s.options.reverse.lookup .formatter = some (.text "") := by
  -- Without an option it is the variable, which is not empty if it counts, or else the default.
  have hfallback : (environmentValue? environment .formatter).getD Job.defaultFormatter ≠ "" := by
    cases hvalue : environmentValue? environment .formatter with
    | none => decide
    | some value =>
      rintro rfl
      exact environmentValue?_ne_empty environment _ hvalue
  rw [Invocation.ofSorted]
  simp only [textValue?]
  split
  · rename_i value hlookup
    rw [hlookup, Option.getD_some, Option.some_inj, Setting.text.injEq]
  · rename_i hother
    exact iff_of_false hfallback (hother "")

theorem Invocation.parse_eq_ok {s : Sorted} {i : Invocation}
    (h : Invocation.parse tree host environment s = .ok i) :
    ∃ schemaFile, i = .ofSorted environment s schemaFile := by
  rw [Invocation.parse] at h
  obtain ⟨_, -, h⟩ := bind_eq_ok.1 h
  split at h
  · cases h
  · rename_i schemaFile _
    cases h
    exact ⟨schemaFile, rfl⟩
  · cases h

/-- A command line that exits with code zero and does not ask for help asks for a run. -/
theorem parse_of_exitCode {s : Sorted} (hsort : sort words = .ok s)
    (hhelp : switchValue s .help = false)
    (hexit : (run host environment tree words).exitCode = 0) :
    ∃ schemaFile, Demand.parse tree host environment words
      = .ok (.run (.ofSorted environment s schemaFile)) := by
  have hparse : Demand.parse tree host environment words
      = (Invocation.parse tree host environment s).map .run := by
    simp only [Demand.parse, hsort, hhelp, Bool.false_eq_true, if_false]
  cases hinvocation : Invocation.parse tree host environment s with
  | error fault =>
    rw [run, hparse, hinvocation] at hexit
    cases fault <;> cases hexit
  | ok i =>
    obtain ⟨schemaFile, rfl⟩ := Invocation.parse_eq_ok hinvocation
    exact ⟨schemaFile, by rw [hparse, hinvocation]; rfl⟩

/-- The formatter of an invocation was started, and nothing else: the words of its command line,
which are there, and then the program that was written. -/
def Invocation.StartsFormatter (i : Invocation) (commands : List (List String)) : Prop :=
  ∃ call, Text.ShellWords.split i.formatter = .ok call ∧ call ≠ [] ∧
    commands = [call ++ [(Job.sourcePath i.request.folder).text]]

/-- What a run that succeeds and was to format has started. -/
theorem Invocation.startsFormatter_iff {i : Invocation} {commands : List (List String)}
    (hformat : i.format = true)
    (h : Job.Started (Job.sourcePath i.request.folder) i.request.formatter? commands) :
    (i.StartsFormatter commands ↔ i.formatter ≠ "") ∧ (i.formatter = "" → commands = []) := by
  have hformatter : i.request.formatter? = some i.formatter := by
    rw [Invocation.request, hformat]
    rfl
  rw [hformatter] at h
  generalize hcommand : i.formatter = command at h
  cases h with
  | empty =>
    refine ⟨iff_of_false ?_ (not_not.2 rfl), fun _ => rfl⟩
    rintro ⟨call, -, -, hcommands⟩
    cases hcommands
  | once hsplit hne =>
    -- An empty command line has no words.
    have hcommand' : command ≠ "" := by
      rintro rfl
      cases hsplit
      exact hne rfl
    refine ⟨iff_of_true ⟨_, ?_, hne, rfl⟩ hcommand', fun hempty => absurd hempty hcommand'⟩
    rw [hcommand, hsplit]

/-- **A formatter that is asked for is started, unless its command line is empty.**  If a command
line asks for formatting, and not for help, and exits with code zero, then the project was written,
and one command was started: the words of the formatter's command line, of which there is at least
one, and the path of the program.  The exception is an option that says that the command line of the
formatter is empty; then nothing was started. -/
theorem formatter_started_iff (host : Host) (environment : Environment) (tree : FileTree)
    {words : List String} {s : Sorted} (hsort : sort words = .ok s)
    (hformat : switchValue s .format = true) (hhelp : switchValue s .help = false)
    (hexit : (run host environment tree words).exitCode = 0) :
    ∃ i a, Demand.parse tree host environment words = .ok (.run i) ∧
      i.formatter = (textValue? s environment .formatter).getD Job.defaultFormatter ∧
      i.request.generated host.here tree = .ok a ∧
      (run host environment tree words).progress.tree.Holds host.here i.request.folder a ∧
      (i.StartsFormatter (run host environment tree words).progress.commands ↔
        s.options.reverse.lookup .formatter ≠ some (.text "")) ∧
      (s.options.reverse.lookup .formatter = some (.text "") →
        (run host environment tree words).progress.commands = []) := by
  obtain ⟨schemaFile, hparse⟩ := parse_of_exitCode hsort hhelp hexit
  rw [run_of_parse hparse] at hexit ⊢
  obtain ⟨path, hrun⟩ := (Invocation.exitCode_eq_zero_iff _ host tree).1 hexit
  obtain ⟨a, hgenerated, hwritten, hstarted⟩ := Job.run_eq_ok hrun
  have houtput : ∀ output ∈ (Invocation.ofSorted environment s schemaFile).request.output?,
      output.IsPlain := by
    rintro output hsome
    cases hsome
    exact Path.isPlain_ofString _
  obtain ⟨rfl, hholds⟩ := (hwritten.leaves (RunRequest.isPlain_folder houtput)).2 path rfl
  obtain ⟨hstarts, hnothing⟩ := Invocation.startsFormatter_iff hformat hstarted
  rw [Ne, formatter_eq_empty_iff] at hstarts
  rw [formatter_eq_empty_iff] at hnothing
  exact ⟨_, a, hparse, rfl, hgenerated, hholds, hstarts, hnothing⟩

/-- A command line that asks for formatting. -/
def formatWords : List String := ["schema.json", "-p", "p", "-o", "out", "--format"]

def formatSorted : Sorted :=
  ⟨[(.project, .text "p"), (.output, .text "out"), (.format, .switch true)], ["schema.json"]⟩

theorem formatter_started_formatWords :
    sort formatWords = .ok formatSorted ∧ switchValue formatSorted .format = true ∧
    switchValue formatSorted .help = false ∧
    (run workHost [] Job.workTree formatWords).exitCode = 0 ∧
    ∃ i a, Demand.parse Job.workTree workHost [] formatWords = .ok (.run i) ∧
      (run workHost [] Job.workTree formatWords).progress.tree.Holds ["w"] i.request.folder a ∧
      i.StartsFormatter (run workHost [] Job.workTree formatWords).progress.commands := by
  have hexit : (run workHost [] Job.workTree formatWords).exitCode = 0 := by decide +kernel
  have hsort : sort formatWords = .ok formatSorted := rfl
  have hformat : switchValue formatSorted .format = true := rfl
  have hhelp : switchValue formatSorted .help = false := rfl
  obtain ⟨i, a, hparse, -, -, hholds, hstarts, -⟩ :=
    formatter_started_iff workHost [] Job.workTree hsort hformat hhelp hexit
  exact ⟨hsort, hformat, hhelp, hexit, i, a, hparse, hholds, hstarts.2 (by decide)⟩

/-- The same with an empty command line for the formatter. -/
def silentWords : List String := formatWords ++ ["--formatter", ""]

def silentSorted : Sorted :=
  ⟨formatSorted.options ++ [(.formatter, .text "")], formatSorted.arguments⟩

/-- It is not so that a command line that asks for formatting, and not for help, and exits with code
zero has started a command: with an empty command line for the formatter none is started. -/
theorem emptyFormatter_skips :
    sort silentWords = .ok silentSorted ∧ switchValue silentSorted .format = true ∧
    (run workHost [] Job.workTree silentWords).exitCode = 0 ∧
    (run workHost [] Job.workTree silentWords).progress.commands = [] ∧
    ¬ ∀ (words : List String) (s : Sorted), sort words = .ok s → switchValue s .format = true →
      switchValue s .help = false → (run workHost [] Job.workTree words).exitCode = 0 →
        (run workHost [] Job.workTree words).progress.commands.length = 1 := by
  have hexit : (run workHost [] Job.workTree silentWords).exitCode = 0 := by decide +kernel
  have hnothing : (run workHost [] Job.workTree silentWords).progress.commands = [] := by
    decide +kernel
  refine ⟨rfl, rfl, hexit, hnothing, fun hall => ?_⟩
  have hone := hall silentWords silentSorted rfl rfl rfl hexit
  rw [hnothing] at hone
  cases hone

end CommandLine

end EntityService
