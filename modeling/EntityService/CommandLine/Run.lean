import EntityService.CommandLine.Invocation
import EntityService.Text.ControlSequence

/-!
# Running a command line

A command line is parsed and followed.  The events of the run go to standard error, one a line; how
many of them is up to the switches.  The path of the program goes to standard output.

Results and complaints are printed without control sequences, events as they are.  In all that is
printed a line end of two characters becomes one, and half of a surrogate pair is written out.

## What is here

* `shows` — which events are printed.
* `plain`, `console`, `line` — a text without control sequences, and a text and a line as they reach
  the console.
* `eventLines` — events as they are printed.
* `Outcome` — what an invocation leaves: its exit code, what it printed, a failure that is not
  reported in words, and the progress of its job.
* `Invocation.run`, `run` — following an invocation, and a command line.
-/

set_option autoImplicit false

namespace EntityService.CommandLine

/-- Which events are printed: all of them if the user wants detail, none if the user wants quiet,
and otherwise the steps that were taken. -/
def shows (verbose quiet : Bool) (event : Event) : Bool :=
  verbose || (!quiet && event.level == .info)

/-- What an invocation leaves. -/
structure Outcome where
  exitCode : Nat
  stdout : String
  stderr : String
  escaped? : Option Failure
  progress : Progress

/-- A text without its control sequences. -/
def plain (text : String) : String := String.ofList (Text.withoutSequences text.toList)

/-- A text as it reaches the console. -/
def console (text : String) : String := String.ofList (Text.joinLineEnds text.toList)

/-- A line as it reaches the console. -/
def line (text : String) : String := console (text ++ "\n")

/-- Events as lines. -/
def eventLines (verbose quiet : Bool) (events : List Event) : String :=
  String.join ((events.filter (shows verbose quiet)).map fun e => line e.message.shown)

/-- The run that an invocation asks for. -/
def Invocation.request (i : Invocation) : RunRequest :=
  { schemaPath := i.schemaFile.text
    project := i.project
    output? := some i.output
    databaseSchema := i.databaseSchema
    formatter? := if i.format then some i.formatter else none }

/-- Follows an invocation from a file tree. -/
def Invocation.run (i : Invocation) (host : Host) (tree : FileTree) : Outcome :=
  let (result, progress) := (Job.run host i.request).execute tree
  let lines := eventLines i.verbose i.quiet progress.events
  match result with
  | .ok path => ⟨0, line (plain path.text), lines, none, progress⟩
  | .error failure =>
    match failure.report? with
    | some report => ⟨1, "", lines ++ line (plain ("Error: " ++ report)), none, progress⟩
    | none => ⟨1, "", lines, some failure, progress⟩

/-- Follows a command line from a file tree. -/
def run (host : Host) (environment : Environment) (tree : FileTree) (words : List String) :
    Outcome :=
  match Demand.parse tree host environment words with
  | .ok .help => ⟨0, helpText, "", none, ⟨tree, [], []⟩⟩
  | .ok (.run invocation) => invocation.run host tree
  | .error (.usage fault) => ⟨2, "", console (plain fault.text), none, ⟨tree, [], []⟩⟩
  | .error (.files fault) => ⟨1, "", "", some (.files fault), ⟨tree, [], []⟩⟩

end EntityService.CommandLine
