import EntityService.Artifacts
import EntityService.Document
import EntityService.Files.Tree
import EntityService.Signal
import EntityService.Text.ShellWords

/-!
# Jobs

A job reads and writes files, reports events and starts commands.  What it has done so far is kept
also if it fails.

## What is here

* `Failure` — why a job fails.
* `Host` — what a job meets: the working directory, and what becomes of commands.
* `Progress` — what a job has done: the files, the events and the commands it leaves.
* `Job`, `Job.execute` — jobs, and carrying one out.
* `Job.load`, `Job.writeProject`, `Job.formatSource` — the steps of a run.
* `RunRequest`, `Job.run` — a run: load, generate, write, and format if that is asked for.
-/

set_option autoImplicit false

namespace EntityService

/-- Why a job fails. -/
inductive Failure
  | refused (refusal : Refusal)
  | document (fault : Document.Fault)
  | files (fault : Files.Fault)
  | words (problem : Text.ShellWords.Problem)
  /-- There is no word that names a command. -/
  | noCommand
  /-- A command ended with a status other than zero. -/
  | exitStatus (command : List String) (status : Int)
  /-- A tool was not started. -/
  | notStarted (tool : String) (fault : StartFault)

/-- A failure in words. -/
def Failure.message : Failure → String
  | refused refusal => refusal.message
  | document fault => fault.message
  | files fault => fault.message
  | words problem => problem.message
  | noCommand => "list index out of range"
  | exitStatus command status =>
    "Command '" ++ Datum.literal (.array (command.map fun word : String => .string word)) ++ "' "
      ++ endText status
  | notStarted tool fault => fault.message tool

/-- What a failure says of the schema, if it is about the schema. -/
def Failure.report? : Failure → Option String
  | refused refusal => if refusal.isReported then some refusal.message else none
  | _ => none

/-- What a job meets. -/
structure Host where
  /-- The working directory. -/
  here : Place
  /-- What becomes of each command. -/
  ending : List String → Ending

/-- What a job has done so far. -/
structure Progress where
  tree : FileTree
  events : List Event
  commands : List (List String)

/-- A job with a result. -/
abbrev Job (α : Type) := ExceptT Failure (StateM Progress) α

namespace Job

/-- Carries out a job from a file tree: its result or failure, and what it has done. -/
def execute {α : Type} (job : Job α) (tree : FileTree) : Except Failure α × Progress :=
  Id.run (StateT.run (ExceptT.run job) ⟨tree, [], []⟩)

/-- Ends with a failure. -/
def fail {α : Type} (failure : Failure) : Job α := throw failure

/-- Reports an event. -/
def report (event : Event) : Job Unit :=
  modify fun p => { p with events := p.events ++ [event] }

/-- Reports the events on the way to a result, and goes on with the result. -/
def follow {α : Type} (reported : Reported (Except Refusal α)) : Job α := do
  modify fun p => { p with events := p.events ++ reported.events }
  match reported.result with
  | .ok a => pure a
  | .error refusal => fail (.refused refusal)

/-- The file that holds the schema document if no other one is asked for. -/
def defaultSchemaFile : String := "schema.json"

/-- The directory that receives projects if no other one is asked for. -/
def defaultOutput : String := "generated"

/-- The formatter that is started if no other one is asked for. -/
def defaultFormatter : String := "black --quiet"

/-- Loads the document in a file. -/
def load (host : Host) (path : Path) : Job Json.Value := do
  match (← get).tree.read host.here path with
  | .error fault => fail (.files fault)
  | .ok content =>
    match Document.ofBytes content with
    | .error fault => fail (.document fault)
    | .ok document => pure document

/-- Makes a directory with the directories above it. -/
def makeDirectories (host : Host) (path : Path) : Job Unit := do
  let (result, tree) := (← get).tree.makeDirectories host.here path
  modify fun p => { p with tree }
  match result with
  | .ok () => pure ()
  | .error fault => fail (.files fault)

/-- Writes a text into a file. -/
def writeText (host : Host) (path : Path) (text : String) : Job Unit := do
  match (← get).tree.write host.here path (Text.Utf8.encode text) with
  | .ok tree => modify fun p => { p with tree }
  | .error fault => fail (.files fault)

/-- The folder of a project in an output directory. -/
def projectFolder (output : Path) (project : String) : Path := output.join project

/-- The directory of a project folder that holds the program. -/
def sourceFolder (folder : Path) : Path := folder.join "src"

/-- The manifest in a project folder. -/
def manifestPath (folder : Path) : Path := folder.join "pyproject.toml"

/-- The program in a project folder. -/
def sourcePath (folder : Path) : Path := (sourceFolder folder).join "main.py"

/-- Writes a manifest and a program into a project folder: the directories first, then the manifest,
then the program.  The result is the path of the program. -/
def writeProject (host : Host) (manifest source project : String) (output? : Option Path) :
    Job Path := do
  let folder := projectFolder (output?.getD (.ofString defaultOutput)) project
  makeDirectories host (sourceFolder folder)
  writeText host (manifestPath folder) manifest
  writeText host (sourcePath folder) source
  report (.projectWritten (sourcePath folder).text)
  pure (sourcePath folder)

/-- Starts a formatter, given by its words, on a file. -/
def formatWith (host : Host) (path : Path) : List String → Job Unit
  | [] => fail .noCommand
  | tool :: arguments => do
    report (.formatting path.text tool)
    let command := tool :: arguments ++ [path.text]
    match host.ending command with
    | .notStarted fault => fail (.notStarted tool fault)
    | .exited status => do
      modify fun p => { p with commands := p.commands ++ [command] }
      if status = 0 then pure () else fail (.exitStatus command status)

/-- Starts a formatter, given by a command line, on a file. -/
def formatSource (host : Host) (path : Path) (command : String) : Job Unit :=
  match Text.ShellWords.split command with
  | .error problem => fail (.words problem)
  | .ok words => formatWith host path words

end Job

/-- What a run is asked for. -/
structure RunRequest where
  schemaPath : String
  project : String
  output? : Option Path
  databaseSchema : Text
  /-- The command line of the formatter.  An empty one asks for none. -/
  formatter? : Option String

/-- Loads a document, generates a project from it, writes the project, and formats the program if
that is asked for.  The result is the path of the program. -/
def Job.run (host : Host) (request : RunRequest) : Job Path := do
  report (.loading request.schemaPath)
  let document ← load host (.ofString request.schemaPath)
  let artifacts ← follow (Artifacts.generate document request.project request.databaseSchema)
  let path ← writeProject host artifacts.manifest artifacts.source artifacts.project request.output?
  match request.formatter? with
  | none => pure ()
  | some command => if command = "" then pure () else formatSource host path command
  report (.finished request.project artifacts.entities.length)
  pure path

end EntityService
