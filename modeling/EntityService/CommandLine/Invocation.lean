import EntityService.CommandLine.Environment
import EntityService.CommandLine.Suggestion
import EntityService.Job

/-!
# Invocations

What a command line asks for: help, or a run.  A parameter that has no option takes its value from
the environment, if a value that is not empty is there, or else its default.

Parameters are checked one after the other and the first fault counts: first the parameters that
were given as options, in the order in which they first were; then the argument; then the others in
the order of declaration.  Arguments that nothing asks for come last.  Nothing is checked if help is
asked for.

## What is here

* `Invocation` — what is asked for in a run.
* `Demand` — help or a run.
* `checkingOrder` — the order in which parameters are checked.
* `check?` — the fault of one parameter.
* `Demand.parse` — what a command line asks for.
* `UsageFault.message`, `UsageFault.text` — a fault in words, and as it is printed.
-/

set_option autoImplicit false

namespace EntityService.CommandLine

/-- What a command line asks for in a run. -/
structure Invocation where
  schemaFile : Path
  project : String
  output : Path
  databaseSchema : String
  format : Bool
  formatter : String
  verbose : Bool
  quiet : Bool
deriving DecidableEq, Repr

/-- What a command line asks for. -/
inductive Demand
  | help
  | run (invocation : Invocation)
deriving DecidableEq, Repr

/-- Why a command line is not followed: it is at fault, or a path in it cannot be looked up. -/
inductive ParseFault
  | usage (fault : UsageFault)
  | files (fault : Files.Fault)
deriving DecidableEq, Repr

/-- The variable of the environment that a parameter can be set by. -/
def environmentName? : Parameter → Option String
  | .output => some "CRUDIFY_OUTPUT_DIR"
  | .databaseSchema => some "CRUDIFY_DB_SCHEMA"
  | .formatter => some "CRUDIFY_FORMATTER"
  | _ => none

/-- The value of a variable, unless it is empty. -/
def environmentValue? (environment : Environment) (p : Parameter) : Option String :=
  match (environmentName? p).bind (Mapping.get? environment ·) with
  | some value => if value = "" then none else some value
  | none => none

/-- A parameter as text: its last option, else its variable. -/
def textValue? (sorted : Sorted) (environment : Environment) (p : Parameter) :
    Option String :=
  match sorted.options.reverse.lookup p with
  | some (.text value) => some value
  | _ => environmentValue? environment p

/-- A parameter as a switch: its last option, else off. -/
def switchValue (sorted : Sorted) (p : Parameter) : Bool :=
  match sorted.options.reverse.lookup p with
  | some (.switch on) => on
  | _ => false

/-- The output directory, as it is written. -/
def outputText (sorted : Sorted) (environment : Environment) : String :=
  (textValue? sorted environment .output).getD Job.defaultOutput

/-- The parameters in the order in which they are checked. -/
def checkingOrder (sorted : Sorted) : List Parameter :=
  let given := sorted.options.map (·.1) ++ [.schemaFile]
  given.eraseDups ++ Parameter.all.filter fun p => p ∉ given

/-- What is at a path, if anything. -/
def lookUp (tree : FileTree) (host : Host) (path : String) : Except ParseFault (Option Node) :=
  match tree.look host.here path with
  | .ok node => .ok (some node)
  | .error .nullCharacter => .error (.files ⟨.nullCharacter, path⟩)
  | .error _ => .ok none

/-- Checks one parameter: the schema file has to be a file, the output directory must not be one,
and there has to be a project. -/
def check (tree : FileTree) (host : Host) (environment : Environment) (sorted : Sorted) :
    Parameter → Except ParseFault Unit
  | .schemaFile =>
    match sorted.arguments with
    | [] => .error (.usage .argumentMissing)
    | path :: _ => do
      match ← lookUp tree host path with
      | none => .error (.usage (.schemaFileMissing path))
      | some .directory => .error (.usage (.schemaFileIsDirectory path))
      | some (.file _) => .ok ()
  | .project =>
    match textValue? sorted environment .project with
    | none => .error (.usage .projectMissing)
    | some _ => .ok ()
  | .output => do
    let path := outputText sorted environment
    match ← lookUp tree host path with
    | some (.file _) => .error (.usage (.outputIsFile path))
    | _ => .ok ()
  | _ => .ok ()

/-- Checks parameters in order. -/
def checkAll (tree : FileTree) (host : Host) (environment : Environment)
    (sorted : Sorted) : List Parameter → Except ParseFault Unit
  | [] => .ok ()
  | p :: rest => do
    check tree host environment sorted p
    checkAll tree host environment sorted rest

/-- The invocation that options and arguments stand for, once they have been checked. -/
def Invocation.ofSorted (environment : Environment) (sorted : Sorted)
    (schemaFile : String) : Invocation :=
  { schemaFile := .ofString schemaFile
    project := (textValue? sorted environment .project).getD ""
    output := .ofString (outputText sorted environment)
    databaseSchema := (textValue? sorted environment .databaseSchema).getD defaultSchema
    format := switchValue sorted .format
    formatter := (textValue? sorted environment .formatter).getD Job.defaultFormatter
    verbose := switchValue sorted .verbose
    quiet := switchValue sorted .quiet }

/-- The invocation that options and arguments stand for. -/
def Invocation.parse (tree : FileTree) (host : Host) (environment : Environment)
    (sorted : Sorted) : Except ParseFault Invocation := do
  checkAll tree host environment sorted (checkingOrder sorted)
  match sorted.arguments with
  | [] => .error (.usage .argumentMissing)
  | [schemaFile] => .ok (.ofSorted environment sorted schemaFile)
  | _ :: extra => .error (.usage (.extraArguments extra))

/-- What a command line asks for. -/
def Demand.parse (tree : FileTree) (host : Host) (environment : Environment)
    (words : List String) : Except ParseFault Demand :=
  match sort words with
  | .error fault => .error (.usage fault)
  | .ok sorted =>
    if switchValue sorted .help then .ok .help
    else (Invocation.parse tree host environment sorted).map .run

/-! ## Reports -/

/-- What is wrong with a command line, in words. -/
def UsageFault.message : UsageFault → String
  | noSuchOption name =>
    "No such option " ++ Text.literal name ++ "." ++ suggestionText (suggestions name)
  | valueMissing name => "Option " ++ Text.literal name ++ " requires an argument."
  | valueRefused name => "Option " ++ Text.literal name ++ " does not take a value."
  | argumentMissing => "Missing argument 'SCHEMA_FILE'."
  | projectMissing => "Missing option '--project' / '-p'."
  | schemaFileMissing path =>
    "Invalid value for 'SCHEMA_FILE': File " ++ Text.literal path ++ " does not exist."
  | schemaFileIsDirectory path =>
    "Invalid value for 'SCHEMA_FILE': File " ++ Text.literal path ++ " is a directory."
  | outputIsFile path =>
    "Invalid value for '--output-dir' / '-o': Directory " ++ Text.literal path ++ " is a file."
  | extraArguments arguments =>
    "Got unexpected extra argument" ++ (if arguments.length = 1 then "" else "s") ++ " ("
      ++ " ".intercalate arguments ++ ")"

/-- Whether a report about a command line repeats how the program is used. -/
def UsageFault.showsUsage : UsageFault → Bool
  | valueMissing _ | valueRefused _ => false
  | _ => true

/-- How the program is used. -/
def usage : String := "Usage: crudify [OPTIONS] SCHEMA_FILE\n"

/-- What is printed about a command line that is not followed. -/
def UsageFault.text (fault : UsageFault) : String :=
  (if fault.showsUsage then usage ++ "Try 'crudify --help' for help.\n\n" else "")
    ++ "Error: " ++ fault.message ++ "\n"

/-- The options, and what they are for. -/
def optionLines : List String :=
  ["  -p, --project TEXT          Project name and output folder.  [required]",
    "  -o, --output-dir DIRECTORY  Directory that receives the project folder.",
    "                              [default: generated]",
    "  --db-schema TEXT            PostgreSQL schema the tables live in.  [default:",
    "                              public]",
    "  --format / --no-format      Run the formatter on the generated source.",
    "  --formatter TEXT            Formatter command used with --format.  [default:",
    "                              black --quiet]",
    "  -v, --verbose               Log per-entity detail.",
    "  -q, --quiet                 Only log warnings and errors.",
    "  --help                      Show this message and exit."]

/-- What is printed if help is asked for. -/
def helpText : String :=
  usage ++ "\n  Generate a CRUD service from SCHEMA_FILE.\n\nOptions:\n"
    ++ String.join (optionLines.map fun line => line ++ "\n")

end EntityService.CommandLine
