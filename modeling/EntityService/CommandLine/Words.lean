import EntityService.Mapping

/-!
# Words of a command line

Sorting the words of a command line into options and arguments.

* A word that starts with a hyphen and has more characters names options, up to the word `--`; all
  other words are arguments.
* A long option may have its value after `=`, a short one right after its letter; otherwise the next
  word is the value, whatever it looks like.  Short options without values can share a hyphen.
* An option may be given several times; the last time counts.

Words are characters.  Bytes on a command line that are not UTF-8 are not modelled.

## What is here

* `Parameter` — what a command line can settle, in the order of declaration.
* `Setting` — what it is set to.
* `Meaning`, `longOptions`, `long?`, `short?` — what an option does.
* `UsageFault` — what can be wrong with a command line.
* `Sorted`, `sort` — the options and arguments of a command line.
-/

set_option autoImplicit false

namespace EntityService.CommandLine

/-- What a command line can settle. -/
inductive Parameter
  | schemaFile | project | output | databaseSchema | format | formatter | verbose | quiet | help
deriving DecidableEq, Repr

/-- All parameters in the order of declaration. -/
def Parameter.all : List Parameter :=
  [.schemaFile, .project, .output, .databaseSchema, .format, .formatter, .verbose, .quiet, .help]

/-- What a parameter is set to. -/
inductive Setting
  | text (value : String)
  | switch (on : Bool)
deriving DecidableEq, Repr

/-- What an option does. -/
inductive Meaning
  /-- It sets a parameter to the text that comes with it. -/
  | valued (parameter : Parameter)
  /-- It switches a parameter on or off. -/
  | flag (parameter : Parameter) (on : Bool)
deriving DecidableEq, Repr

/-- The options with long names. -/
def longOptions : List (String × Meaning) :=
  [("--project", .valued .project), ("--output-dir", .valued .output),
    ("--db-schema", .valued .databaseSchema), ("--format", .flag .format true),
    ("--no-format", .flag .format false), ("--formatter", .valued .formatter),
    ("--verbose", .flag .verbose true), ("--quiet", .flag .quiet true),
    ("--help", .flag .help true)]

/-- What an option with a long name does. -/
def long? (name : String) : Option Meaning := longOptions.lookup name

/-- The options with names of one letter. -/
def short? : Char → Option Meaning
  | 'p' => some (.valued .project)
  | 'o' => some (.valued .output)
  | 'v' => some (.flag .verbose true)
  | 'q' => some (.flag .quiet true)
  | _ => none

/-- What can be wrong with a command line. -/
inductive UsageFault
  | noSuchOption (name : String)
  | valueMissing (name : String)
  | valueRefused (name : String)
  | argumentMissing
  | projectMissing
  | schemaFileMissing (path : String)
  | schemaFileIsDirectory (path : String)
  | outputIsFile (path : String)
  | extraArguments (arguments : List String)
deriving DecidableEq, Repr

/-- The options and arguments of a command line, each in order. -/
structure Sorted where
  options : List (Parameter × Setting)
  arguments : List String
deriving DecidableEq, Repr

/-- Puts options in front. -/
def Sorted.withOptions (options : List (Parameter × Setting)) (s : Sorted) : Sorted :=
  { s with options := options ++ s.options }

/-- Puts an argument in front. -/
def Sorted.withArgument (argument : String) (s : Sorted) : Sorted :=
  { s with arguments := argument :: s.arguments }

/-- What one word says: settings, and possibly a parameter that the next word is the value of,
together with the name of the option that asks for it. -/
structure Said where
  settings : List (Parameter × Setting)
  waiting? : Option (String × Parameter)
deriving DecidableEq, Repr

/-- Reads the letters after a hyphen. -/
def readLetters : List Char → Except UsageFault Said
  | [] => .ok ⟨[], none⟩
  | letter :: rest =>
    match short? letter with
    | none => .error (.noSuchOption (String.ofList ['-', letter]))
    | some (.flag parameter on) => do
      let said ← readLetters rest
      .ok ⟨(parameter, .switch on) :: said.settings, said.waiting?⟩
    | some (.valued parameter) =>
      if rest = [] then .ok ⟨[], some (String.ofList ['-', letter], parameter)⟩
      else .ok ⟨[(parameter, .text (String.ofList rest))], none⟩

/-- The name in a long option, and the value after `=` if there is one. -/
def cutValue (word : List Char) : String × Option String :=
  (String.ofList (word.takeWhile (· != '=')),
    match word.dropWhile (· != '=') with
    | [] => none
    | _ :: value => some (String.ofList value))

/-- Reads a word that names options. -/
def readOption (word : List Char) : Except UsageFault Said :=
  let (name, value?) := cutValue word
  match long? name, value? with
  | some (.valued parameter), some value => .ok ⟨[(parameter, .text value)], none⟩
  | some (.valued parameter), none => .ok ⟨[], some (name, parameter)⟩
  | some (.flag _ _), some _ => .error (.valueRefused name)
  | some (.flag parameter on), none => .ok ⟨[(parameter, .switch on)], none⟩
  | none, _ =>
    if (word.drop 1).head? = some '-' then .error (.noSuchOption name)
    else readLetters (word.drop 1)

/-- Whether a word names options. -/
def isOption (word : List Char) : Bool := word.head? == some '-' && 1 < word.length

/-- The options and arguments of a command line. -/
def sort : List String → Except UsageFault Sorted
  | [] => .ok ⟨[], []⟩
  | word :: rest =>
    if word = "--" then .ok ⟨[], rest⟩
    else if isOption word.toList then
      match readOption word.toList with
      | .error fault => .error fault
      | .ok ⟨settings, none⟩ => (sort rest).map (·.withOptions settings)
      | .ok ⟨settings, some (name, parameter)⟩ =>
        match rest with
        | [] => .error (.valueMissing name)
        | value :: rest =>
          (sort rest).map (·.withOptions (settings ++ [(parameter, .text value)]))
    else (sort rest).map (·.withArgument word)

end EntityService.CommandLine
