import EntityService.CommandLine.Footprint
import EntityService.CommandLine.Run

/-!
# The program

The command line at work.  The part of the file system that it can touch is observed, the command
line is followed on what was observed, and then the changes are made and the texts are printed.

The formatter is not started from here: the commands that a run asks for are printed to standard
error, one a line, as if each had ended well.

## What is here

* `observe`, `snapshot` — what is at places.
* `makeChanges` — making the changes of a run.
* `execute`, `main` — the program.
-/

set_option autoImplicit false

namespace EntityService

open EntityService.CommandLine

/-- A place as an absolute path. -/
def Place.path (place : Place) : String := "/" ++ "/".intercalate place

/-- The code of the operating system for an operation on a directory that is meant for files. -/
def isDirectoryCode : UInt32 := 21

/-- What is at a place, if anything. -/
def observe (place : Place) : IO (Option Node) := do
  try
    let content ← IO.FS.readBinFile place.path
    return some (.file content.toList)
  catch
    | .inappropriateType _ code _ =>
      return if code == isDirectoryCode then some .directory else none
    | .noFileOrDirectory _ _ _ => return none
    | error => throw error

/-- What is at places. -/
def snapshot (places : List Place) : IO FileTree := do
  let mut tree : FileTree := ⟨[]⟩
  for place in places do
    if let some node ← observe place then
      tree := tree.put place node
  return tree

/-- Makes the changes that lead from one tree to another one. -/
def makeChanges (before after : FileTree) : IO Unit := do
  for (place, node) in after.nodes do
    if before.node? place != some node then
      match node with
      | .directory => IO.FS.createDir place.path
      | .file content => IO.FS.writeBinFile place.path ⟨content.toArray⟩

/-- The variables that are set. -/
def readEnvironment : IO Environment := do
  let names := Parameter.all.filterMap environmentName?
  names.filterMapM fun name => do
    return (← IO.getEnv name).map (name, ·)

/-- Follows a command line. -/
def execute (words : List String) : IO UInt32 := do
  let here := (Path.ofString (toString (← IO.currentDir))).names
  let environment ← readEnvironment
  let before ← snapshot (footprint here environment words)
  let outcome := run ⟨here, fun _ => .exited 0⟩ environment before words
  makeChanges before outcome.progress.tree
  IO.eprint outcome.stderr
  for command in outcome.progress.commands do
    IO.eprintln (" ".intercalate command)
  if let some failure := outcome.escaped? then
    IO.eprintln failure.message
  IO.print outcome.stdout
  return outcome.exitCode.toUInt32

end EntityService

/-- The program. -/
def main (words : List String) : IO UInt32 := EntityService.execute words
