import EntityService.Files.Path
import EntityService.Mapping
import EntityService.Text.Quoted
import EntityService.Text.Utf8

/-!
# File trees

Directories and files without links.  A place in the tree is given by the names on the way from the
root directory.  The operations follow the rules of a POSIX file system, seen by a user who may do
anything.

* A path is followed name by name.  Each name is looked up in a directory; a name of more than 255
  bytes, or a path of more than 4095, is too long.
* A file can be made or replaced in an existing directory; its content is replaced as a whole.
* A directory can be made in an existing directory, where its name is free.

## What is here

* `Node`, `FileTree` — trees, with `FileTree.node?` as the view that laws are stated about.
* `Cause`, `Files.Fault` — why an operation fails.
* `FileTree.follow`, `FileTree.look` — the place that a path leads to, and what is there.
* `FileTree.read`, `FileTree.write`, `FileTree.makeDirectory`, `FileTree.makeDirectories` — the
  operations.
-/

set_option autoImplicit false

namespace EntityService

/-- What can be at a place. -/
inductive Node
  | directory
  | file (content : List UInt8)
deriving DecidableEq, Repr

/-- The names on the way from the root directory to a place. -/
abbrev Place := List String

/-- The nodes of a tree, apart from the root directory. -/
structure FileTree where
  nodes : Mapping Place Node
deriving DecidableEq, Repr

namespace Files

/-- Why an operation on files fails. -/
inductive Cause
  | noEntry
  | exists
  | notDirectory
  | isDirectory
  | nameTooLong
  /-- No path can hold the character U+0000. -/
  | nullCharacter
deriving DecidableEq, Repr

/-- A failed operation: the cause, and the path it was asked for. -/
structure Fault where
  cause : Cause
  path : String
deriving DecidableEq, Repr

/-- The number of a cause in reports, with its wording. -/
def Cause.report : Cause → Nat × String
  | noEntry => (2, "No such file or directory")
  | .exists => (17, "File exists")
  | notDirectory => (20, "Not a directory")
  | isDirectory => (21, "Is a directory")
  | nameTooLong => (36, "File name too long")
  | nullCharacter => (0, "embedded null byte")

/-- A failed operation in words. -/
def Fault.message (f : Fault) : String :=
  let (number, wording) := f.cause.report
  if f.cause = .nullCharacter then wording
  else "[Errno " ++ toString number ++ "] " ++ wording ++ ": " ++ Text.literal f.path

/-- The most bytes that a name may have. -/
def maxName : Nat := 255

/-- The most bytes that a path may have. -/
def maxPath : Nat := 4095

/-- Whether a path cannot be given to an operation at all. -/
def pathFault? (path : String) : Option Cause :=
  if '\x00' ∈ path.toList then some .nullCharacter
  else if maxPath < path.utf8ByteSize then some .nameTooLong
  else none

end Files

namespace FileTree

open Files

/-- What is at a place, if anything. -/
def node? (t : FileTree) (place : Place) : Option Node :=
  if place = [] then some .directory else t.nodes.get? place

/-- Puts a node at a place. -/
def put (t : FileTree) (place : Place) (node : Node) : FileTree := ⟨t.nodes.insert place node⟩

/-- The directory above a place; the root directory is above itself. -/
def above (place : Place) : Place := place.dropLast

/-! ## Following paths -/

/-- Follows one name from a place, which must be a directory.  An empty name and `.` stay, `..` goes
up, and any other name must be there. -/
def step (t : FileTree) (place : Place) (name : String) : Except Cause Place :=
  match t.node? place with
  | none => .error .noEntry
  | some (.file _) => .error .notDirectory
  | some .directory =>
    if name = "" ∨ name = "." then .ok place
    else if name = ".." then .ok (above place)
    else if maxName < name.utf8ByteSize then .error .nameTooLong
    else if (t.node? (place ++ [name])).isSome then .ok (place ++ [name])
    else .error .noEntry

/-- Follows names from a place. -/
def follow (t : FileTree) : Place → List String → Except Cause Place
  | place, [] => .ok place
  | place, name :: names =>
    match t.step place name with
    | .ok next => t.follow next names
    | .error cause => .error cause

/-- Where a path starts, seen from a working directory. -/
def start (here : Place) (root : Root) : Place := if root = .relative then here else []

/-- The node that a text leads to as a path.  Unlike a path that has been read, a text may end in a
slash, which asks for a directory. -/
def look (t : FileTree) (here : Place) (path : String) : Except Cause Node :=
  match pathFault? path with
  | some cause => .error cause
  | none =>
    if path = "" then .error .noEntry
    else
      match t.follow (start here (Path.rootOf path)) (Path.pieces path) with
      | .error cause => .error cause
      | .ok place => match t.node? place with
        | some node => .ok node
        | none => .error .noEntry

/-! ## Operations -/

/-- The place that the last name of a path stands for, and what is there now.  The names before it
must lead to a directory.  There is no such place for a path that ends in `..` or has no names. -/
def target (t : FileTree) (here : Place) (p : Path) : Except Cause (Option (Place × Option Node)) :=
  match pathFault? p.text with
  | some cause => .error cause
  | none =>
    match p.names.getLast? with
    | none => .ok none
    | some name =>
      match t.follow (start here p.root) p.names.dropLast with
      | .error cause => .error cause
      | .ok place =>
        match t.node? place with
        | none => .error .noEntry
        | some (.file _) => .error .notDirectory
        | some .directory =>
          if name = ".." then .ok none
          else if maxName < name.utf8ByteSize then .error .nameTooLong
          else .ok (some (place ++ [name], t.node? (place ++ [name])))

/-- The content of the file that a path leads to. -/
def read (t : FileTree) (here : Place) (p : Path) : Except Fault (List UInt8) :=
  match t.look here p.text with
  | .ok (.file content) => .ok content
  | .ok .directory => .error ⟨.isDirectory, p.text⟩
  | .error cause => .error ⟨cause, p.text⟩

/-- Makes the file that a path leads to, or replaces its content. -/
def write (t : FileTree) (here : Place) (p : Path) (content : List UInt8) :
    Except Fault FileTree :=
  match t.target here p with
  | .error cause => .error ⟨cause, p.text⟩
  | .ok none => .error ⟨.isDirectory, p.text⟩
  | .ok (some (_, some .directory)) => .error ⟨.isDirectory, p.text⟩
  | .ok (some (place, _)) => .ok (t.put place (.file content))

/-- Makes the directory that a path leads to. -/
def makeDirectory (t : FileTree) (here : Place) (p : Path) : Except Cause FileTree :=
  match t.target here p with
  | .error cause => .error cause
  | .ok none => .error .exists
  | .ok (some (_, some _)) => .error .exists
  | .ok (some (place, none)) => .ok (t.put place .directory)

/-- Makes the directory that a path leads to, unless it is there. -/
def ensureDirectory (t : FileTree) (here : Place) (p : Path) : Except Fault FileTree :=
  match t.makeDirectory here p with
  | .ok made => .ok made
  | .error cause =>
    match t.look here p.text with
    | .ok .directory => .ok t
    | _ => .error ⟨cause, p.text⟩

/-- Makes a directory with the directories above it, where they are missing, given the names of its
path, last one first.  Directories that were made before a failure stay. -/
def makeDirectoriesUp (here : Place) (root : Root) (t : FileTree) :
    List String → Except Fault Unit × FileTree
  | [] =>
    match t.ensureDirectory here ⟨root, []⟩ with
    | .ok made => (.ok (), made)
    | .error fault => (.error fault, t)
  | name :: upper =>
    let p : Path := ⟨root, (name :: upper).reverse⟩
    match t.ensureDirectory here p with
    | .ok made => (.ok (), made)
    | .error fault =>
      if fault.cause = .noEntry then
        match makeDirectoriesUp here root t upper with
        | (.error fault, made) => (.error fault, made)
        | (.ok (), made) =>
          match made.ensureDirectory here p with
          | .ok made => (.ok (), made)
          | .error fault => (.error fault, made)
      else (.error fault, t)

/-- Makes the directory that a path leads to with the directories above it, where they are
missing. -/
def makeDirectories (t : FileTree) (here : Place) (p : Path) : Except Fault Unit × FileTree :=
  makeDirectoriesUp here p.root t p.names.reverse

end FileTree

end EntityService
