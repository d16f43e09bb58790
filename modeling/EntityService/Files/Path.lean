/-!
# Paths

A path is a root and a list of names.  Reading a path drops empty names and the name `.`, which mean
nothing; the name `..` is kept, because what it means depends on the files.

## What is here

* `Root`, `Path` — paths.
* `Path.ofString`, `Path.text` — reading and writing a path.
* `Path.join` — a path read relative to another one.
-/

set_option autoImplicit false

namespace EntityService

/-- Where a path starts. -/
inductive Root
  /-- At the working directory. -/
  | relative
  /-- At the root directory. -/
  | absolute
  /-- At the root directory, written with two slashes, which are kept apart from one and from three
  or more. -/
  | doubled
deriving DecidableEq, Repr

/-- How a root is written. -/
def Root.text : Root → String
  | relative => ""
  | absolute => "/"
  | doubled => "//"

/-- A root and the names to follow from there. -/
structure Path where
  root : Root
  names : List String
deriving DecidableEq, Repr

namespace Path

/-- The pieces of a text between slashes. -/
def pieces (text : String) : List String := (text.toList.splitOn '/').map String.ofList

/-- The root that a text starts with. -/
def rootOf (text : String) : Root :=
  match (text.toList.takeWhile (· == '/')).length with
  | 0 => .relative
  | 2 => .doubled
  | _ => .absolute

/-- The path that a text writes. -/
def ofString (text : String) : Path :=
  ⟨rootOf text, (pieces text).filter fun name => name ≠ "" ∧ name ≠ "."⟩

/-- A path as a text.  The path without root and names is a point. -/
def text (p : Path) : String :=
  if p.root = .relative ∧ p.names = [] then "."
  else p.root.text ++ "/".intercalate p.names

/-- The path that a text writes, read from another path on. -/
def join (p : Path) (text : String) : Path :=
  let q := ofString text
  if q.root = .relative then ⟨p.root, p.names ++ q.names⟩ else q

end Path

end EntityService
