import EntityService.CommandLine.Invocation

/-!
# Footprints

The part of the file system that a command line can look at or change, found before anything is
looked at: the schema file, the output directory, the folder of the project and the two files in it,
and all directories above these.

## What is here

* `placeOf`, `placesTo` — the place that a path leads to where there are no links, and the places on
  the way.
* `footprintPaths`, `footprint` — the paths and the places that a command line can touch.
-/

set_option autoImplicit false

namespace EntityService.CommandLine

/-- Follows a name from a place, as if it were there. -/
def stepTo (place : Place) (name : String) : Place :=
  if name = ".." then FileTree.above place else place ++ [name]

/-- The place that a path leads to, seen from a working directory. -/
def placeOf (here : Place) (p : Path) : Place :=
  p.names.foldl stepTo (FileTree.start here p.root)

/-- The places above a place and the place itself, from the top on.  The root directory, which is
always there, is not among them. -/
def placesTo (place : Place) : List Place :=
  (List.range place.length).map fun n => place.take (n + 1)

/-- The paths that a command line can touch. -/
def footprintPaths (environment : Environment) (sorted : Sorted) : List Path :=
  let output := Path.ofString (outputText sorted environment)
  let folder := Job.projectFolder output ((textValue? sorted environment .project).getD "")
  [output, Job.manifestPath folder, Job.sourcePath folder]
    ++ (sorted.arguments.take 1).map .ofString

/-- The places that a command line can touch, each after the places above it. -/
def footprint (here : Place) (environment : Environment) (words : List String) : List Place :=
  match sort words with
  | .error _ => placesTo here
  | .ok sorted =>
    (placesTo here
      ++ (footprintPaths environment sorted).flatMap fun p => placesTo (placeOf here p)).eraseDups

end EntityService.CommandLine
