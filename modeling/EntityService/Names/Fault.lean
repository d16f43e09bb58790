import EntityService.Text.Quoted

/-!
# Unusable names

Why a name given by the user cannot be used in the generated project.

## What is here

* `NameFault` — the reasons, with `NameFault.text`.
-/

set_option autoImplicit false

namespace EntityService

/-- Why a name cannot be used. -/
inductive NameFault
  /-- It cannot name a class. -/
  | notIdentifier
  /-- It would be private. -/
  | leadingUnderscore
  /-- The generated program has another use for it. -/
  | reserved
  /-- One of the names generated for it belongs to an earlier entity. -/
  | claimed (generated owner : String)
  /-- It cannot name a project. -/
  | notProjectName
deriving DecidableEq, Repr

/-- A reason in words. -/
def NameFault.text : NameFault → String
  | notIdentifier => "is not a valid Python identifier"
  | leadingUnderscore => "must not start with an underscore"
  | reserved => "clashes with a name the generated service defines or uses"
  | claimed generated owner =>
    "generates " ++ Text.literal generated ++ ", already used by entity " ++ Text.literal owner
  | notProjectName => "is not a valid project name (letters, digits, ., _, -)"

end EntityService
