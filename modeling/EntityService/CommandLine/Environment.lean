import EntityService.Mapping

/-!
# Environments

The variables that a command line can take values from.  No name and no value holds the character
U+0000, no name holds an equals sign, and no name is empty.  Both are characters; bytes that are not
UTF-8 are not modelled.

## What is here

* `Environment` — variables and their values.
* `EnvironmentFault`, `entryFault?` — why a variable cannot be set.
* `Environment.ofPairs` — the environment that sets variables one after the other.
-/

set_option autoImplicit false

namespace EntityService.CommandLine

/-- Variables and their values. -/
abbrev Environment := Mapping String String

/-- Why a variable cannot be set. -/
inductive EnvironmentFault
  | nullCharacter
  | equalsSign
  | emptyName
deriving DecidableEq, Repr

/-- Why a variable cannot have a name and a value, if it cannot. -/
def entryFault? (name value : String) : Option EnvironmentFault :=
  if '\x00' ∈ name.toList ∨ '\x00' ∈ value.toList then some .nullCharacter
  else if '=' ∈ name.toList then some .equalsSign
  else if name = "" then some .emptyName
  else none

/-- The environment that sets variables one after the other, or the first fault. -/
def Environment.ofPairs : List (String × String) → Except EnvironmentFault Environment
  | [] => .ok []
  | (name, value) :: rest =>
    match entryFault? name value with
    | some fault => .error fault
    | none => (Environment.ofPairs rest).map ((name, value) :: ·)

/-- A fault, in words. -/
def EnvironmentFault.message : EnvironmentFault → String
  | nullCharacter => "embedded null byte"
  | equalsSign => "illegal environment variable name"
  | emptyName => "[Errno 22] Invalid argument"

end EntityService.CommandLine
