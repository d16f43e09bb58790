import EntityService.Names.Fault
import EntityService.Names.Reserved
import EntityService.Text.Identifier

/-!
# Class names

An entity's name becomes the name of a class in the generated program.  It has to be an identifier
that is no keyword, must not start with an underscore, and must not be a name that the program binds
itself or that the language predefines.

## What is here

* `classNameFault?` — the first of these rules that a name breaks.
-/

set_option autoImplicit false

namespace EntityService.Names

open EntityService.Text

/-- Why a name cannot name a class, if it cannot. -/
def classNameFault? (name : String) : Option NameFault :=
  if isIdentifier name = false ∨ name ∈ keywords then some .notIdentifier
  else if name.toList.head? = some '_' then some .leadingUnderscore
  else if name ∈ moduleNames ∨ name ∈ builtins then some .reserved
  else none

end EntityService.Names
