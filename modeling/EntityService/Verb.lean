/-!
# Verbs

What the generated service lets its clients do with the rows of a table.

## What is here

* `Verb` — the verbs, and `Verb.all`, which lists them in the order of the routes.
* `Verb.name` — the name of a verb, which the names of handlers start with.
* `Verb.method`, `Verb.addressesRow` — how a verb is requested.
-/

set_option autoImplicit false

namespace EntityService

/-- What can be done with the rows of a table. -/
inductive Verb
  | list | create | update | delete
deriving DecidableEq, Repr

namespace Verb

/-- All verbs, in the order of the routes. -/
def all : List Verb := [list, create, update, delete]

def name : Verb → String
  | list => "list"
  | create => "create"
  | update => "update"
  | delete => "delete"

/-- The request method that a verb answers to. -/
def method : Verb → String
  | list => "GET"
  | create => "POST"
  | update => "PUT"
  | delete => "DELETE"

/-- Whether a verb is about one row, which its route then names. -/
def addressesRow : Verb → Bool
  | list | create => false
  | update | delete => true

end Verb

end EntityService
