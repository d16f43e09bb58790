import EntityService.Event
import EntityService.Names.ClassName
import EntityService.Names.Derived
import EntityService.Refusal

/-!
# Schema documents

A schema document is an object whose members define one entity each.  A definition is an object; its
member `properties`, if there is one, is an object whose members are the properties; the node of a
property is an object with an optional text under `type` and under `format`.  Null counts as nothing
under `type` and `format`, but not under `properties`.  All other members are ignored.

Members are read in order and the first one that is at fault decides.  Of one member, the shape of
the definition comes first, then the name, then `properties` and its nodes.

## What is here

* `scalarOf`, `propertiesOf` — the properties of one definition.
* `nameFault?` — whether an entity's name can be used, given the names claimed by earlier ones.
* `readName`, `readEntity`, `readEntities` — definitions.
* `build` — the entities of a document, with an event for each entity that was read and one at the
  end if all were.
-/

set_option autoImplicit false

namespace EntityService.Schema

open EntityService.Json

/-! ## Properties -/

/-- The text under a key of a node, if there is one.  A value that is neither a text nor null makes
the whole node unreadable. -/
def textMember (node : Mapping Text Value) (key : String) : Except Refusal (Option Text) :=
  match node.get? key with
  | none => .ok none
  | some .null => .ok none
  | some (.string t) => .ok (some t)
  | some _ => .error (.complaint (.object node))

/-- The scalar kind of a property, by its node. -/
def scalarOf : Value → Except Refusal Scalar
  | .object node => do
    let type? ← textMember node "type"
    let format? ← textMember node "format"
    .ok (Scalar.resolve (type?.bind Text.toString?) (format?.bind Text.toString?))
  | other => .error (.complaint other)

/-- The scalar kinds of properties, by their nodes. -/
def scalarsOf : List (Text × Value) → Except Refusal (Mapping Text Scalar)
  | [] => .ok []
  | (name, node) :: rest => do
    let scalar ← scalarOf node
    let scalars ← scalarsOf rest
    .ok ((name, scalar) :: scalars)

/-- The properties of a definition. -/
def propertiesOf (definition : Mapping Text Value) : Except Refusal (Mapping Text Scalar) :=
  match definition.get? "properties" with
  | none => .ok []
  | some (.object nodes) => scalarsOf nodes
  | some other => .error (.complaint other)

/-! ## Names -/

/-- The entity that has claimed each name. -/
abbrev Claims := Mapping String String

/-- Adds the names that an entity claims. -/
def Claims.add (claims : Claims) (e : Entity) : Claims :=
  (e.claimedNames.map fun name => (name, e.name)) ++ claims

/-- The first name claimed by an entity that an earlier entity has claimed. -/
def claimFault? (claims : Claims) (e : Entity) : Option NameFault :=
  e.claimedNames.findSome? fun generated =>
    match claims.get? generated with
    | some owner => if owner = e.name then none else some (.claimed generated owner)
    | none => none

/-- Why the name of an entity cannot be used, if it cannot. -/
def nameFault? (claims : Claims) (e : Entity) : Option NameFault :=
  match Names.classNameFault? e.name with
  | some fault => some fault
  | none => claimFault? claims e

/-! ## Entities -/

/-- The name of an entity, which must be usable.  A text with half of a surrogate pair is no
identifier. -/
def readName (claims : Claims) (key : Text) : Except Refusal String :=
  match key.toString? with
  | none => .error (.unusableName key .notIdentifier)
  | some name =>
    match nameFault? claims ⟨name, []⟩ with
    | some fault => .error (.unusableName key fault)
    | none => .ok name

/-- The entity that a member of the document defines. -/
def readEntity (claims : Claims) (key : Text) : Value → Except Refusal Entity
  | .object definition =>
    match readName claims key with
    | .error refusal => .error refusal
    | .ok name => (propertiesOf definition).map (Entity.ofProperties name)
  | other => .error (.complaint other)

/-- The entities that members define, up to the first member that is at fault. -/
def readEntities (claims : Claims) : List (Text × Value) → List Entity × Option Refusal
  | [] => ([], none)
  | (key, definition) :: rest =>
    match readEntity claims key definition with
    | .error refusal => ([], some refusal)
    | .ok e =>
      let (entities, refusal?) := readEntities (claims.add e) rest
      (e :: entities, refusal?)

/-- The entities of a document. -/
def build : Value → Reported (Except Refusal (List Entity))
  | .object members =>
    match readEntities [] members with
    | (entities, some refusal) => ⟨entities.map .entityRead, .error refusal⟩
    | (entities, none) =>
      ⟨entities.map .entityRead ++ [.schemaRead entities.length], .ok entities⟩
  | other => ⟨[], .error (.complaint other)⟩

end EntityService.Schema
