import EntityService.Proofs.DistinctKeys
import EntityService.Proofs.Wording
import EntityService.Schema
import Mathlib.Data.List.Forall2

/-!
# The first fault decides

`Schema.build` reads the members of a document one after the other and carries along which entity
has claimed which name.  This file says what it finds without any such bookkeeping: a member is at
fault or not by itself and by the keys of the members before it, and the first member at fault is
what the whole document is refused for.

A refusal for a shape carries a value, and making it quotes that value.  There is no quoting a whole
number of too many digits, so a document can stop at such a number where it should be refused.  The
first fault is found all the same; what is lost is the complaint.

## What is here

* `KeyFault`, `PropertiesFault`, `MemberFault` — what can be wrong with a member, in order of
  priority.
* `Describes` — the entity that a member stands for.
* `Seen`, `Outcome` — the specification: what should be seen of a document.
* `raised` — what becomes of a refusal when it is made.
* `Claims.Exact` — the invariant of the loop.  The names claimed so far are those of the entities
  before, and no name has two owners.
* `readEntity_faultless`, `readEntity_fault` — one step.
* `readEntities_faultless`, `readEntities_fault` — a whole run.
* `Accepted` — what is known of the members of a document that was read, and `accepted_of_build`,
  `usable_of_build`.
* `Shows`, `ShowsOrStops` — what is built shows what should be seen, or a number is in the way.
* `existsUnique_outcome` — the payoff.  A document has exactly one outcome, and `build` shows it
  unless it is a complaint that would have to quote a long number.
-/

set_option autoImplicit false

namespace EntityService.Schema

open EntityService.Json

/-! ## What a document should become -/

/-- The names that an entity called `name` claims in the generated program: the name itself, the
name in lower case, and a handler for each verb. -/
def claimedBy (name : String) : List String :=
  [name, Text.lower name, "list_" ++ Text.lower name, "create_" ++ Text.lower name,
    "update_" ++ Text.lower name, "delete_" ++ Text.lower name]

/-- Why a key cannot name a class, if it cannot.  A key that is no string is no identifier. -/
def keyFault? (key : Text) : Option NameFault :=
  match key.toString? with
  | some name => Names.classNameFault? name
  | none => some .notIdentifier

/-- A name is claimed by an entity called `owner` that stands under one of the keys before. -/
def ClaimedBefore (earlier : List Text) (generated owner : String) : Prop :=
  (owner : Text) ∈ earlier ∧ generated ∈ claimedBy owner

/-- A member of a node is there and is neither a text nor null. -/
def Malformed (node : Mapping Text Value) (key : String) : Prop :=
  ∃ v, node.get? key = some v ∧ v ≠ .null ∧ ∀ t, v ≠ .string t

/-- A value cannot be read as the node of a property. -/
def Unreadable : Value → Prop
  | .object node => Malformed node "type" ∨ Malformed node "format"
  | _ => True

/-- What is wrong with a key, given the keys before it. -/
inductive KeyFault (earlier : List Text) (key : Text) : NameFault → Prop
  /-- It cannot name a class. -/
  | unfit {fault : NameFault} (h : keyFault? key = some fault) : KeyFault earlier key fault
  /-- The first of the names that it would claim is taken, and by one entity only. -/
  | claimed {name generated owner : String} {before after : List String} (hname : key = name)
      (hfit : keyFault? key = none) (hclaims : claimedBy name = before ++ generated :: after)
      (hbefore : ∀ g ∈ before, ∀ other, ¬ ClaimedBefore earlier g other)
      (howner : ClaimedBefore earlier generated owner)
      (hunique : ∀ other, ClaimedBefore earlier generated other → other = owner) :
      KeyFault earlier key (.claimed generated owner)

/-- The value that is wrong with the properties of a definition. -/
inductive PropertiesFault (definition : Mapping Text Value) : Value → Prop
  /-- There are `properties`, but they are no object. -/
  | shape {v : Value} (h : definition.get? ("properties" : String) = some v)
      (hv : ∀ nodes, v ≠ .object nodes) : PropertiesFault definition v
  /-- The first node that cannot be read. -/
  | node {before after : Mapping Text Value} {property : Text} {v : Value}
      (h : definition.get? ("properties" : String)
        = some (.object (before ++ (property, v) :: after)))
      (hbefore : ∀ p ∈ before, ¬ Unreadable p.2) (hv : Unreadable v) :
      PropertiesFault definition v

/-- What is wrong with a member, given the keys before it: its definition is no object, or else its
key is at fault, or else its properties are. -/
inductive MemberFault (earlier : List Text) (key : Text) : Value → Refusal → Prop
  | definition {d : Value} (h : ∀ definition, d ≠ .object definition) :
      MemberFault earlier key d (.shape d)
  | key {definition : Mapping Text Value} {fault : NameFault} (h : KeyFault earlier key fault) :
      MemberFault earlier key (.object definition) (.unusableName key fault)
  | properties {definition : Mapping Text Value} {v : Value}
      (hkey : ∀ fault, ¬ KeyFault earlier key fault) (h : PropertiesFault definition v) :
      MemberFault earlier key (.object definition) (.shape v)

/-- No member is at fault after the ones before it. -/
def Faultless (earlier : List Text) : Mapping Text Value → Prop
  | [] => True
  | (key, d) :: rest =>
    (∀ refusal, ¬ MemberFault earlier key d refusal) ∧ Faultless (earlier ++ [key]) rest

/-- The text under a key of a node. -/
def textUnder? (node : Mapping Text Value) (key : String) : Option String :=
  match node.get? key with
  | some (.string t) => t.toString?
  | _ => none

/-- The scalar kind that the node of a property asks for. -/
def kindOf : Value → Scalar
  | .object node => Scalar.resolve (textUnder? node "type") (textUnder? node "format")
  | _ => .string

/-- The nodes of the properties in a definition. -/
def nodesOf : Value → Mapping Text Value
  | .object definition =>
    match Mapping.get? definition ("properties" : String) with
    | some (.object nodes) => nodes
    | _ => []
  | _ => []

/-- A member stands for an entity: its key is the name, and its properties in order, with the kinds
that their nodes ask for, are the fields. -/
structure Describes (member : Text × Value) (e : Entity) : Prop where
  /-- The key is the name. -/
  name : member.1 = e.name
  /-- The fields are the properties, numbered from zero. -/
  fields : e.fields = (nodesOf member.2).mapIdx fun k p => ⟨p.1, kindOf p.2, k⟩

/-- What a document is refused with: the value that has the wrong shape, or the name that cannot be
used and the reason why. -/
inductive Complaint
  | shape (value : Value)
  | name (name : Text) (reason : String)

/-- The complaint that a refusal makes. -/
inductive Makes : Refusal → Complaint → Prop
  | shape (v : Value) : Makes (.shape v) (.shape v)
  | name (key : Text) {fault : NameFault} {reason : String} (h : fault.Reason reason) :
      Makes (.unusableName key fault) (.name key reason)

/-- What is seen of a document that is built: the records in the log, and the end. -/
structure Seen where
  records : List Record
  result : Except Complaint (List Entity)

/-- **What should become of a document.**  It is refused for its first member at fault, after one
record of detail for each member before and no other; without such a member it becomes the entities
of all its members, with one record for each and one of their number at the end. -/
inductive Outcome : Value → Seen → Prop
  | notObject {v : Value} (h : ∀ members, v ≠ .object members) : Outcome v ⟨[], .error (.shape v)⟩
  | refused {before after : Mapping Text Value} {key : Text} {d : Value} {entities : List Entity}
      {refusal : Refusal} {complaint : Complaint} (hbefore : Faultless [] before)
      (hentities : List.Forall₂ Describes before entities)
      (h : MemberFault (Mapping.keys before) key d refusal) (hmakes : Makes refusal complaint) :
      Outcome (.object (before ++ (key, d) :: after)) ⟨entities.map entityRecord, .error complaint⟩
  | accepted {members : Mapping Text Value} {entities : List Entity} (h : Faultless [] members)
      (hentities : List.Forall₂ Describes members entities) :
      Outcome (.object members)
        ⟨entities.map entityRecord
          ++ [⟨.info, .schema, "Parsed " ++ toString entities.length ++ " entities"⟩], .ok entities⟩

/-- What becomes of a refusal when it is made: the complaint about a shape has to quote the
value. -/
def raised : Refusal → Refusal
  | .shape v => .complaint v
  | refusal => refusal

/-! ## Nodes -/

theorem textMember_malformed {node : Mapping Text Value} {key : String}
    (h : Malformed node key) : textMember node key = .error (.complaint (.object node)) := by
  obtain ⟨v, hv, hnull, htext⟩ := h
  rw [textMember]
  split
  · rename_i h
    rw [h] at hv
    cases hv
  · rename_i h
    rw [h] at hv
    cases hv
    exact absurd rfl hnull
  · rename_i t h
    rw [h] at hv
    cases hv
    exact absurd rfl (htext t)
  · rfl

theorem textMember_wellFormed {node : Mapping Text Value} {key : String}
    (h : ¬ Malformed node key) :
    ∃ t?, textMember node key = .ok t? ∧ t?.bind Text.toString? = textUnder? node key := by
  rw [textMember, textUnder?]
  cases hv : node.get? key with
  | none => exact ⟨none, rfl, rfl⟩
  | some v =>
    cases v with
    | null => exact ⟨none, rfl, rfl⟩
    | string t => exact ⟨some t, rfl, rfl⟩
    | _ => exact absurd ⟨_, hv, by simp, by simp⟩ h

theorem scalarOf_unreadable {v : Value} (h : Unreadable v) :
    scalarOf v = .error (.complaint v) := by
  cases v with
  | object node =>
    rw [scalarOf]
    by_cases htype : Malformed node "type"
    · rw [textMember_malformed htype]
      rfl
    · obtain ⟨t?, ht, -⟩ := textMember_wellFormed htype
      rw [ht, textMember_malformed (h.resolve_left htype)]
      rfl
  | _ => rfl

theorem scalarOf_readable {v : Value} (h : ¬ Unreadable v) : scalarOf v = .ok (kindOf v) := by
  cases v with
  | object node =>
    rw [Unreadable, not_or] at h
    obtain ⟨t?, ht, hT⟩ := textMember_wellFormed h.1
    obtain ⟨f?, hf, hF⟩ := textMember_wellFormed h.2
    rw [scalarOf, ht, hf, kindOf, ← hT, ← hF]
    rfl
  | _ => exact absurd trivial h

theorem scalarsOf_readable {nodes : Mapping Text Value} (h : ∀ p ∈ nodes, ¬ Unreadable p.2) :
    scalarsOf nodes = .ok (nodes.map fun p => (p.1, kindOf p.2)) := by
  induction nodes with
  | nil => rfl
  | cons p rest ih =>
    obtain ⟨property, v⟩ := p
    rw [List.forall_mem_cons] at h
    rw [scalarsOf, scalarOf_readable h.1, ih h.2]
    rfl

theorem scalarsOf_unreadable {before after : Mapping Text Value} {property : Text} {v : Value}
    (hbefore : ∀ p ∈ before, ¬ Unreadable p.2) (h : Unreadable v) :
    scalarsOf (before ++ (property, v) :: after) = .error (.complaint v) := by
  induction before with
  | nil =>
    rw [List.nil_append, scalarsOf, scalarOf_unreadable h]
    rfl
  | cons p rest ih =>
    obtain ⟨property', w⟩ := p
    rw [List.forall_mem_cons] at hbefore
    rw [List.cons_append, scalarsOf, scalarOf_readable hbefore.1, ih hbefore.2]
    rfl

/-- Either all nodes can be read or there is a first one that cannot. -/
theorem readable_or_first (nodes : Mapping Text Value) :
    (∀ p ∈ nodes, ¬ Unreadable p.2) ∨ ∃ before property v after,
      nodes = before ++ (property, v) :: after ∧ (∀ p ∈ before, ¬ Unreadable p.2) ∧
        Unreadable v := by
  induction nodes with
  | nil => exact .inl (by simp)
  | cons p rest ih =>
    by_cases hp : Unreadable p.2
    · exact .inr ⟨[], p.1, p.2, rest, rfl, by simp, hp⟩
    · rcases ih with h | ⟨before, property, v, after, hrest, hbefore, h⟩
      · exact .inl (List.forall_mem_cons.2 ⟨hp, h⟩)
      · exact .inr ⟨p :: before, property, v, after, by rw [hrest, List.cons_append],
          List.forall_mem_cons.2 ⟨hp, hbefore⟩, h⟩

theorem propertiesOf_fault {definition : Mapping Text Value} {v : Value}
    (h : PropertiesFault definition v) : propertiesOf definition = .error (.complaint v) := by
  cases h with
  | shape h hv =>
    rw [propertiesOf, h]
    cases v with
    | object nodes => exact absurd rfl (hv nodes)
    | _ => rfl
  | node h hbefore hv =>
    rw [propertiesOf, h]
    exact scalarsOf_unreadable hbefore hv

theorem readable_of_faultless {definition nodes : Mapping Text Value}
    (hget : definition.get? ("properties" : String) = some (.object nodes))
    (h : ∀ v, ¬ PropertiesFault definition v) : ∀ p ∈ nodes, ¬ Unreadable p.2 := by
  rcases readable_or_first nodes with hall | ⟨before, property, v, after, rfl, hbefore, hv⟩
  · exact hall
  · exact absurd (.node hget hbefore hv) (h v)

theorem propertiesOf_faultless {definition : Mapping Text Value}
    (h : ∀ v, ¬ PropertiesFault definition v) :
    propertiesOf definition
      = .ok ((nodesOf (.object definition)).map fun p => (p.1, kindOf p.2)) := by
  rw [propertiesOf, nodesOf]
  cases hproperties : definition.get? ("properties" : String) with
  | none => rfl
  | some v =>
    cases v with
    | object nodes => exact scalarsOf_readable (readable_of_faultless hproperties h)
    | _ => exact absurd (.shape hproperties (by simp)) (h _)

/-! ## Keys -/

theorem toString?_eq_some_iff {key : Text} {name : String} :
    key.toString? = some name ↔ key = name := by
  constructor
  · intro h
    obtain ⟨cs, hcs, rfl⟩ := Option.map_eq_some_iff.1 h
    rw [Text.ofString, String.toList_ofList]
    clear h
    induction key generalizing cs with
    | nil =>
      cases hcs
      rfl
    | cons p rest ih =>
      cases p with
      | char c =>
        obtain ⟨ds, hds, rfl⟩ := Option.map_eq_some_iff.1 hcs
        rw [ih ds hds, Text.ofChars, Text.ofChars, List.map_cons]
      | half index => cases hcs
  · rintro rfl
    exact Text.toString?_ofString name

/-- What a key has to satisfy: it can name a class, and none of the names that its entity would
claim is taken. -/
def Usable (earlier : List Text) (key : Text) (name : String) : Prop :=
  key = name ∧ Names.classNameFault? name = none ∧
    ∀ generated ∈ claimedBy name, ∀ owner, ¬ ClaimedBefore earlier generated owner

theorem claimedNames_eq (e : Entity) : e.claimedNames = claimedBy e.name := rfl

/-- The names claimed so far are exactly those of the entities under the keys before.  A name has
one entry, so this also says that it has no two owners. -/
def Claims.Exact (claims : Claims) (earlier : List Text) : Prop :=
  ∀ generated owner, claims.get? generated = some owner ↔ ClaimedBefore earlier generated owner

namespace Claims.Exact

theorem nil : Claims.Exact [] [] := by
  intro generated owner
  exact ⟨fun h => absurd h (by simp [Mapping.get?]), fun h => absurd h.1 List.not_mem_nil⟩

theorem get?_eq_none_iff {claims : Claims} {earlier : List Text} (hc : claims.Exact earlier)
    {generated : String} :
    claims.get? generated = none ↔ ∀ owner, ¬ ClaimedBefore earlier generated owner := by
  rw [Option.eq_none_iff_forall_ne_some]
  exact forall_congr' fun owner => not_congr (hc generated owner)

/-- An entity that claims nothing twice can be added. -/
theorem add {claims : Claims} {earlier : List Text} (hc : claims.Exact earlier) {e : Entity}
    (h : ∀ generated ∈ claimedBy e.name, ∀ owner, ¬ ClaimedBefore earlier generated owner) :
    (claims.add e).Exact (earlier ++ [(e.name : Text)]) := by
  intro generated owner
  rw [Claims.add, Mapping.get?_map_append, claimedNames_eq, ClaimedBefore, List.mem_append,
    List.mem_singleton, Text.ofString_inj]
  split
  · rename_i hmem
    rw [Option.some_inj]
    constructor
    · rintro rfl
      exact ⟨.inr rfl, hmem⟩
    · rintro ⟨hearlier | rfl, hclaimed⟩
      · exact absurd ⟨hearlier, hclaimed⟩ (h generated hmem owner)
      · rfl
  · rename_i hmem
    rw [hc generated owner]
    constructor
    · exact fun hbefore => ⟨.inl hbefore.1, hbefore.2⟩
    · rintro ⟨hearlier | rfl, hclaimed⟩
      · exact ⟨hearlier, hclaimed⟩
      · exact absurd hclaimed hmem

end Claims.Exact

/-- A new entity owns none of the names claimed so far, so every claimed name is a clash. -/
theorem claimFault?_eq {claims : Claims} {earlier : List Text} (hc : claims.Exact earlier)
    {e : Entity} (hkey : (e.name : Text) ∉ earlier) :
    claimFault? claims e = (claimedBy e.name).findSome? fun generated =>
      (claims.get? generated).map (.claimed generated) := by
  rw [claimFault?, claimedNames_eq]
  congr 1
  funext generated
  cases hget : claims.get? generated with
  | none => rfl
  | some owner =>
    have howner : owner ≠ e.name := by
      rintro rfl
      exact hkey ((hc generated e.name).1 hget).1
    simp only [if_neg howner, Option.map_some]

theorem claimFault?_eq_none_iff {claims : Claims} {earlier : List Text} (hc : claims.Exact earlier)
    {e : Entity} (hkey : (e.name : Text) ∉ earlier) :
    claimFault? claims e = none ↔
      ∀ generated ∈ claimedBy e.name, ∀ owner, ¬ ClaimedBefore earlier generated owner := by
  rw [claimFault?_eq hc hkey, List.findSome?_eq_none_iff]
  refine forall₂_congr fun generated _ => ?_
  rw [Option.map_eq_none_iff, hc.get?_eq_none_iff]

theorem claimFault?_eq_some_iff {claims : Claims} {earlier : List Text} (hc : claims.Exact earlier)
    {e : Entity} (hkey : (e.name : Text) ∉ earlier) {fault : NameFault} :
    claimFault? claims e = some fault ↔ ∃ before generated after owner,
      claimedBy e.name = before ++ generated :: after ∧
      (∀ g ∈ before, ∀ other, ¬ ClaimedBefore earlier g other) ∧
      ClaimedBefore earlier generated owner ∧ fault = .claimed generated owner := by
  rw [claimFault?_eq hc hkey, List.findSome?_eq_some_iff]
  constructor
  · rintro ⟨before, generated, after, hclaims, hfault, hbefore⟩
    obtain ⟨owner, howner, rfl⟩ := Option.map_eq_some_iff.1 hfault
    refine ⟨before, generated, after, owner, hclaims, fun g hg => ?_, (hc _ _).1 howner, rfl⟩
    exact hc.get?_eq_none_iff.1 (Option.map_eq_none_iff.1 (hbefore g hg))
  · rintro ⟨before, generated, after, owner, hclaims, hbefore, howner, rfl⟩
    refine ⟨before, generated, after, hclaims, ?_, fun g hg => ?_⟩
    · rw [(hc generated owner).2 howner, Option.map_some]
    · rw [hc.get?_eq_none_iff.2 (hbefore g hg), Option.map_none]

theorem keyFault?_ofString (name : String) :
    keyFault? (name : Text) = Names.classNameFault? name := by
  rw [keyFault?, Text.toString?_ofString]

theorem readName_usable {claims : Claims} {earlier : List Text} (hc : claims.Exact earlier)
    {key : Text} (hkey : key ∉ earlier) {name : String} (h : Usable earlier key name) :
    readName claims key = .ok name := by
  obtain ⟨rfl, hclass, hclaims⟩ := h
  have hfault : nameFault? claims ⟨name, []⟩ = none := by
    simp only [nameFault?, hclass]
    exact (claimFault?_eq_none_iff hc hkey).2 hclaims
  simp only [readName, Text.toString?_ofString, hfault]

theorem readName_fault {claims : Claims} {earlier : List Text} (hc : claims.Exact earlier)
    {key : Text} (hkey : key ∉ earlier) {fault : NameFault} (h : KeyFault earlier key fault) :
    readName claims key = .error (.unusableName key fault) := by
  cases h with
  | unfit h =>
    rw [keyFault?] at h
    rw [readName]
    cases hname : key.toString? with
    | none =>
      rw [hname] at h
      cases h
      rfl
    | some name =>
      rw [hname] at h
      simp only [nameFault?, h]
  | @claimed name generated owner before after hname hfit hclaims hbefore howner hunique =>
    subst hname
    rw [keyFault?_ofString] at hfit
    have hfault : nameFault? claims ⟨name, []⟩ = some (.claimed generated owner) := by
      simp only [nameFault?, hfit]
      exact (claimFault?_eq_some_iff hc hkey).2
        ⟨before, generated, after, owner, hclaims, hbefore, howner, rfl⟩
    simp only [readName, Text.toString?_ofString, hfault]

/-- A key that is not at fault is usable.  This is where the owner of a name has to be the only
one: a name with two owners would be no fault of the key. -/
theorem usable_of_faultless {claims : Claims} {earlier : List Text} (hc : claims.Exact earlier)
    {key : Text} (hkey : key ∉ earlier) (h : ∀ fault, ¬ KeyFault earlier key fault) :
    ∃ name, Usable earlier key name := by
  have hfit : keyFault? key = none := by
    rw [Option.eq_none_iff_forall_ne_some]
    exact fun fault hfault => h fault (.unfit hfault)
  cases hname : key.toString? with
  | none =>
    rw [keyFault?, hname] at hfit
    cases hfit
  | some name =>
    obtain rfl := toString?_eq_some_iff.1 hname
    refine ⟨name, rfl, keyFault?_ofString name ▸ hfit, ?_⟩
    rw [← claimFault?_eq_none_iff (e := ⟨name, []⟩) hc hkey, Option.eq_none_iff_forall_ne_some]
    intro fault hfault
    obtain ⟨before, generated, after, owner, hclaims, hbefore, howner, rfl⟩ :=
      (claimFault?_eq_some_iff hc hkey).1 hfault
    refine h _ (.claimed rfl hfit hclaims hbefore howner fun other hother => ?_)
    have hget := (hc generated owner).2 howner
    rw [(hc generated other).2 hother] at hget
    exact Option.some.inj hget

/-! ## One member -/

theorem fieldsFrom_eq_mapIdx (position : Nat) (properties : Mapping Text Scalar) :
    Entity.fieldsFrom position properties
      = properties.mapIdx fun k p => ⟨p.1, p.2, (position + k : Nat)⟩ := by
  induction properties generalizing position with
  | nil => rfl
  | cons p rest ih =>
    obtain ⟨name, scalar⟩ := p
    rw [Entity.fieldsFrom, ih, List.mapIdx_cons]
    simp only [Nat.add_zero, Nat.add_right_comm, Nat.add_assoc]

theorem describes_ofProperties {key : Text} {name : String} (hkey : key = name)
    (definition : Mapping Text Value) :
    Describes (key, .object definition)
      (.ofProperties name ((nodesOf (.object definition)).map fun p => (p.1, kindOf p.2))) := by
  refine ⟨hkey, ?_⟩
  rw [Entity.ofProperties, fieldsFrom_eq_mapIdx]
  refine List.ext_getElem? fun k => ?_
  simp only [List.getElem?_mapIdx, List.getElem?_map, Option.map_map, Function.comp_def,
    Nat.zero_add]

theorem Describes.unique {member : Text × Value} {e e' : Entity} (h : Describes member e)
    (h' : Describes member e') : e = e' := by
  obtain ⟨name, fields⟩ := e
  obtain ⟨name', fields'⟩ := e'
  have hname : name = name' := Text.ofString_inj.1 (h.name.symm.trans h'.name)
  have hfields : fields = fields' := h.fields.trans h'.fields.symm
  rw [hname, hfields]

theorem readEntity_fault {claims : Claims} {earlier : List Text} (hc : claims.Exact earlier)
    {key : Text} (hkey : key ∉ earlier) {d : Value} {refusal : Refusal}
    (h : MemberFault earlier key d refusal) :
    readEntity claims key d = .error (raised refusal) := by
  cases h with
  | definition h =>
    cases d with
    | object definition => exact absurd rfl (h definition)
    | _ => rfl
  | key h => simp only [readEntity, readName_fault hc hkey h, raised]
  | properties hfaultless h =>
    obtain ⟨name, hname⟩ := usable_of_faultless hc hkey hfaultless
    simp only [readEntity, readName_usable hc hkey hname, propertiesOf_fault h]
    rfl

/-- **One step.**  A member without fault becomes the entity that it describes. -/
theorem readEntity_faultless {claims : Claims} {earlier : List Text} (hc : claims.Exact earlier)
    {key : Text} (hkey : key ∉ earlier) {d : Value}
    (h : ∀ refusal, ¬ MemberFault earlier key d refusal) :
    ∃ e, readEntity claims key d = .ok e ∧ Describes (key, d) e ∧ Usable earlier key e.name := by
  cases d with
  | object definition =>
    have hfaultless : ∀ fault, ¬ KeyFault earlier key fault := fun fault hfault =>
      h _ (.key hfault)
    have hproperties : ∀ v, ¬ PropertiesFault definition v := fun v hv =>
      h _ (.properties hfaultless hv)
    obtain ⟨name, hname⟩ := usable_of_faultless hc hkey hfaultless
    refine ⟨_, ?_, describes_ofProperties hname.1 definition, hname⟩
    simp only [readEntity, readName_usable hc hkey hname, propertiesOf_faultless hproperties]
    rfl
  | _ => exact absurd (.definition (by simp)) (h _)

/-! ## A run over all members -/

theorem faultless_or_first (earlier : List Text) (members : Mapping Text Value) :
    Faultless earlier members ∨ ∃ before key d after refusal,
      members = before ++ (key, d) :: after ∧ Faultless earlier before ∧
        MemberFault (earlier ++ Mapping.keys before) key d refusal := by
  induction members generalizing earlier with
  | nil => exact .inl trivial
  | cons member rest ih =>
    obtain ⟨key, d⟩ := member
    by_cases hfault : ∃ refusal, MemberFault earlier key d refusal
    · obtain ⟨refusal, hrefusal⟩ := hfault
      exact .inr ⟨[], key, d, rest, refusal, rfl, trivial, by simpa using hrefusal⟩
    · rw [not_exists] at hfault
      rcases ih (earlier ++ [key]) with h | ⟨before, key', d', after, refusal, rfl, hbefore, h⟩
      · exact .inl ⟨hfault, h⟩
      · refine .inr ⟨(key, d) :: before, key', d', after, refusal, rfl, ⟨hfault, hbefore⟩, ?_⟩
        rwa [Mapping.keys_cons, List.append_cons]

/-- What the keys of a document provide for one member and for those after it. -/
theorem not_mem_of_nodup_keys {earlier : List Text} {key : Text} {d : Value}
    {rest : Mapping Text Value} (h : (earlier ++ Mapping.keys ((key, d) :: rest)).Nodup) :
    key ∉ earlier ∧ (earlier ++ [key] ++ Mapping.keys rest).Nodup := by
  rw [Mapping.keys_cons] at h
  refine ⟨fun hmem => ?_, by rwa [← List.append_cons]⟩
  exact (List.nodup_append.1 h).2.2 key hmem key List.mem_cons_self rfl

/-- The entities of a document, each of them described by its member and usable after the keys of
those before it. -/
inductive Accepted : List Text → Mapping Text Value → List Entity → Prop
  | nil {earlier : List Text} : Accepted earlier [] []
  | cons {earlier : List Text} {key : Text} {d : Value} {rest : Mapping Text Value} {e : Entity}
      {entities : List Entity} (hfault : ∀ refusal, ¬ MemberFault earlier key d refusal)
      (hdescribes : Describes (key, d) e) (husable : Usable earlier key e.name)
      (hrest : Accepted (earlier ++ [key]) rest entities) :
      Accepted earlier ((key, d) :: rest) (e :: entities)

theorem Accepted.describes {earlier : List Text} {members : Mapping Text Value}
    {entities : List Entity} (h : Accepted earlier members entities) :
    List.Forall₂ Describes members entities := by
  induction h with
  | nil => exact .nil
  | cons _ hdescribes _ _ ih => exact .cons hdescribes ih

/-- The definition of an entity of a document. -/
theorem Accepted.definition {earlier : List Text} {members : Mapping Text Value}
    {entities : List Entity} (h : Accepted earlier members entities) {e : Entity}
    (he : e ∈ entities) :
    ∃ definition, ((e.name : Text), Value.object definition) ∈ members ∧
      (∀ v, ¬ PropertiesFault definition v) ∧ Describes (e.name, .object definition) e := by
  induction h with
  | nil => exact absurd he List.not_mem_nil
  | @cons earlier key d rest e' entities hfault hdescribes husable hrest ih =>
    rcases List.mem_cons.1 he with rfl | he
    · have hname : key = e.name := hdescribes.name
      subst hname
      cases d with
      | object definition =>
        refine ⟨definition, List.mem_cons_self, fun v hv => ?_, hdescribes⟩
        exact hfault _ (.properties (fun fault hkey => hfault _ (.key hkey)) hv)
      | _ => exact absurd (.definition (by simp)) (hfault _)
    · obtain ⟨definition, hmem, hdefinition⟩ := ih he
      exact ⟨definition, List.mem_cons_of_mem _ hmem, hdefinition⟩

/-- A key stays claimed when more keys come before. -/
theorem ClaimedBefore.mono {earlier later : List Text} {generated owner : String}
    (h : ClaimedBefore earlier generated owner) :
    ClaimedBefore (earlier ++ later) generated owner :=
  ⟨List.mem_append_left _ h.1, h.2⟩

theorem Accepted.usable {earlier : List Text} {members : Mapping Text Value}
    {entities : List Entity} (h : Accepted earlier members entities) {e : Entity}
    (he : e ∈ entities) :
    Names.classNameFault? e.name = none ∧
      ∀ generated ∈ claimedBy e.name, ∀ owner, ¬ ClaimedBefore earlier generated owner := by
  induction h with
  | nil => simp at he
  | cons _ _ husable _ ih =>
    rcases List.mem_cons.1 he with rfl | he
    · exact husable.2
    · refine ⟨(ih he).1, fun generated hgenerated owner howner => ?_⟩
      exact (ih he).2 generated hgenerated owner howner.mono

/-- No two entities of a document claim the same name. -/
theorem Accepted.disjoint {earlier : List Text} {members : Mapping Text Value}
    {entities : List Entity} (h : Accepted earlier members entities) :
    entities.Pairwise fun e e' => (claimedBy e.name).Disjoint (claimedBy e'.name) := by
  induction h with
  | nil => exact .nil
  | @cons earlier key d rest e entities _ hdescribes _ hrest ih =>
    refine .cons (fun e' he' => ?_) ih
    intro generated hgenerated hgenerated'
    have hkey : (e.name : Text) ∈ earlier ++ [key] := by
      rw [← hdescribes.name]
      exact List.mem_append_right _ List.mem_cons_self
    exact (hrest.usable he').2 generated hgenerated' e.name ⟨hkey, hgenerated⟩

/-- **A run without fault.**  It reads every member. -/
theorem readEntities_faultless {claims : Claims} {earlier : List Text} (hc : claims.Exact earlier)
    {members : Mapping Text Value} (hkeys : (earlier ++ Mapping.keys members).Nodup)
    (h : Faultless earlier members) :
    ∃ entities, readEntities claims members = (entities, none) ∧
      Accepted earlier members entities := by
  induction members generalizing claims earlier with
  | nil => exact ⟨[], rfl, .nil⟩
  | cons member rest ih =>
    obtain ⟨key, d⟩ := member
    obtain ⟨hkey, hrest⟩ := not_mem_of_nodup_keys hkeys
    obtain ⟨e, he, hdescribes, husable⟩ := readEntity_faultless hc hkey h.1
    have hadd : (claims.add e).Exact (earlier ++ [key]) := husable.1 ▸ hc.add husable.2.2
    obtain ⟨entities, hentities, haccepted⟩ := ih hadd hrest h.2
    refine ⟨e :: entities, ?_, .cons h.1 hdescribes husable haccepted⟩
    simp only [readEntities, he, hentities]

/-- **A run with a fault.**  It reads the members before the first one at fault. -/
theorem readEntities_fault {claims : Claims} {earlier : List Text} (hc : claims.Exact earlier)
    {before after : Mapping Text Value} {key : Text} {d : Value} {refusal : Refusal}
    (hkeys : (earlier ++ Mapping.keys (before ++ (key, d) :: after)).Nodup)
    (hbefore : Faultless earlier before)
    (h : MemberFault (earlier ++ Mapping.keys before) key d refusal) :
    ∃ entities, readEntities claims (before ++ (key, d) :: after)
        = (entities, some (raised refusal)) ∧
      List.Forall₂ Describes before entities := by
  induction before generalizing claims earlier with
  | nil =>
    rw [Mapping.keys_nil, List.append_nil] at h
    refine ⟨[], ?_, .nil⟩
    simp only [List.nil_append, readEntities,
      readEntity_fault hc (not_mem_of_nodup_keys hkeys).1 h]
  | cons member rest ih =>
    obtain ⟨key', d'⟩ := member
    rw [List.cons_append] at hkeys ⊢
    obtain ⟨hkey', hrest⟩ := not_mem_of_nodup_keys hkeys
    obtain ⟨e, he, hdescribes, husable⟩ := readEntity_faultless hc hkey' hbefore.1
    have hadd : (claims.add e).Exact (earlier ++ [key']) := husable.1 ▸ hc.add husable.2.2
    rw [Mapping.keys_cons, List.append_cons] at h
    obtain ⟨entities, hentities, hall⟩ := ih hadd hrest hbefore.2 h
    refine ⟨e :: entities, ?_, .cons hdescribes hall⟩
    simp only [readEntities, he, hentities]

/-! ## The outcome -/

theorem describes_rightUnique : Relator.RightUnique Describes := fun _ _ _ => Describes.unique

theorem build_faultless {members : Mapping Text Value} (hv : (Value.object members).WellKeyed)
    (h : Faultless [] members) : ∃ entities, Accepted [] members entities ∧
      build (.object members)
        = ⟨entities.map .entityRead ++ [.schemaRead entities.length], .ok entities⟩ := by
  obtain ⟨entities, hread, haccepted⟩ := readEntities_faultless .nil hv.keys_nodup h
  refine ⟨entities, haccepted, ?_⟩
  simp only [build, hread]

theorem build_fault {before after : Mapping Text Value} {key : Text} {d : Value} {refusal : Refusal}
    (hv : (Value.object (before ++ (key, d) :: after)).WellKeyed) (hbefore : Faultless [] before)
    (h : MemberFault (Mapping.keys before) key d refusal) :
    ∃ entities, List.Forall₂ Describes before entities ∧
      build (.object (before ++ (key, d) :: after))
        = ⟨entities.map .entityRead, .error (raised refusal)⟩ := by
  obtain ⟨entities, hread, hall⟩ := readEntities_fault .nil hv.keys_nodup hbefore h
  refine ⟨entities, hall, ?_⟩
  simp only [build, hread]

/-- Only an object without fault is accepted. -/
theorem accepted_of_build {v : Value} (hv : v.WellKeyed) {entities : List Entity}
    (h : (build v).result = .ok entities) :
    ∃ members, v = .object members ∧ Accepted [] members entities := by
  cases v with
  | object members =>
    refine ⟨members, rfl, ?_⟩
    rcases faultless_or_first [] members with hfine | ⟨before, key, d, after, _, rfl, hbefore, hd⟩
    · obtain ⟨entities', haccepted, hbuild⟩ := build_faultless hv hfine
      rw [hbuild] at h
      cases h
      exact haccepted
    · obtain ⟨entities', -, hbuild⟩ := build_fault hv hbefore hd
      rw [hbuild] at h
      cases h
  | _ => cases h

/-- The names of the entities of a document that was read can name classes. -/
theorem usable_of_build {v : Value} (hv : v.WellKeyed) {entities : List Entity}
    (h : (build v).result = .ok entities) {e : Entity} (he : e ∈ entities) :
    Names.classNameFault? e.name = none := by
  obtain ⟨members, -, haccepted⟩ := accepted_of_build hv h
  exact (haccepted.usable he).1

theorem build_notObject {v : Value} (h : ∀ members, v ≠ .object members) :
    build v = ⟨[], .error (.complaint v)⟩ := by
  cases v with
  | object members => exact absurd rfl (h members)
  | _ => rfl

/-! ## One outcome -/

/-- Of two elements that each are the first with a property, neither comes before the other. -/
theorem first_unique {α : Type} {P : α → Prop} {before before' after after' : List α} {a a' : α}
    (hlists : before ++ a :: after = before' ++ a' :: after') (hbefore : ∀ x ∈ before, ¬ P x)
    (ha : P a) (hbefore' : ∀ x ∈ before', ¬ P x) (ha' : P a') : a = a' := by
  classical
  have hfind : ∀ (front back : List α) (x : α), (∀ y ∈ front, ¬ P y) → P x →
      (front ++ x :: back).find? (fun y => decide (P y)) = some x := by
    intro front back x hfront hx
    rw [List.find?_append, List.find?_eq_none.2 (by simpa using hfront), Option.none_or]
    exact List.find?_cons_of_pos (by simpa using hx)
  have hsame := hfind before after a hbefore ha
  rw [hlists, hfind before' after' a' hbefore' ha'] at hsame
  exact (Option.some.inj hsame).symm

theorem KeyFault.unique {earlier : List Text} {key : Text} {fault fault' : NameFault}
    (h : KeyFault earlier key fault) (h' : KeyFault earlier key fault') : fault = fault' := by
  cases h with
  | unfit h =>
    cases h' with
    | unfit h' => exact Option.some.inj (h.symm.trans h')
    | claimed _ hfit _ _ _ _ => exact absurd (h.symm.trans hfit) (by simp)
  | claimed hname hfit hclaims hbefore howner hunique =>
    cases h' with
    | unfit h' => exact absurd (h'.symm.trans hfit) (by simp)
    | claimed hname' _ hclaims' hbefore' howner' _ =>
      obtain rfl := Text.ofString_inj.1 (hname.symm.trans hname')
      obtain rfl := first_unique (P := fun g => ∃ other, ClaimedBefore earlier g other)
        (hclaims.symm.trans hclaims') (by simpa using hbefore) ⟨_, howner⟩ (by simpa using hbefore')
        ⟨_, howner'⟩
      rw [hunique _ howner']

theorem PropertiesFault.unique {definition : Mapping Text Value} {v v' : Value}
    (h : PropertiesFault definition v) (h' : PropertiesFault definition v') : v = v' := by
  cases h with
  | shape h hv =>
    cases h' with
    | shape h' _ => exact Option.some.inj (h.symm.trans h')
    | node h' _ _ => exact absurd (Option.some.inj (h.symm.trans h')) (hv _)
  | node h hbefore hv =>
    cases h' with
    | shape h' hv' => exact absurd (Option.some.inj (h'.symm.trans h)) (hv' _)
    | node h' hbefore' hv' =>
      have hnodes := Value.object.inj (Option.some.inj (h.symm.trans h'))
      exact congrArg Prod.snd
        (first_unique (P := fun p => Unreadable p.2) hnodes hbefore hv hbefore' hv')

theorem MemberFault.unique {earlier : List Text} {key : Text} {d : Value}
    {refusal refusal' : Refusal} (h : MemberFault earlier key d refusal)
    (h' : MemberFault earlier key d refusal') : refusal = refusal' := by
  cases h with
  | definition h =>
    cases h' with
    | definition _ => rfl
    | _ => exact absurd rfl (h _)
  | key h =>
    cases h' with
    | definition h' => exact absurd rfl (h' _)
    | key h' => rw [h.unique h']
    | properties hkey _ => exact absurd h (hkey _)
  | properties hkey h =>
    cases h' with
    | definition h' => exact absurd rfl (h' _)
    | key h' => exact absurd h' (hkey _)
    | properties _ h' => rw [h.unique h']

theorem not_memberFault_of_faultless {earlier : List Text} {before after : Mapping Text Value}
    {key : Text} {d : Value} (h : Faultless earlier (before ++ (key, d) :: after))
    (refusal : Refusal) : ¬ MemberFault (earlier ++ Mapping.keys before) key d refusal := by
  induction before generalizing earlier with
  | nil =>
    rw [Mapping.keys_nil, List.append_nil]
    exact h.1 refusal
  | cons member rest ih =>
    obtain ⟨key', d'⟩ := member
    rw [Mapping.keys_cons, List.append_cons]
    exact ih h.2

/-- The first member at fault is the only first one, by induction on the members before it. -/
theorem first_fault_unique {earlier : List Text} {before before' after after' : Mapping Text Value}
    {key key' : Text} {d d' : Value} {refusal refusal' : Refusal}
    (hmembers : before ++ (key, d) :: after = before' ++ (key', d') :: after')
    (hbefore : Faultless earlier before) (hbefore' : Faultless earlier before')
    (h : MemberFault (earlier ++ Mapping.keys before) key d refusal)
    (h' : MemberFault (earlier ++ Mapping.keys before') key' d' refusal') :
    before = before' ∧ refusal = refusal' := by
  induction before generalizing earlier before' with
  | nil =>
    cases before' with
    | nil =>
      cases hmembers
      exact ⟨rfl, h.unique h'⟩
    | cons member rest =>
      cases hmembers
      rw [Mapping.keys_nil, List.append_nil] at h
      exact absurd h (hbefore'.1 refusal)
  | cons member rest ih =>
    obtain ⟨first, definition⟩ := member
    cases before' with
    | nil =>
      cases hmembers
      rw [Mapping.keys_nil, List.append_nil] at h'
      exact absurd h' (hbefore.1 refusal')
    | cons member' rest' =>
      obtain ⟨first', definition'⟩ := member'
      rw [List.cons_append, List.cons_append, List.cons.injEq, Prod.mk.injEq] at hmembers
      obtain ⟨⟨rfl, rfl⟩, hmembers⟩ := hmembers
      rw [Mapping.keys_cons, List.append_cons] at h h'
      obtain ⟨rfl, hrefusal⟩ := ih hmembers hbefore.2 hbefore'.2 h h'
      exact ⟨rfl, hrefusal⟩

theorem Makes.unique {refusal : Refusal} {complaint complaint' : Complaint}
    (h : Makes refusal complaint) (h' : Makes refusal complaint') : complaint = complaint' := by
  cases h with
  | shape v =>
    cases h'
    rfl
  | name key hreason =>
    cases h' with
    | name _ hreason' =>
      rw [NameFault.reason_iff] at hreason hreason'
      rw [← hreason, hreason']

theorem exists_makes {earlier : List Text} {key : Text} {d : Value} {refusal : Refusal}
    (h : MemberFault earlier key d refusal) : ∃ complaint, Makes refusal complaint := by
  cases h with
  | key _ => exact ⟨_, .name _ (NameFault.reason_iff.2 rfl)⟩
  | _ => exact ⟨_, .shape _⟩

theorem Outcome.unique {v : Value} {s s' : Seen} (h : Outcome v s) (h' : Outcome v s') :
    s = s' := by
  have hentities : ∀ {members entities entities'}, List.Forall₂ Describes members entities →
      List.Forall₂ Describes members entities' → entities = entities' := fun he he' =>
    List.right_unique_forall₂' describes_rightUnique he he'
  generalize hv : v = w at h'
  cases h with
  | notObject h =>
    cases h' with
    | notObject _ => rw [hv]
    | _ => exact absurd hv (h _)
  | refused hbefore he h hmakes =>
    cases h' with
    | notObject h' => exact absurd hv.symm (h' _)
    | refused hbefore' he' h' hmakes' =>
      rw [← List.nil_append (Mapping.keys _)] at h h'
      obtain ⟨rfl, rfl⟩ := first_fault_unique (Value.object.inj hv) hbefore hbefore' h h'
      rw [hentities he he', hmakes.unique hmakes']
    | accepted hall _ =>
      cases hv
      exact absurd h (not_memberFault_of_faultless hall _)
  | accepted hall he =>
    cases h' with
    | notObject h' => exact absurd hv.symm (h' _)
    | refused _ _ h' _ =>
      cases hv
      exact absurd h' (not_memberFault_of_faultless hall _)
    | accepted _ he' =>
      cases hv
      rw [hentities he he']

/-! ## What is shown -/

/-- What a document is built into shows what should be seen: every event leaves its record, and the
end is the same. -/
structure Shows (r : Reported (Except Refusal (List Entity))) (s : Seen) : Prop where
  records : List.Forall₂ Event.Recorded r.events s.records
  complaint : ∀ complaint, s.result = .error complaint →
    ∃ refusal, r.result = .error refusal ∧ Makes refusal complaint
  entities : ∀ entities, s.result = .ok entities → r.result = .ok entities

/-- Nothing else is shown. -/
theorem Shows.unique {r : Reported (Except Refusal (List Entity))} {s s' : Seen} (h : Shows r s)
    (h' : Shows r s') : s = s' := by
  obtain ⟨records, result⟩ := s
  obtain ⟨records', result'⟩ := s'
  have hrecords : records = records' :=
    List.right_unique_forall₂' (fun event record record' hr hr' => by
      rw [Event.recorded_iff] at hr hr'
      rw [← hr, hr']) h.records h'.records
  have hresult : result = result' := by
    cases result with
    | ok entities =>
      have hok := h.entities _ rfl
      cases result' with
      | ok entities' => exact congrArg Except.ok (Except.ok.inj (hok.symm.trans (h'.entities _ rfl)))
      | error complaint' =>
        obtain ⟨refusal, herror, -⟩ := h'.complaint _ rfl
        cases hok.symm.trans herror
    | error complaint =>
      obtain ⟨refusal, herror, hmakes⟩ := h.complaint _ rfl
      cases result' with
      | ok entities' => cases herror.symm.trans (h'.entities _ rfl)
      | error complaint' =>
        obtain ⟨refusal', herror', hmakes'⟩ := h'.complaint _ rfl
        cases herror.symm.trans herror'
        rw [hmakes.unique hmakes']
  rw [hrecords, hresult]

theorem recorded_entities (entities : List Entity) :
    List.Forall₂ Event.Recorded (entities.map .entityRead) (entities.map entityRecord) := by
  rw [List.forall₂_map_left_iff, List.forall₂_map_right_iff]
  exact List.forall₂_same.2 fun e _ => .entityRead e

/-- A refusal is shown as it is made, unless there is no quoting the value that it is about. -/
theorem shows_raised_iff {entities : List Entity} {refusal : Refusal} {complaint : Complaint}
    (hmakes : Makes refusal complaint) :
    Shows ⟨entities.map .entityRead, .error (raised refusal)⟩
        ⟨entities.map entityRecord, .error complaint⟩ ↔
      ∀ x, complaint = .shape x → x.longNumber? = none := by
  constructor
  · rintro ⟨-, hshown, -⟩ x rfl
    obtain ⟨shown, hraised, hshape⟩ := hshown _ rfl
    cases hmakes
    cases hshape
    rw [Option.eq_none_iff_forall_ne_some]
    intro n hn
    rw [raised, Refusal.complaint_of_some hn] at hraised
    cases hraised
  · intro h
    refine ⟨recorded_entities entities, ?_, fun _ hok => by cases hok⟩
    rintro _ ⟨⟩
    refine ⟨refusal, congrArg Except.error ?_, hmakes⟩
    cases hmakes with
    | shape v => exact Refusal.complaint_of_none (h v rfl)
    | name key _ => rfl

/-- What is built shows what should be seen, unless a number is in the way. -/
structure ShowsOrStops (r : Reported (Except Refusal (List Entity))) (s : Seen) : Prop where
  /-- Only a complaint about a shape can be in question: it has to quote its value. -/
  shows_iff : Shows r s ↔ ∀ x, s.result = .error (.shape x) → x.longNumber? = none
  /-- The records are as they should be either way. -/
  records : List.Forall₂ Event.Recorded r.events s.records
  /-- Where there is no quoting the value, the first long number in it takes the place of the
  complaint. -/
  stopped : ∀ x n, s.result = .error (.shape x) → x.longNumber? = some n →
    r.result = .error (.longNumber n)

theorem showsOrStops_raised {entities : List Entity} {refusal : Refusal} {complaint : Complaint}
    (hmakes : Makes refusal complaint) :
    ShowsOrStops ⟨entities.map .entityRead, .error (raised refusal)⟩
      ⟨entities.map entityRecord, .error complaint⟩ := by
  refine ⟨?_, recorded_entities entities, ?_⟩
  · rw [shows_raised_iff hmakes]
    simp only [Except.error.injEq]
  · rintro x n ⟨⟩ hn
    cases hmakes
    exact congrArg Except.error (Refusal.complaint_of_some hn)

theorem showsOrStops_entities (entities : List Entity) :
    ShowsOrStops ⟨entities.map .entityRead ++ [.schemaRead entities.length], .ok entities⟩
      ⟨entities.map entityRecord
        ++ [⟨.info, .schema, "Parsed " ++ toString entities.length ++ " entities"⟩],
        .ok entities⟩ := by
  have hrecords := List.rel_append (recorded_entities entities)
    (List.Forall₂.cons (Event.Recorded.schemaRead entities.length) .nil)
  refine ⟨iff_of_true ⟨hrecords, ?_, ?_⟩ ?_, hrecords, ?_⟩
  · rintro _ ⟨⟩
  · rintro _ ⟨⟩
    rfl
  · rintro _ ⟨⟩
  · rintro _ _ ⟨⟩

theorem exists_outcome {v : Value} (hv : v.WellKeyed) : ∃ s, Outcome v s := by
  by_cases hobject : ∃ members, v = .object members
  · obtain ⟨members, rfl⟩ := hobject
    rcases faultless_or_first [] members with h | ⟨before, key, d, after, _, rfl, hbefore, h⟩
    · obtain ⟨entities, haccepted, -⟩ := build_faultless hv h
      exact ⟨_, .accepted h haccepted.describes⟩
    · obtain ⟨entities, hentities, -⟩ := build_fault hv hbefore h
      obtain ⟨complaint, hmakes⟩ := exists_makes h
      exact ⟨_, .refused hbefore hentities h hmakes⟩
  · rw [not_exists] at hobject
    exact ⟨_, .notObject hobject⟩

theorem Outcome.showsOrStops {v : Value} (hv : v.WellKeyed) {s : Seen} (h : Outcome v s) :
    ShowsOrStops (build v) s := by
  cases h with
  | notObject h =>
    rw [build_notObject h]
    exact @showsOrStops_raised [] _ _ (.shape v)
  | refused hbefore hentities h hmakes =>
    obtain ⟨entities', hentities', hbuild⟩ := build_fault hv hbefore h
    rw [hbuild, List.right_unique_forall₂' describes_rightUnique hentities' hentities]
    exact showsOrStops_raised hmakes
  | accepted h hentities =>
    obtain ⟨entities', haccepted, hbuild⟩ := build_faultless hv h
    rw [hbuild, List.right_unique_forall₂' describes_rightUnique haccepted.describes hentities]
    exact showsOrStops_entities _

/-- **A document has exactly one outcome, and `build` shows it** unless the outcome is a complaint
about a shape with a number in it that is too long. -/
theorem existsUnique_outcome {v : Value} (hv : v.WellKeyed) :
    (∃! s, Outcome v s) ∧ ∀ s, Outcome v s → ShowsOrStops (build v) s := by
  obtain ⟨s, hs⟩ := exists_outcome hv
  exact ⟨⟨s, hs, fun _ h => h.unique hs⟩, fun _ h => h.showsOrStops hv⟩

/-- A document with several faults: the second entity is called like a handler of the first and has
null for `properties`, and the third is null. -/
def faultyDocument : Value :=
  .object
    [("Order", .object [("properties", .object [("id", .object [("type", .string "integer")])])]),
      ("list_order", .object [("properties", .null)]), ("Item", .null)]

theorem existsUnique_outcome_faultyDocument :
    faultyDocument.WellKeyed ∧ Outcome faultyDocument
      ⟨[⟨.debug, .schema, "entity Order: id:i64"⟩],
        .error (.name "list_order" "generates 'list_order', already used by entity 'Order'")⟩ := by
  have hv : faultyDocument.WellKeyed := by decide
  obtain ⟨⟨s, hs, -⟩, hall⟩ := existsUnique_outcome hv
  have hrefusal : (build faultyDocument).result
      = .error (.unusableName "list_order" (.claimed "list_order" "Order")) := rfl
  have hshows : Shows (build faultyDocument) s := by
    refine (hall s hs).shows_iff.2 fun x hx => ?_
    rw [Option.eq_none_iff_forall_ne_some]
    intro n hn
    rw [(hall s hs).stopped x n hx hn] at hrefusal
    cases hrefusal
  have hs' : s = ⟨[⟨.debug, .schema, "entity Order: id:i64"⟩],
      .error (.name "list_order"
        "generates 'list_order', already used by entity 'Order'")⟩ := by
    refine hshows.unique ⟨.cons (Event.recorded_iff.2 rfl) .nil, ?_, ?_⟩
    · rintro _ ⟨⟩
      exact ⟨_, hrefusal, .name _ (NameFault.reason_iff.2 rfl)⟩
    · rintro _ ⟨⟩
  exact ⟨hv, hs' ▸ hs⟩

/-- A number of one digit too many, in place of a document. -/
def longDocument : Value := .int Number.leastLong

/-- A number is no document, but there is no complaint about this one. -/
theorem outcome_longDocument :
    longDocument.WellKeyed ∧ Outcome longDocument ⟨[], .error (.shape longDocument)⟩ ∧
      (build longDocument).result = .error (.longNumber Number.leastLong) ∧
      ¬ Shows (build longDocument) ⟨[], .error (.shape longDocument)⟩ := by
  have hlong : longDocument.longNumber? = some Number.leastLong :=
    Value.longNumber?_int_of Number.isWritable_leastLong
  have hbuild : (build longDocument).result = .error (.longNumber Number.leastLong) :=
    congrArg Except.error (Refusal.complaint_of_some hlong)
  refine ⟨.int _, .notObject (by simp [longDocument]), hbuild, fun hshows => ?_⟩
  obtain ⟨refusal, hrefusal, hmakes⟩ := hshows.complaint _ rfl
  rw [hbuild] at hrefusal
  cases hrefusal
  cases hmakes

end EntityService.Schema
