import EntityService.Proofs.RowValues
import Mathlib.Data.List.Perm.Basic

/-!
# The order of members

A member of a document is checked against the names that the members before it have claimed, and
never the other way round.  So it is not plain that a document stays acceptable when its members
change places: what was checked against what is different then.

It does stay acceptable, because the order can be taken out of the rule.  A document is accepted if
and only if each of its members is sound by itself and no two of them claim a name in common, and to
have a claim in common is symmetric.

## What is here

* `ReorderedBy` — a list in another order, with its items changed by a relation.
* `SameDefinition`, `SameMember` — definitions and members that differ in the order of their
  properties only; `SameEntity` — entities that do.
* `Sound`, `Apart` — what is asked of one member, and of the keys of two.
* `accepts_iff` — the rule without the order.
* `build_reordered` — the main statement.
-/

set_option autoImplicit false

namespace EntityService

/-- The second list is the first in another order, with every item changed as `R` allows. -/
def ReorderedBy {α β : Type} (R : α → β → Prop) (xs : List α) (ys : List β) : Prop :=
  ∃ between, xs.Perm between ∧ List.Forall₂ R between ys

theorem ReorderedBy.symm {α : Type} {R : α → α → Prop} (hR : ∀ x y, R x y → R y x) {xs ys : List α}
    (h : ReorderedBy R xs ys) : ReorderedBy R ys xs := by
  obtain ⟨between, hperm, hall⟩ := h
  have hback : List.Forall₂ R ys between := hall.flip.imp fun y x => hR x y
  obtain ⟨between', hall', hperm'⟩ := List.perm_comp_forall₂ hperm hback.flip
  exact ⟨between', hperm'.symm, hall'.flip⟩

/-- Entities with one name and one scalar kind for each property. -/
structure SameEntity (e e' : Entity) : Prop where
  name : e.name = e'.name
  /-- The same properties, each of the same kind, in any order. -/
  properties : e.properties.Perm e'.properties

namespace Schema

open EntityService.Json

/-- Definitions that differ at most in the order of the members under `properties`. -/
inductive SameDefinition : Value → Value → Prop
  | refl (d : Value) : SameDefinition d d
  | properties {before after nodes nodes' : Mapping Text Value} (h : nodes.Perm nodes') :
      SameDefinition (.object (before ++ (.ofString "properties", .object nodes) :: after))
        (.object (before ++ (.ofString "properties", .object nodes') :: after))

/-- Members with one key whose definitions differ at most in the order of properties. -/
structure SameMember (p q : Text × Value) : Prop where
  key : p.1 = q.1
  definition : SameDefinition p.2 q.2

/-! ## What is asked of one member -/

/-- The value under `properties` is an object of nodes that can be read, or there is none. -/
def SoundProperties : Option Value → Prop
  | none => True
  | some (.object nodes) => ∀ p ∈ nodes, ¬ Unreadable p.2
  | some _ => False

/-- A definition that can be read. -/
def SoundDefinition : Value → Prop
  | .object definition => SoundProperties (Mapping.get? definition (.ofString "properties"))
  | _ => False

/-- A member that nothing is wrong with, whatever the other members are. -/
structure Sound (member : Text × Value) : Prop where
  key : keyFault? member.1 = none
  definition : SoundDefinition member.2

theorem soundDefinition_iff {definition : Mapping Text Value} :
    SoundDefinition (.object definition) ↔ ∀ v, ¬ PropertiesFault definition v := by
  rw [SoundDefinition]
  constructor
  · intro h v hv
    cases hv with
    | shape hget hv =>
      rw [hget] at h
      cases v with
      | object nodes => exact hv nodes rfl
      | _ => exact h
    | node hget _ hv =>
      rw [hget] at h
      exact h _ (List.mem_append_right _ List.mem_cons_self) hv
  · intro h
    cases hget : Mapping.get? definition (.ofString "properties") with
    | none => trivial
    | some v =>
      cases v with
      | object nodes => exact readable_of_faultless hget h
      | _ => exact h _ (.shape hget (by simp))

/-! ## What the order of properties has no part in -/

namespace SameDefinition

variable {d d' : Value}

theorem symm (h : SameDefinition d d') : SameDefinition d' d := by
  cases h with
  | refl => exact .refl d
  | properties h => exact .properties h.symm

theorem wellKeyed (h : SameDefinition d d') (hd : d.WellKeyed) : d'.WellKeyed := by
  cases h with
  | refl => exact hd
  | @properties before after nodes nodes' h =>
    have hnodes : (Value.object nodes).WellKeyed :=
      hd.of_mem (List.mem_append_right _ List.mem_cons_self)
    have hnodes' : (Value.object nodes').WellKeyed :=
      .object ((h.map Prod.fst).nodup_iff.1 hnodes.keys_nodup) fun p hp =>
        hnodes.of_mem (h.mem_iff.2 hp)
    refine .object ?_ fun p hp => ?_
    · have hkeys := hd.keys_nodup
      rw [Mapping.keys, List.map_append, List.map_cons] at hkeys ⊢
      exact hkeys
    · rcases List.mem_append.1 hp with hp | hp
      · exact hd.of_mem (List.mem_append_left _ hp)
      · rcases List.mem_cons.1 hp with rfl | hp
        · exact hnodes'
        · exact hd.of_mem (List.mem_append_right _ (List.mem_cons_of_mem _ hp))

/-- What stands under `properties` of an object, with the object split at such a member. -/
theorem get?_split (before after nodes : Mapping Text Value) :
    Mapping.get? (before ++ (.ofString "properties", .object nodes) :: after)
        (.ofString "properties")
      = (Mapping.get? before (.ofString "properties")).or (some (.object nodes)) := by
  rw [Mapping.get?_append, Mapping.get?, if_pos rfl]

theorem sound (h : SameDefinition d d') (hd : SoundDefinition d) : SoundDefinition d' := by
  cases h with
  | refl => exact hd
  | @properties before after nodes nodes' h =>
    rw [SoundDefinition, get?_split] at hd ⊢
    cases hbefore : Mapping.get? before (.ofString "properties") with
    | some v => rwa [hbefore] at hd
    | none =>
      rw [hbefore] at hd
      exact fun p hp => hd p (h.mem_iff.2 hp)

theorem nodes_perm (h : SameDefinition d d') : (nodesOf d).Perm (nodesOf d') := by
  cases h with
  | refl => exact .refl _
  | @properties before after nodes nodes' h =>
    simp only [nodesOf, get?_split]
    cases hbefore : Mapping.get? before (.ofString "properties") with
    | some v => exact .refl _
    | none => exact h

end SameDefinition

theorem SameMember.symm {p q : Text × Value} (h : SameMember p q) : SameMember q p :=
  ⟨h.key.symm, h.definition.symm⟩

theorem SameMember.sound {p q : Text × Value} (h : SameMember p q) (hp : Sound p) : Sound q :=
  ⟨h.key ▸ hp.key, h.definition.sound hp.definition⟩

theorem Describes.properties_eq {member : Text × Value} {e : Entity} (h : Describes member e)
    (hv : member.2.WellKeyed) :
    e.properties = (nodesOf member.2).map fun p => (p.1, kindOf p.2) := by
  rw [Entity.properties, h.map_fields]
  refine Mapping.ofPairs_eq_self ?_
  rw [Mapping.keys, List.map_map]
  exact (nodesOf_wellKeyed hv).keys_nodup

theorem SameMember.sameEntity {p q : Text × Value} (h : SameMember p q) (hp : p.2.WellKeyed)
    {e e' : Entity} (he : Describes p e) (he' : Describes q e') : SameEntity e e' := by
  refine ⟨Text.ofString_inj.1 ?_, ?_⟩
  · rw [← he.name, h.key, he'.name]
  · rw [he.properties_eq hp, he'.properties_eq (h.definition.wellKeyed hp)]
    exact h.definition.nodes_perm.map _

/-! ## The rule without the order -/

/-- Entities under two keys claim no name in common. -/
def Apart (key key' : Text) : Prop :=
  ∀ name name' : String, key = name → key' = name' → (claimedBy name).Disjoint (claimedBy name')

theorem Apart.symm {key key' : Text} (h : Apart key key') : Apart key' key :=
  fun name name' hname hname' => List.disjoint_symm (h name' name hname' hname)

theorem faultless_of_sound {earlier : List Text} {members : Mapping Text Value}
    (hsound : ∀ p ∈ members, Sound p) (hapart : (earlier ++ Mapping.keys members).Pairwise Apart) :
    Faultless earlier members := by
  induction members generalizing earlier with
  | nil => trivial
  | cons member rest ih =>
    obtain ⟨key, d⟩ := member
    rw [List.forall_mem_cons] at hsound
    rw [Mapping.keys_cons] at hapart
    refine ⟨fun refusal hfault => ?_, ih hsound.2 (by rwa [← List.append_cons])⟩
    have hdefinition : SoundDefinition d := hsound.1.definition
    cases hfault with
    | definition h =>
      cases d with
      | object definition => exact h definition rfl
      | _ => exact hdefinition
    | key h =>
      cases h with
      | unfit h =>
        rw [hsound.1.key] at h
        cases h
      | @claimed name generated owner before after hname _ hclaims _ howner _ =>
        have hkeys := (List.pairwise_append.1 hapart).2.2 owner howner.1 key List.mem_cons_self
        refine hkeys owner name rfl hname howner.2 ?_
        rw [hclaims]
        exact List.mem_append_right _ List.mem_cons_self
    | properties _ h => exact soundDefinition_iff.1 hdefinition _ h

theorem Accepted.sound {earlier : List Text} {members : Mapping Text Value} {entities : List Entity}
    (h : Accepted earlier members entities) : ∀ p ∈ members, Sound p := by
  induction h with
  | nil => simp
  | @cons earlier key d rest e entities hfault _ husable _ ih =>
    refine List.forall_mem_cons.2 ⟨?_, ih⟩
    cases d with
    | object definition =>
      have hkey : ∀ fault, ¬ KeyFault earlier key fault := fun fault h => hfault _ (.key h)
      refine ⟨?_, soundDefinition_iff.2 fun v hv => hfault _ (.properties hkey hv)⟩
      rw [husable.1, keyFault?_ofString, husable.2.1]
    | _ => exact absurd (.definition (by simp)) (hfault _)

theorem Accepted.keys_eq {earlier : List Text} {members : Mapping Text Value}
    {entities : List Entity} (h : Accepted earlier members entities) :
    Mapping.keys members = entities.map fun e => (e.name : Text) := by
  induction h with
  | nil => rfl
  | cons _ hdescribes _ _ ih => rw [Mapping.keys_cons, List.map_cons, hdescribes.name, ih]

theorem Accepted.apart {earlier : List Text} {members : Mapping Text Value} {entities : List Entity}
    (h : Accepted earlier members entities) : (Mapping.keys members).Pairwise Apart := by
  rw [h.keys_eq, List.pairwise_map]
  refine h.disjoint.imp fun hdisjoint name name' hname hname' => ?_
  rwa [← Text.ofString_inj.1 hname, ← Text.ofString_inj.1 hname']

/-- A document is accepted if and only if its members are sound and apart from each other.  Nothing
here says which of two members comes first. -/
theorem accepts_iff {members : Mapping Text Value} (hv : (Value.object members).WellKeyed) :
    (∃ entities, (build (.object members)).result = .ok entities)
      ↔ (∀ p ∈ members, Sound p) ∧ (Mapping.keys members).Pairwise Apart := by
  constructor
  · rintro ⟨entities, h⟩
    obtain ⟨_, heq, haccepted⟩ := accepted_of_build hv h
    cases heq
    exact ⟨haccepted.sound, haccepted.apart⟩
  · rintro ⟨hsound, hapart⟩
    obtain ⟨entities, -, hbuild⟩ := build_faultless hv (faultless_of_sound hsound hapart)
    exact ⟨entities, by rw [hbuild]⟩

/-! ## Another order -/

section Reordered

variable {members members' : Mapping Text Value}

theorem keys_perm (h : ReorderedBy SameMember members members') :
    (Mapping.keys members).Perm (Mapping.keys members') := by
  obtain ⟨between, hperm, hall⟩ := h
  have hkeys : Mapping.keys between = Mapping.keys members' := by
    rw [← List.forall₂_eq_eq_eq, Mapping.keys, Mapping.keys, List.forall₂_map_left_iff,
      List.forall₂_map_right_iff]
    exact hall.imp fun _ _ h => h.key
  exact hkeys ▸ hperm.map _

theorem wellKeyed_reordered (h : ReorderedBy SameMember members members')
    (hv : (Value.object members).WellKeyed) : (Value.object members').WellKeyed := by
  refine .object ((keys_perm h).nodup_iff.1 hv.keys_nodup) fun q hq => ?_
  obtain ⟨between, hperm, hall⟩ := h
  obtain ⟨p, hp, hpq⟩ := exists_of_forall₂ hall.flip hq
  exact hpq.definition.wellKeyed (hv.of_mem (hperm.mem_iff.2 hp))

theorem sound_reordered (h : ReorderedBy SameMember members members')
    (hsound : ∀ p ∈ members, Sound p) : ∀ q ∈ members', Sound q := by
  intro q hq
  obtain ⟨between, hperm, hall⟩ := h
  obtain ⟨p, hp, hpq⟩ := exists_of_forall₂ hall.flip hq
  exact hpq.sound (hsound p (hperm.mem_iff.2 hp))

/-- Another order does not make a document unacceptable.  The keys that are apart stay apart because
being apart is symmetric. -/
theorem accepts_reordered (h : ReorderedBy SameMember members members')
    (hv : (Value.object members).WellKeyed)
    (haccepts : ∃ entities, (build (.object members)).result = .ok entities) :
    ∃ entities, (build (.object members')).result = .ok entities := by
  obtain ⟨hsound, hapart⟩ := (accepts_iff hv).1 haccepts
  refine (accepts_iff (wellKeyed_reordered h hv)).2 ⟨sound_reordered h hsound, ?_⟩
  exact ((keys_perm h).pairwise_iff fun hkey => hkey.symm).1 hapart

/-- Members that are the same up to the order of properties describe entities that are, one by
one. -/
theorem sameEntities {between : Mapping Text Value} {entities entities' : List Entity}
    (hall : List.Forall₂ SameMember between members') (hv : ∀ p ∈ between, p.2.WellKeyed)
    (hentities : List.Forall₂ Describes between entities)
    (hentities' : List.Forall₂ Describes members' entities') :
    List.Forall₂ SameEntity entities entities' := by
  induction hall generalizing entities entities' with
  | nil =>
    cases hentities
    cases hentities'
    exact .nil
  | cons hmember _ ih =>
    obtain _ | ⟨he, hentities⟩ := hentities
    obtain _ | ⟨he', hentities'⟩ := hentities'
    rw [List.forall_mem_cons] at hv
    exact .cons (hmember.sameEntity hv.1 he he') (ih hv.2 hentities hentities')

/-- The entities follow the members that they describe. -/
theorem entities_reordered (h : ReorderedBy SameMember members members')
    (hv : (Value.object members).WellKeyed) {entities entities' : List Entity}
    (hentities : List.Forall₂ Describes members entities)
    (hentities' : List.Forall₂ Describes members' entities') :
    ReorderedBy SameEntity entities entities' := by
  obtain ⟨between, hperm, hall⟩ := h
  obtain ⟨moved, hmoved, hentitiesPerm⟩ := List.perm_comp_forall₂ hperm.symm hentities
  have hkeyed : ∀ p ∈ between, p.2.WellKeyed := fun p hp => hv.of_mem (hperm.mem_iff.2 hp)
  exact ⟨moved, hentitiesPerm.symm, sameEntities hall hkeyed hmoved hentities'⟩

end Reordered

/-- **Acceptance does not depend on order.**  A document with its members, and the properties inside
its definitions, in another order is accepted if and only if the document itself is.  Then each list
of entities has the names of its own document's keys in their order, and the second is the first
in another order, entity by entity with the same scalar kind for each property. -/
theorem build_reordered {members members' : Mapping Text Value}
    (hv : (Value.object members).WellKeyed) (h : ReorderedBy SameMember members members') :
    ((∃ entities, (build (.object members)).result = .ok entities)
      ↔ ∃ entities', (build (.object members')).result = .ok entities') ∧
    ∀ entities entities', (build (.object members)).result = .ok entities →
      (build (.object members')).result = .ok entities' →
      ReorderedBy SameEntity entities entities' ∧
      Mapping.keys members = entities.map (fun e => (e.name : Text)) ∧
      Mapping.keys members' = entities'.map (fun e => (e.name : Text)) := by
  have hv' := wellKeyed_reordered h hv
  have hback : ReorderedBy SameMember members' members := h.symm fun _ _ => SameMember.symm
  refine ⟨⟨accepts_reordered h hv, accepts_reordered hback hv'⟩, ?_⟩
  intro entities entities' hbuild hbuild'
  obtain ⟨_, heq, haccepted⟩ := accepted_of_build hv hbuild
  obtain ⟨_, heq', haccepted'⟩ := accepted_of_build hv' hbuild'
  cases heq
  cases heq'
  exact ⟨entities_reordered h hv haccepted.describes haccepted'.describes, haccepted.keys_eq,
    haccepted'.keys_eq⟩

/-- Two entities, the second with two properties. -/
def shopDocument : Mapping Text Value :=
  [("Order", .object [("properties", .object [("id", .object [("type", .string "integer")])])]),
    ("Item", .object [("required", .null), ("properties", .object
      [("name", .object []), ("price", .object [("type", .string "number")])])])]

/-- The same with everything in reverse. -/
def shopDocumentReversed : Mapping Text Value :=
  [("Item", .object [("required", .null), ("properties", .object
      [("price", .object [("type", .string "number")]), ("name", .object [])])]),
    ("Order", .object [("properties", .object [("id", .object [("type", .string "integer")])])])]

theorem build_reordered_shopDocument :
    (Value.object shopDocument).WellKeyed ∧
    ReorderedBy SameMember shopDocument shopDocumentReversed ∧
    (build (.object shopDocument)).result
      = .ok [⟨"Order", [⟨"id", .i64, 0⟩]⟩, ⟨"Item", [⟨"name", .string, 0⟩, ⟨"price", .f64, 1⟩]⟩] ∧
    (build (.object shopDocumentReversed)).result
      = .ok [⟨"Item", [⟨"price", .f64, 0⟩, ⟨"name", .string, 1⟩]⟩, ⟨"Order", [⟨"id", .i64, 0⟩]⟩] ∧
    ReorderedBy SameEntity
      [⟨"Order", [⟨"id", .i64, 0⟩]⟩, ⟨"Item", [⟨"name", .string, 0⟩, ⟨"price", .f64, 1⟩]⟩]
      [⟨"Item", [⟨"price", .f64, 0⟩, ⟨"name", .string, 1⟩]⟩, ⟨"Order", [⟨"id", .i64, 0⟩]⟩] := by
  have hv : (Value.object shopDocument).WellKeyed := by decide
  have hreordered : ReorderedBy SameMember shopDocument shopDocumentReversed :=
    have hitem := @SameDefinition.properties [("required", .null)] [] _ _ (.swap _ _ _)
    ⟨_, .swap _ _ _, .cons ⟨rfl, hitem⟩ (.cons ⟨rfl, .refl _⟩ .nil)⟩
  have hbuild : (build (.object shopDocument)).result
      = .ok [⟨"Order", [⟨"id", .i64, 0⟩]⟩,
        ⟨"Item", [⟨"name", .string, 0⟩, ⟨"price", .f64, 1⟩]⟩] := by
    rfl
  have hbuild' : (build (.object shopDocumentReversed)).result
      = .ok [⟨"Item", [⟨"price", .f64, 0⟩, ⟨"name", .string, 1⟩]⟩,
        ⟨"Order", [⟨"id", .i64, 0⟩]⟩] := by
    rfl
  exact ⟨hv, hreordered, hbuild, hbuild',
    ((build_reordered hv hreordered).2 _ _ hbuild hbuild').1⟩

end Schema

end EntityService
