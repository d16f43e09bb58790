import EntityService.Proofs.MemberOrder

/-!
# Members that are ignored

Of a definition only `properties` counts, and of the node of a property only `type` and `format`,
and these only if they are not null.  This file drops everything else from a document and shows that
nothing but the values quoted in a refusal change.  There is one exception: a number of too many
digits keeps its value from being quoted, and it may have been dropped.

Null is treated in two ways.  Under `type` and `format` it counts as nothing and is dropped; under
`properties` it is a fault and stays.  Nothing that is at fault is dropped or mended either: a value
under `type` that is no text stays where it is, and so does a node that is no object.  So the first
member at fault stays the first one.

## What is here

* `stripNode`, `stripProperties`, `stripDefinition`, `strip` — what is left of each part.
* `stripRefusal` — a refusal that quotes what is left.
* `unreadable_stripNode`, `kindOf_stripNode` — nodes; `get?_stripDefinition`,
  `soundDefinition_strip`, `propertiesFault_strip` — definitions; `memberFault_strip`,
  `faultless_strip`, `describes_strip` — members.
* `FailsAt` — the member at which a document is refused.
* `SameKind`, `DropsNumber` — refusals of one kind, and the numbers that can make a difference.
* `build_strip` — the main statement, with `build_droppedDocument`, where the kinds differ.
-/

set_option autoImplicit false

namespace EntityService

namespace Mapping

variable {κ α β : Type}

/-- The values of a mapping changed, under the same keys. -/
def mapValues (f : α → β) (m : Mapping κ α) : Mapping κ β := m.map fun p => (p.1, f p.2)

theorem keys_mapValues (f : α → β) (m : Mapping κ α) : keys (mapValues f m) = keys m := by
  rw [keys, mapValues, List.map_map]
  rfl

theorem mapValues_split (f : α → β) (before after : Mapping κ α) (key : κ) (value : α) :
    mapValues f (before ++ (key, value) :: after)
      = mapValues f before ++ (key, f value) :: mapValues f after := by
  rw [mapValues, List.map_append, List.map_cons]
  rfl

variable [DecidableEq κ]

theorem get?_mapValues (f : α → β) (m : Mapping κ α) (key : κ) :
    get? (mapValues f m) key = (get? m key).map f := by
  induction m with
  | nil => rfl
  | cons p rest ih =>
    obtain ⟨k, v⟩ := p
    rw [mapValues, List.map_cons, ← mapValues, get?, get?, ih]
    split <;> rfl

/-- Under a key of a mapping without some of its pairs stands what stood there, unless it went. -/
theorem get?_filter {m : Mapping κ α} (hm : (keys m).Nodup) (keep : κ × α → Bool) (key : κ) :
    get? (m.filter keep) key = (get? m key).filter fun value => keep (key, value) := by
  induction m with
  | nil => rfl
  | cons p rest ih =>
    obtain ⟨k, v⟩ := p
    rw [keys_cons, List.nodup_cons] at hm
    by_cases hk : k = key
    · subst hk
      by_cases hkeep : keep (k, v) = true
      · rw [List.filter_cons_of_pos hkeep, get?, get?, if_pos rfl, if_pos rfl, Option.filter_some,
          if_pos hkeep]
      · -- the pair went, and its key has no second pair
        have hrest : get? rest k = none := get?_eq_none_iff.2 hm.1
        rw [List.filter_cons_of_neg hkeep, ih hm.2, get?, if_pos rfl, hrest, Option.filter_none,
          Option.filter_some, if_neg hkeep]
    · by_cases hkeep : keep (k, v) = true
      · rw [List.filter_cons_of_pos hkeep, get?, get?, if_neg hk, if_neg hk, ih hm.2]
      · rw [List.filter_cons_of_neg hkeep, get?, if_neg hk, ih hm.2]

end Mapping

/-- Whether a value is null. -/
def Json.Value.isNull : Json.Value → Bool
  | .null => true
  | _ => false

namespace Schema

open EntityService.Json

/-! ## What is left -/

/-- Whether a member of a node counts. -/
def counts (member : Text × Value) : Bool :=
  (member.1 = .ofString "type" || member.1 = .ofString "format") && !member.2.isNull

/-- A node with the members that count. -/
def stripNode : Value → Value
  | .object node => .object (node.filter counts)
  | v => v

/-- The nodes of properties with the members that count. -/
def stripProperties : Value → Value
  | .object nodes => .object (Mapping.mapValues stripNode nodes)
  | v => v

/-- A definition with its properties only. -/
def stripDefinition : Value → Value
  | .object definition =>
    .object (Mapping.mapValues stripProperties
      (definition.filter fun member => member.1 = .ofString "properties"))
  | d => d

/-- A document with what counts of its definitions. -/
def strip : Value → Value
  | .object members => .object (Mapping.mapValues stripDefinition members)
  | s => s

/-- A refusal that quotes what counts of the value that is at fault. -/
def stripRefusal : Refusal → Refusal
  | .shape v => .shape (stripNode v)
  | refusal => refusal

/-! ## Nodes -/

theorem get?_stripNode {node : Mapping Text Value} (hv : (Value.object node).WellKeyed)
    {key : String} (hkey : key = "type" ∨ key = "format") :
    Mapping.get? (node.filter counts) (key : Text)
      = (Mapping.get? node (key : Text)).filter fun v => !v.isNull := by
  rw [Mapping.get?_filter hv.keys_nodup]
  congr 1
  funext v
  rcases hkey with rfl | rfl <;> simp [counts]

theorem malformed_strip {node : Mapping Text Value} (hv : (Value.object node).WellKeyed)
    {key : String} (hkey : key = "type" ∨ key = "format") :
    Malformed (node.filter counts) key ↔ Malformed node key := by
  rw [Malformed, get?_stripNode hv hkey]
  constructor
  · rintro ⟨v, hget, hnull, htext⟩
    exact ⟨v, (Option.filter_eq_some_iff.1 hget).1, hnull, htext⟩
  · rintro ⟨v, hget, hnull, htext⟩
    refine ⟨v, Option.filter_eq_some_iff.2 ⟨hget, ?_⟩, hnull, htext⟩
    cases v with
    | null => exact absurd rfl hnull
    | _ => rfl

theorem unreadable_stripNode {v : Value} (hv : v.WellKeyed) :
    Unreadable (stripNode v) ↔ Unreadable v := by
  cases v with
  | object node => exact or_congr (malformed_strip hv (.inl rfl)) (malformed_strip hv (.inr rfl))
  | _ => exact Iff.rfl

theorem textUnder?_strip {node : Mapping Text Value} (hv : (Value.object node).WellKeyed)
    {key : String} (hkey : key = "type" ∨ key = "format") :
    textUnder? (node.filter counts) key = textUnder? node key := by
  rw [textUnder?, textUnder?, get?_stripNode hv hkey]
  cases Mapping.get? node (key : Text) with
  | none => rfl
  | some v => cases v <;> rfl

theorem kindOf_stripNode {v : Value} (hv : v.WellKeyed) : kindOf (stripNode v) = kindOf v := by
  cases v with
  | object node =>
    simp only [stripNode, kindOf, textUnder?_strip hv (.inl rfl), textUnder?_strip hv (.inr rfl)]
  | _ => rfl

/-! ## Definitions -/

theorem get?_stripDefinition {definition : Mapping Text Value}
    (hv : (Value.object definition).WellKeyed) :
    Mapping.get? (Mapping.mapValues stripProperties
        (definition.filter fun member => member.1 = .ofString "properties"))
        (.ofString "properties")
      = (Mapping.get? definition (.ofString "properties")).map stripProperties := by
  rw [Mapping.get?_mapValues, Mapping.get?_filter hv.keys_nodup]
  cases Mapping.get? definition (.ofString "properties") with
  | none => rfl
  | some v => rw [Option.filter_some, if_pos (decide_eq_true rfl)]

theorem nodesOf_stripDefinition {d : Value} (hv : d.WellKeyed) :
    nodesOf (stripDefinition d) = Mapping.mapValues stripNode (nodesOf d) := by
  cases d with
  | object definition =>
    rw [stripDefinition, nodesOf, get?_stripDefinition hv, nodesOf]
    cases Mapping.get? definition (.ofString "properties") with
    | none => rfl
    | some v => cases v <;> rfl
  | _ => rfl

theorem soundDefinition_strip {d : Value} (hv : d.WellKeyed) :
    SoundDefinition (stripDefinition d) ↔ SoundDefinition d := by
  cases d with
  | object definition =>
    rw [stripDefinition, SoundDefinition, get?_stripDefinition hv, SoundDefinition]
    cases hget : Mapping.get? definition (.ofString "properties") with
    | none => exact Iff.rfl
    | some v =>
      cases v with
      | object nodes =>
        have hnodes : (Value.object nodes).WellKeyed := hv.of_mem (Mapping.mem_of_get? hget)
        simp only [Option.map_some, stripProperties, SoundProperties, Mapping.mapValues,
          List.forall_mem_map]
        exact forall₂_congr fun p hp => not_congr (unreadable_stripNode (hnodes.of_mem hp))
      | _ => exact Iff.rfl
  | _ => exact Iff.rfl

/-- What is wrong with the properties of a definition is wrong with what is left of them. -/
theorem propertiesFault_strip {definition : Mapping Text Value} {v : Value}
    (hv : (Value.object definition).WellKeyed) (h : PropertiesFault definition v) :
    PropertiesFault (Mapping.mapValues stripProperties
      (definition.filter fun member => member.1 = .ofString "properties")) (stripNode v) := by
  cases h with
  | shape hget hobject =>
    have hsame : stripProperties v = stripNode v := by
      cases v with
      | object nodes => exact absurd rfl (hobject nodes)
      | _ => rfl
    refine .shape ?_ fun nodes hnodes => ?_
    · rw [get?_stripDefinition hv, hget, Option.map_some, hsame]
    · cases v with
      | object nodes => exact hobject nodes rfl
      | _ => cases hnodes
  | @node before after property v hget hbefore hnode =>
    have hnodes : (Value.object (before ++ (property, v) :: after)).WellKeyed :=
      hv.of_mem (Mapping.mem_of_get? hget)
    have hstripped := (get?_stripDefinition hv).trans (congrArg (Option.map stripProperties) hget)
    rw [Option.map_some, stripProperties, Mapping.mapValues_split] at hstripped
    refine .node hstripped (List.forall_mem_map.2 fun p hp => ?_) ?_
    · rw [unreadable_stripNode (hnodes.of_mem (List.mem_append_left _ hp))]
      exact hbefore p hp
    · rwa [unreadable_stripNode (hnodes.of_mem (List.mem_append_right _ List.mem_cons_self))]

/-! ## Members -/

theorem stripDefinition_notObject {d : Value} (h : ∀ definition, d ≠ .object definition) :
    stripDefinition d = d ∧ stripNode d = d := by
  cases d with
  | object definition => exact absurd rfl (h definition)
  | _ => exact ⟨rfl, rfl⟩

/-- A member at fault stays at fault, and what is quoted of it is what is left of it. -/
theorem memberFault_strip {earlier : List Text} {key : Text} {d : Value} {refusal : Refusal}
    (hv : d.WellKeyed) (h : MemberFault earlier key d refusal) :
    MemberFault earlier key (stripDefinition d) (stripRefusal refusal) := by
  cases h with
  | definition h =>
    obtain ⟨hdefinition, hnode⟩ := stripDefinition_notObject h
    rw [hdefinition, stripRefusal, hnode]
    exact .definition h
  | key h => exact .key h
  | properties hkey h => exact .properties hkey (propertiesFault_strip hv h)

/-- A member that is not at fault does not become so. -/
theorem member_faultless_strip {earlier : List Text} {key : Text} {d : Value} (hv : d.WellKeyed)
    (h : ∀ refusal, ¬ MemberFault earlier key d refusal) (refusal : Refusal) :
    ¬ MemberFault earlier key (stripDefinition d) refusal := by
  cases d with
  | object definition =>
    have hkey : ∀ fault, ¬ KeyFault earlier key fault := fun fault hfault => h _ (.key hfault)
    have hsound : SoundDefinition (stripDefinition (.object definition)) :=
      (soundDefinition_strip hv).2 (soundDefinition_iff.2 fun v hfault =>
        h _ (.properties hkey hfault))
    rintro (hobject | hfault | ⟨-, hfault⟩)
    · exact hobject _ rfl
    · exact hkey _ hfault
    · exact soundDefinition_iff.1 hsound _ hfault
  | _ => exact absurd (.definition (by simp)) (h _)

theorem faultless_strip {earlier : List Text} {members : Mapping Text Value}
    (hv : ∀ p ∈ members, p.2.WellKeyed) (h : Faultless earlier members) :
    Faultless earlier (Mapping.mapValues stripDefinition members) := by
  induction members generalizing earlier with
  | nil => trivial
  | cons member rest ih =>
    rw [List.forall_mem_cons] at hv
    exact ⟨member_faultless_strip hv.1 h.1, ih hv.2 h.2⟩

theorem describes_strip {key : Text} {d : Value} {e : Entity} (hv : d.WellKeyed)
    (h : Describes (key, d) e) : Describes (key, stripDefinition d) e := by
  refine ⟨h.name, ?_⟩
  rw [h.fields, nodesOf_stripDefinition hv]
  refine List.ext_getElem? fun k => ?_
  rw [Mapping.mapValues, List.getElem?_mapIdx, List.getElem?_mapIdx, List.getElem?_map]
  cases hnode : (nodesOf d)[k]? with
  | none => rfl
  | some p =>
    have hp : p.2.WellKeyed := (nodesOf_wellKeyed hv).of_mem (List.mem_of_getElem? hnode)
    rw [Option.map_some, Option.map_some, Option.map_some, kindOf_stripNode hp]

theorem all_describes_strip {members : Mapping Text Value} {entities : List Entity}
    (hv : ∀ p ∈ members, p.2.WellKeyed) (h : List.Forall₂ Describes members entities) :
    List.Forall₂ Describes (Mapping.mapValues stripDefinition members) entities := by
  induction h with
  | nil => exact .nil
  | cons hdescribes _ ih =>
    rw [List.forall_mem_cons] at hv
    exact .cons (describes_strip hv.1 hdescribes) (ih hv.2)

/-! ## Documents -/

theorem wellKeyed_mapValues {f : Value → Value} {members : Mapping Text Value}
    (hv : (Value.object members).WellKeyed) (hf : ∀ v, v.WellKeyed → (f v).WellKeyed) :
    (Value.object (Mapping.mapValues f members)).WellKeyed := by
  refine .object (by rw [Mapping.keys_mapValues]; exact hv.keys_nodup) ?_
  exact List.forall_mem_map.2 fun p hp => hf p.2 (hv.of_mem hp)

theorem wellKeyed_filter {members : Mapping Text Value} (hv : (Value.object members).WellKeyed)
    (keep : Text × Value → Bool) : (Value.object (members.filter keep)).WellKeyed := by
  refine .object (hv.keys_nodup.sublist (List.filter_sublist.map _)) fun p hp => ?_
  exact hv.of_mem (List.mem_filter.1 hp).1

theorem stripNode_wellKeyed {v : Value} (hv : v.WellKeyed) : (stripNode v).WellKeyed := by
  cases v with
  | object node => exact wellKeyed_filter hv counts
  | _ => exact hv

theorem stripProperties_wellKeyed {v : Value} (hv : v.WellKeyed) :
    (stripProperties v).WellKeyed := by
  cases v with
  | object nodes => exact wellKeyed_mapValues hv fun _ => stripNode_wellKeyed
  | _ => exact hv

theorem stripDefinition_wellKeyed {d : Value} (hd : d.WellKeyed) :
    (stripDefinition d).WellKeyed := by
  cases d with
  | object definition =>
    exact wellKeyed_mapValues (wellKeyed_filter hd _) fun _ => stripProperties_wellKeyed
  | _ => exact hd

/-- A document is refused at one of its members: those before it are not at fault, and it is. -/
structure FailsAt (s : Value) (before : Mapping Text Value) (key : Text) (d : Value)
    (after : Mapping Text Value) (refusal : Refusal) : Prop where
  split : s = .object (before ++ (key, d) :: after)
  faultless : Faultless [] before
  fault : MemberFault (Mapping.keys before) key d refusal

theorem strip_split (before after : Mapping Text Value) (key : Text) (d : Value) :
    strip (.object (before ++ (key, d) :: after))
      = .object (Mapping.mapValues stripDefinition before
          ++ (key, stripDefinition d) :: Mapping.mapValues stripDefinition after) := by
  rw [strip, Mapping.mapValues_split]

theorem strip_wellKeyed {s : Value} (hs : s.WellKeyed) : (strip s).WellKeyed := by
  cases s with
  | object members => exact wellKeyed_mapValues hs fun _ => stripDefinition_wellKeyed
  | _ => exact hs

/-- What is left of a document is refused at what is left of the member at fault. -/
theorem FailsAt.strip {s : Value} (hs : s.WellKeyed) {before after : Mapping Text Value}
    {key : Text} {d : Value} {refusal : Refusal} (h : FailsAt s before key d after refusal) :
    FailsAt (strip s) (Mapping.mapValues stripDefinition before) key (stripDefinition d)
      (Mapping.mapValues stripDefinition after) (stripRefusal refusal) := by
  obtain ⟨rfl, hbefore, hfault⟩ := h
  refine ⟨strip_split before after key d, ?_, ?_⟩
  · exact faultless_strip (fun p hp => hs.of_mem (List.mem_append_left _ hp)) hbefore
  · rw [Mapping.keys_mapValues]
    exact memberFault_strip (hs.of_mem (List.mem_append_right _ List.mem_cons_self)) hfault

/-- A document without fault becomes what is left of it becomes. -/
theorem build_strip_of_faultless {members : Mapping Text Value}
    (hs : (Value.object members).WellKeyed) (h : Faultless [] members) :
    ∃ entities : List Entity, ∀ s ∈ [.object members, strip (.object members)],
      build s = ⟨entities.map .entityRead ++ [.schemaRead entities.length], .ok entities⟩ := by
  obtain ⟨entities, haccepted, hbuild⟩ := build_faultless hs h
  obtain ⟨entities', haccepted', hbuild'⟩ :=
    build_faultless (strip_wellKeyed hs) (faultless_strip (fun _ hp => hs.of_mem hp) h)
  have hentities := all_describes_strip (fun _ hp => hs.of_mem hp) haccepted.describes
  obtain rfl := List.right_unique_forall₂' describes_rightUnique hentities haccepted'.describes
  refine ⟨entities, ?_⟩
  rw [List.forall_mem_cons, List.forall_mem_singleton]
  exact ⟨hbuild, hbuild'⟩

/-- A document at fault is refused after the same events as what is left of it. -/
theorem FailsAt.build_strip_eq {s : Value} (hs : s.WellKeyed) {before after : Mapping Text Value}
    {key : Text} {d : Value} {refusal : Refusal} (h : FailsAt s before key d after refusal) :
    ∃ entities : List Entity,
      build s = ⟨entities.map .entityRead, .error (raised refusal)⟩ ∧
      build (Schema.strip s) = ⟨entities.map .entityRead, .error (raised (stripRefusal refusal))⟩ := by
  have hstrip := strip_wellKeyed hs
  obtain ⟨hsplit', hbefore', h'⟩ := h.strip hs
  obtain ⟨rfl, hbefore, hfault⟩ := h
  obtain ⟨entities, hentities, hbuild⟩ := build_fault hs hbefore hfault
  rw [hsplit'] at hstrip ⊢
  obtain ⟨entities', hentities', hbuild'⟩ := build_fault hstrip hbefore' h'
  have hsame := all_describes_strip (fun _ hp => hs.of_mem (List.mem_append_left _ hp)) hentities
  obtain rfl := List.right_unique_forall₂' describes_rightUnique hsame hentities'
  exact ⟨entities, hbuild, hbuild'⟩

/-! ## Kinds of refusal -/

/-- Two refusals of the same kind.  A value is quoted by the one, and what is left of it by the
other. -/
inductive SameKind : Refusal → Refusal → Prop
  | shape (v : Value) : SameKind (.shape v) (.shape (stripNode v))
  | name (key : Text) (fault : NameFault) :
      SameKind (.unusableName key fault) (.unusableName key fault)
  | number (n n' : Int) : SameKind (.longNumber n) (.longNumber n')

/-- The value that should be quoted has a number that is too long, but only where it is dropped. -/
def DropsNumber (refusal : Refusal) : Prop :=
  ∃ v, refusal = .shape v ∧ v.longNumber? ≠ none ∧ (stripNode v).longNumber? = none

/-- Nothing that is left is new. -/
theorem longNumber?_stripNode {v : Value} (h : v.longNumber? = none) :
    (stripNode v).longNumber? = none := by
  cases v with
  | object node =>
    rw [Value.longNumber?_object, List.findSome?_eq_none_iff] at h
    rw [stripNode, Value.longNumber?_object, List.findSome?_eq_none_iff]
    exact fun m hm => h m (List.mem_filter.1 hm).1
  | _ => exact h

theorem sameKind_complaint_iff (v : Value) :
    SameKind (.complaint v) (.complaint (stripNode v)) ↔ ¬ DropsNumber (.shape v) := by
  cases hv : v.longNumber? with
  | none =>
    rw [Refusal.complaint_of_none hv, Refusal.complaint_of_none (longNumber?_stripNode hv)]
    refine iff_of_true (.shape v) ?_
    rintro ⟨w, hw, hsome, -⟩
    cases hw
    exact hsome hv
  | some n =>
    rw [Refusal.complaint_of_some hv]
    cases hstripped : (stripNode v).longNumber? with
    | none =>
      rw [Refusal.complaint_of_none hstripped]
      refine iff_of_false (by rintro ⟨⟩) (not_not.2 ⟨v, rfl, ?_, hstripped⟩)
      rw [hv]
      exact Option.some_ne_none n
    | some n' =>
      rw [Refusal.complaint_of_some hstripped]
      refine iff_of_true (.number n n') ?_
      rintro ⟨w, hw, -, hnone⟩
      cases hw
      rw [hstripped] at hnone
      cases hnone

theorem FailsAt.sameKind_iff {s : Value} {before after : Mapping Text Value} {key : Text}
    {d : Value} {refusal : Refusal} (h : FailsAt s before key d after refusal) :
    SameKind (raised refusal) (raised (stripRefusal refusal)) ↔ ¬ DropsNumber refusal := by
  obtain ⟨-, -, hfault⟩ := h
  cases hfault with
  | key hkey =>
    refine iff_of_true (.name key _) ?_
    rintro ⟨w, hw, -⟩
    cases hw
  | definition _ => exact sameKind_complaint_iff _
  | properties _ _ => exact sameKind_complaint_iff _

theorem eq_shape_of_raised {refusal : Refusal} {v : Value} (h : raised refusal = .shape v) :
    refusal = .shape v := by
  cases refusal with
  | shape w =>
    rw [raised] at h
    cases hw : w.longNumber? with
    | none => rwa [Refusal.complaint_of_none hw] at h
    | some n =>
      rw [Refusal.complaint_of_some hw] at h
      cases h
  | _ => exact h

/-- A document that is not refused at a member is not refused. -/
theorem faultless_or_failsAt (members : Mapping Text Value) :
    Faultless [] members ∨
      ∃ before key d after refusal, FailsAt (.object members) before key d after refusal := by
  rcases faultless_or_first [] members with h | ⟨before, key, d, after, refusal, rfl, hbefore, h⟩
  · exact .inl h
  · exact .inr ⟨before, key, d, after, refusal, rfl, hbefore, h⟩

/-- **Only names, `properties`, `type` and `format` matter**, but for what a number of too many
digits does.  Without its other members, and without null under `type` and `format`, a document
becomes the same entities with the same events, or is refused after the same events and at the same
member, for what is left of the same value.  The refusals are of the same kind, except that a long
number in what was dropped keeps the document from being refused for the shape of a value. -/
theorem build_strip {members : Mapping Text Value} (hs : (Value.object members).WellKeyed) :
    (build (strip (.object members))).events = (build (.object members)).events ∧
    (∀ entities, (build (strip (.object members))).result = .ok entities ↔
      (build (.object members)).result = .ok entities) ∧
    ∀ refused, (build (.object members)).result = .error refused →
      ∃ before key d after refusal refused', FailsAt (.object members) before key d after refusal ∧
        FailsAt (strip (.object members)) (Mapping.mapValues stripDefinition before) key
          (stripDefinition d) (Mapping.mapValues stripDefinition after) (stripRefusal refusal) ∧
        refused = raised refusal ∧ refused' = raised (stripRefusal refusal) ∧
        (build (strip (.object members))).result = .error refused' ∧
        (SameKind refused refused' ↔ ¬ DropsNumber refusal) := by
  rcases faultless_or_failsAt members with h | ⟨before, key, d, after, refusal, h⟩
  · obtain ⟨entities, hall⟩ := build_strip_of_faultless hs h
    rw [List.forall_mem_cons, List.forall_mem_singleton] at hall
    rw [hall.1, hall.2]
    exact ⟨rfl, fun _ => Iff.rfl, fun _ herror => by cases herror⟩
  · obtain ⟨entities, hbuild, hbuild'⟩ := h.build_strip_eq hs
    rw [hbuild, hbuild']
    refine ⟨rfl, fun _ => iff_of_false (by rintro ⟨⟩) (by rintro ⟨⟩), ?_⟩
    rintro _ ⟨⟩
    exact ⟨before, key, d, after, refusal, _, h, h.strip hs, rfl, rfl, rfl, h.sameKind_iff⟩

/-- A document with much that is ignored, and a `type` that is no text in its second entity. -/
def verboseDocument : Mapping Text Value :=
  [("Order", .object [("type", .string "object"), ("properties", .object
      [("id", .object [("format", .null), ("type", .string "integer"), ("example", .int 7)])]),
      ("required", .array [.string "id"])]),
    ("Item", .object [("properties", .object
      [("name", .object [("type", .null), ("nullable", .bool true)]),
        ("size", .object [("unit", .string "mm"), ("type", .array [.null])])])])]

theorem build_strip_verboseDocument :
    (Value.object verboseDocument).WellKeyed ∧
    strip (.object verboseDocument) = .object
      [("Order", .object [("properties", .object [("id", .object [("type", .string "integer")])])]),
        ("Item", .object [("properties", .object
          [("name", .object []), ("size", .object [("type", .array [.null])])])])] ∧
    build (.object verboseDocument) = ⟨[.entityRead ⟨"Order", [⟨"id", .i64, 0⟩]⟩],
      .error (.shape (.object [("unit", .string "mm"), ("type", .array [.null])]))⟩ ∧
    (build (strip (.object verboseDocument))).events
      = [.entityRead ⟨"Order", [⟨"id", .i64, 0⟩]⟩] ∧
    (build (strip (.object verboseDocument))).result
      = .error (.shape (.object [("type", .array [.null])])) := by
  have hs : (Value.object verboseDocument).WellKeyed := by decide
  have hbuild : build (.object verboseDocument) = ⟨[.entityRead ⟨"Order", [⟨"id", .i64, 0⟩]⟩],
      .error (.shape (.object [("unit", .string "mm"), ("type", .array [.null])]))⟩ := by rfl
  obtain ⟨hevents, -, hrefused⟩ := build_strip hs
  obtain ⟨_, _, _, _, refusal, _, -, -, hraised, rfl, hresult, -⟩ :=
    hrefused _ (congrArg Reported.result hbuild)
  obtain rfl := eq_shape_of_raised hraised.symm
  rw [hbuild] at hevents
  exact ⟨hs, by rfl, hbuild, hevents, hresult⟩

/-- A node whose `type` is no text, next to a number of one digit too many. -/
def droppedNode : Mapping Text Value := [("type", .int 5), ("x", .int Number.leastLong)]

def droppedDocument : Value :=
  .object [("A", .object [("properties", .object [("p", .object droppedNode)])])]

/-- The number is in the way of a complaint about the node, and not of one about what is left. -/
theorem build_droppedDocument :
    droppedDocument.WellKeyed ∧
    (build droppedDocument).result = .error (.longNumber Number.leastLong) ∧
    (build (strip droppedDocument)).result = .error (.shape (.object [("type", .int 5)])) := by
  have htype : (Value.int 5).longNumber? = none :=
    if_pos (Number.isWritable_of_lt (show 1 ≤ Number.maxDigits by decide) (by decide))
  have hx : (Value.int Number.leastLong).longNumber? = some Number.leastLong :=
    Value.longNumber?_int_of Number.isWritable_leastLong
  have hnode : (Value.object droppedNode).longNumber? = some Number.leastLong := by
    rw [Value.longNumber?_object, droppedNode, List.findSome?_cons, htype, List.findSome?_cons, hx]
  have hleft : (Value.object [("type", .int 5)]).longNumber? = none := by
    rw [Value.longNumber?_object, List.findSome?_singleton, htype]
  exact ⟨by decide, congrArg Except.error (Refusal.complaint_of_some hnode),
    congrArg Except.error (Refusal.complaint_of_none hleft)⟩

end Schema

end EntityService
