import EntityService.Document

/-!
# Documents with distinct keys

A document value is a tree of lists, so nothing in its type keeps two members of one object from
having the same key.  Whatever is read from a text has distinct keys all the same: a member whose
key has been seen replaces the earlier one.  The theorems about schema documents assume no more
than this.

## What is here

* `Mapping.get?_eq_none_iff`, `Mapping.mem_of_get?`, `Mapping.get?_of_mem` — looking up a key is
  finding its pair, and with distinct keys there is only one pair to find.
* `Mapping.insert_of_not_mem`, `Mapping.ofPairs_eq_self` — a key that is not there yet comes last.
* `Value.WellKeyed` — the keys of every object in a value are distinct; `isWellKeyed_iff` makes it
  decidable.
* `ReadsWellKeyed`, `readers_wellKeyed` — the readers keep keys distinct, by induction on the depth.
* `ofBytes_wellKeyed` — a document that was read is well keyed.
-/

set_option autoImplicit false

namespace EntityService

/-! ## Steps that can fail -/

/-- Two steps succeed if the first does and the second does on its result. -/
theorem bind_eq_ok {ε α β : Type} {x : Except ε α} {f : α → Except ε β} {b : β} :
    x >>= f = .ok b ↔ ∃ a, x = .ok a ∧ f a = .ok b := by
  cases x with
  | error e =>
    constructor
    · intro h
      cases h
    · rintro ⟨a, h, -⟩
      cases h
  | ok a =>
    constructor
    · exact fun h => ⟨a, rfl, h⟩
    · rintro ⟨_, ha, hb⟩
      cases ha
      exact hb

/-- A step with a change of its result succeeds if the step does. -/
theorem map_eq_ok {ε α β : Type} {f : α → β} {x : Except ε α} {b : β} :
    x.map f = .ok b ↔ ∃ a, x = .ok a ∧ f a = b := by
  cases x with
  | error e => simp [Except.map]
  | ok a => simp [Except.map]

/-! ## Looking up keys -/

namespace Mapping

variable {κ α β : Type}

@[simp] theorem keys_nil : keys ([] : Mapping κ α) = [] := rfl

@[simp] theorem keys_cons (p : κ × α) (m : Mapping κ α) : keys (p :: m) = p.1 :: keys m := rfl

theorem mem_keys {m : Mapping κ α} {key : κ} : key ∈ keys m ↔ ∃ value, (key, value) ∈ m := by
  simp [keys]

theorem not_mem_keys_of_nodup {earlier later : Mapping κ α} {p : κ × α}
    (h : (keys (earlier ++ p :: later)).Nodup) : p.1 ∉ keys earlier := by
  rw [keys, List.map_append, List.nodup_append] at h
  exact fun hmem => h.2.2 p.1 hmem p.1 List.mem_cons_self rfl

variable [DecidableEq κ]

theorem get?_eq_none_iff {m : Mapping κ α} {key : κ} : get? m key = none ↔ key ∉ keys m := by
  induction m with
  | nil => simp [get?]
  | cons p rest ih =>
    obtain ⟨k, v⟩ := p
    rw [get?, keys_cons, List.mem_cons, not_or]
    split
    · rename_i h
      exact ⟨fun hn => absurd hn (by simp), fun hn => absurd h.symm hn.1⟩
    · rename_i h
      rw [ih]
      exact ⟨fun hn => ⟨fun e => h e.symm, hn⟩, fun hn => hn.2⟩

theorem mem_of_get? {m : Mapping κ α} {key : κ} {value : α} (h : get? m key = some value) :
    (key, value) ∈ m := by
  induction m with
  | nil => simp [get?] at h
  | cons p rest ih =>
    obtain ⟨k, v⟩ := p
    rw [get?] at h
    split at h
    · rename_i hk
      rw [Option.some_inj] at h
      rw [hk, h]
      exact List.mem_cons_self
    · exact List.mem_cons_of_mem _ (ih h)

theorem get?_of_mem {m : Mapping κ α} (hm : (keys m).Nodup) {key : κ} {value : α}
    (h : (key, value) ∈ m) : get? m key = some value := by
  induction m with
  | nil => simp at h
  | cons p rest ih =>
    obtain ⟨k, v⟩ := p
    rw [keys_cons, List.nodup_cons] at hm
    rw [get?]
    rcases List.mem_cons.1 h with h | h
    · cases h
      exact if_pos rfl
    · have hne : k ≠ key := fun e => hm.1 (e ▸ mem_keys.2 ⟨value, h⟩)
      rw [if_neg hne]
      exact ih hm.2 h

/-- Pairs with one value in front of a mapping hide what stands under their keys. -/
theorem get?_map_append (names : List κ) (value : α) (m : Mapping κ α) (key : κ) :
    get? (names.map (fun name => (name, value)) ++ m) key
      = if key ∈ names then some value else get? m key := by
  induction names with
  | nil => simp
  | cons name rest ih =>
    rw [List.map_cons, List.cons_append, get?, ih]
    by_cases h : name = key
    · rw [if_pos h, if_pos (h ▸ List.mem_cons_self)]
    · rw [if_neg h]
      simp only [List.mem_cons, Ne.symm h, false_or]

theorem get?_append (m m' : Mapping κ α) (key : κ) :
    get? (m ++ m') key = (get? m key).or (get? m' key) := by
  induction m with
  | nil => rfl
  | cons p rest ih =>
    obtain ⟨k, v⟩ := p
    rw [List.cons_append, get?, get?]
    split
    · rfl
    · exact ih

theorem insert_of_not_mem {m : Mapping κ α} {key : κ} (h : key ∉ keys m) (value : α) :
    insert m key value = m ++ [(key, value)] := by
  induction m with
  | nil => rfl
  | cons p rest ih =>
    obtain ⟨k, v⟩ := p
    rw [keys_cons, List.mem_cons, not_or] at h
    rw [insert, if_neg (Ne.symm h.1), ih h.2, List.cons_append]

/-- Pairs with distinct keys are a mapping as they stand. -/
theorem ofPairs_eq_self {pairs : List (κ × α)} (h : (keys pairs).Nodup) : ofPairs pairs = pairs := by
  suffices ∀ m : Mapping κ α, (keys (m ++ pairs)).Nodup →
      pairs.foldl (fun m p => insert m p.1 p.2) m = m ++ pairs from this [] h
  clear h
  induction pairs with
  | nil => exact fun m _ => (List.append_nil m).symm
  | cons p rest ih =>
    intro m hm
    rw [List.foldl_cons, insert_of_not_mem (not_mem_keys_of_nodup hm),
      ih _ (by rwa [← List.append_cons]), ← List.append_cons]

/-- An insertion changes no value but the inserted one. -/
theorem mem_insert {m : Mapping κ α} {key : κ} {value : α} {p : κ × α}
    (h : p ∈ insert m key value) : p = (key, value) ∨ p ∈ m := by
  induction m with
  | nil => exact .inl (by simpa [insert] using h)
  | cons q rest ih =>
    obtain ⟨k, v⟩ := q
    rw [insert] at h
    split at h
    · rename_i hk
      rcases List.mem_cons.1 h with h | h
      · exact .inl (by rw [h, hk])
      · exact .inr (List.mem_cons_of_mem _ h)
    · rcases List.mem_cons.1 h with h | h
      · exact .inr (h ▸ List.mem_cons_self)
      · exact (ih h).imp id (List.mem_cons_of_mem _)

end Mapping

/-! ## Well-keyed values -/

namespace Json

open EntityService.Number

/-- In every object of a value the keys are distinct. -/
inductive Value.WellKeyed : Value → Prop
  | null : WellKeyed .null
  | bool (b : Bool) : WellKeyed (.bool b)
  | int (n : Int) : WellKeyed (.int n)
  | float (x : Binary64) : WellKeyed (.float x)
  | string (t : Text) : WellKeyed (.string t)
  | array {items : List Value} (h : ∀ v ∈ items, WellKeyed v) : WellKeyed (.array items)
  | object {members : List (Text × Value)} (hkeys : (Mapping.keys members).Nodup)
      (h : ∀ p ∈ members, WellKeyed p.2) : WellKeyed (.object members)

namespace Value.WellKeyed

theorem keys_nodup {members : List (Text × Value)} (h : WellKeyed (.object members)) :
    (Mapping.keys members).Nodup := by
  cases h with
  | object hkeys _ => exact hkeys

theorem empty : WellKeyed (.object []) := .object List.nodup_nil (by simp)

theorem of_mem {members : List (Text × Value)} (h : WellKeyed (.object members))
    {p : Text × Value} (hp : p ∈ members) : p.2.WellKeyed := by
  cases h with
  | object _ hvalues => exact hvalues p hp

/-- An object stays well keyed when a member is added or replaced. -/
theorem insert {members : Mapping Text Value} (h : WellKeyed (.object members)) (key : Text)
    {v : Value} (hv : v.WellKeyed) : WellKeyed (.object (members.insert key v)) := by
  refine .object (Mapping.nodup_keys_insert h.keys_nodup key v) fun p hp => ?_
  rcases Mapping.mem_insert hp with rfl | hp
  · exact hv
  · exact h.of_mem hp

end Value.WellKeyed

/-! ### Checking it

The predicate is decidable: a value is checked by the recursion that prints it. -/

mutual

/-- Whether the keys of every object in a value are distinct. -/
def Value.isWellKeyed : Value → Bool
  | .array items => itemsWellKeyed items
  | .object members => decide (Mapping.keys members).Nodup && membersWellKeyed members
  | _ => true

/-- Whether this holds of every item of an array. -/
def itemsWellKeyed : List Value → Bool
  | [] => true
  | v :: rest => v.isWellKeyed && itemsWellKeyed rest

/-- Whether this holds of every member of an object. -/
def membersWellKeyed : List (Text × Value) → Bool
  | [] => true
  | (_, v) :: rest => v.isWellKeyed && membersWellKeyed rest

end

mutual

theorem isWellKeyed_iff (v : Value) : v.isWellKeyed = true ↔ v.WellKeyed := by
  cases v with
  | null => exact ⟨fun _ => .null, fun _ => rfl⟩
  | bool b => exact ⟨fun _ => .bool b, fun _ => rfl⟩
  | int n => exact ⟨fun _ => .int n, fun _ => rfl⟩
  | float x => exact ⟨fun _ => .float x, fun _ => rfl⟩
  | string t => exact ⟨fun _ => .string t, fun _ => rfl⟩
  | array items =>
    rw [Value.isWellKeyed, itemsWellKeyed_iff items]
    constructor
    · exact .array
    · rintro ⟨⟩
      assumption
  | object members =>
    rw [Value.isWellKeyed, Bool.and_eq_true, decide_eq_true_eq, membersWellKeyed_iff members]
    exact ⟨fun h => .object h.1 h.2, fun h => ⟨h.keys_nodup, fun _ => h.of_mem⟩⟩

theorem itemsWellKeyed_iff (items : List Value) :
    itemsWellKeyed items = true ↔ ∀ v ∈ items, v.WellKeyed := by
  match items with
  | [] => simp [itemsWellKeyed]
  | v :: rest =>
    rw [itemsWellKeyed, Bool.and_eq_true, isWellKeyed_iff v, itemsWellKeyed_iff rest,
      List.forall_mem_cons]

theorem membersWellKeyed_iff (members : List (Text × Value)) :
    membersWellKeyed members = true ↔ ∀ p ∈ members, p.2.WellKeyed := by
  match members with
  | [] => simp [membersWellKeyed]
  | (_, v) :: rest =>
    rw [membersWellKeyed, Bool.and_eq_true, isWellKeyed_iff v, membersWellKeyed_iff rest,
      List.forall_mem_cons]

end

instance (v : Value) : Decidable v.WellKeyed := decidable_of_iff _ (isWellKeyed_iff v)

/-! ## Reading -/

theorem readNumber_wellKeyed {start cs rest : List Char} {negative : Bool} {v : Value}
    (h : readNumber start negative cs = .ok (v, rest)) : v.WellKeyed := by
  simp only [readNumber] at h
  split at h
  · cases h
  · split at h
    · cases h
      exact .float _
    · split at h
      · cases h
      · cases h
        exact .int _

theorem readAtom_wellKeyed {cs rest : List Char} {v : Value} (h : readAtom cs = .ok (v, rest)) :
    v.WellKeyed := by
  unfold readAtom at h
  split at h
  · rename_i found hfound
    cases h
    obtain ⟨⟨word, value⟩, hmem, hword⟩ := List.exists_of_findSome?_eq_some hfound
    obtain ⟨left, -, hpair⟩ := Option.map_eq_some_iff.1 hword
    cases hpair
    simp only [words, List.mem_cons, Prod.mk.injEq, List.not_mem_nil, or_false] at hmem
    rcases hmem with ⟨-, rfl⟩ | ⟨-, rfl⟩ | ⟨-, rfl⟩ | ⟨-, rfl⟩ | ⟨-, rfl⟩ | ⟨-, rfl⟩ <;> constructor
  · split at h <;> exact readNumber_wellKeyed h

/-- What the three readers read at one depth is well keyed.  Items and members are read on top of
what was read before. -/
structure ReadsWellKeyed (fuel : Nat) : Prop where
  value : ∀ {cs rest : List Char} {v : Value}, readValue fuel cs = .ok (v, rest) → v.WellKeyed
  items : ∀ {items : List Value} {cs rest : List Char} {v : Value}, (∀ w ∈ items, w.WellKeyed) →
    readItems fuel items cs = .ok (v, rest) → v.WellKeyed
  members : ∀ {members : Mapping Text Value} {cs rest : List Char} {v : Value},
    Value.WellKeyed (.object members) → readMembers fuel members cs = .ok (v, rest) → v.WellKeyed

section Step

variable {fuel : Nat} (ih : ReadsWellKeyed fuel) {cs rest : List Char} {v : Value}

include ih

theorem readValue_wellKeyed (h : readValue (fuel + 1) cs = .ok (v, rest)) : v.WellKeyed := by
  unfold readValue at h
  split at h
  · obtain ⟨⟨s, left⟩, -, h⟩ := bind_eq_ok.1 h
    cases h
    exact .string s
  · split at h
    · cases h
      exact .array (by simp)
    · exact ih.items (by simp) h
  · split at h
    · cases h
      exact .empty
    · exact ih.members .empty h
  · exact readAtom_wellKeyed h

theorem readItems_wellKeyed {items : List Value} (hitems : ∀ w ∈ items, w.WellKeyed)
    (h : readItems (fuel + 1) items cs = .ok (v, rest)) : v.WellKeyed := by
  rw [readItems] at h
  obtain ⟨⟨w, left⟩, hw, h⟩ := bind_eq_ok.1 h
  have hall : ∀ u ∈ w :: items, u.WellKeyed := by
    intro u hu
    rcases List.mem_cons.1 hu with rfl | hu
    · exact ih.value hw
    · exact hitems u hu
  simp only at h
  split at h
  · cases h
    exact .array fun u hu => hall u (List.mem_reverse.1 hu)
  · exact ih.items hall h
  · cases h

theorem readMembers_wellKeyed {members : Mapping Text Value}
    (hmembers : Value.WellKeyed (.object members))
    (h : readMembers (fuel + 1) members cs = .ok (v, rest)) : v.WellKeyed := by
  unfold readMembers at h
  split at h
  · obtain ⟨⟨key, left⟩, -, h⟩ := bind_eq_ok.1 h
    simp only at h
    split at h
    · obtain ⟨⟨w, left⟩, hw, h⟩ := bind_eq_ok.1 h
      have hinsert := hmembers.insert key (ih.value hw)
      simp only at h
      split at h
      · cases h
        exact hinsert
      · exact ih.members hinsert h
      · cases h
    · cases h
  · cases h

end Step

/-- The readers keep keys distinct at every depth. -/
theorem readers_wellKeyed (fuel : Nat) : ReadsWellKeyed fuel := by
  induction fuel with
  | zero =>
    refine ⟨fun h => ?_, fun _ h => ?_, fun _ h => ?_⟩
    · rw [readValue] at h
      cases h
    · rw [readItems] at h
      cases h
    · rw [readMembers] at h
      cases h
  | succ fuel ih =>
    exact ⟨readValue_wellKeyed ih, readItems_wellKeyed ih, readMembers_wellKeyed ih⟩

theorem read_wellKeyed {text : String} {v : Value} (h : read text = .ok v) : v.WellKeyed := by
  rw [read] at h
  split at h
  · rename_i w hw
    cases h
    rw [readAll] at hw
    split at hw
    · cases hw
    · obtain ⟨⟨w, left⟩, hvalue, hw⟩ := bind_eq_ok.1 hw
      simp only at hw
      split at hw
      · cases hw
        exact (readers_wellKeyed _).value hvalue
      · cases hw
  · cases h

end Json

/-- **A document that was read is well keyed.** -/
theorem Document.ofBytes_wellKeyed {bytes : List UInt8} {v : Json.Value}
    (h : Document.ofBytes bytes = .ok v) : v.WellKeyed := by
  rw [Document.ofBytes] at h
  split at h
  · cases h
  · split at h
    · cases h
    · rename_i hread
      cases h
      exact Json.read_wellKeyed hread

end EntityService
