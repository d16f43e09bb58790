/-!
# Ordered mappings

A mapping that remembers the order in which its keys came.  Inserting a key that is there replaces
its value and keeps its place, so the keys stay distinct.

## What is here

* `Mapping` — a list of pairs of a key and a value.
* `Mapping.get?` — the value under a key.
* `Mapping.insert`, `Mapping.ofPairs` — with `Mapping.get?_insert` and `Mapping.keys_insert`, which
  say what an insertion does to the values and to the keys, and `Mapping.nodup_keys_ofPairs`.
-/

set_option autoImplicit false

namespace EntityService

/-- Values under keys, in order. -/
abbrev Mapping (κ α : Type) := List (κ × α)

namespace Mapping

variable {κ α : Type}

/-- The keys, in order. -/
def keys (m : Mapping κ α) : List κ := m.map (·.1)

variable [DecidableEq κ]

/-- The value under a key: that of the first pair with the key. -/
def get? : Mapping κ α → κ → Option α
  | [], _ => none
  | (k, v) :: rest, key => if k = key then some v else get? rest key

/-- Puts a value under a key: in the place of the key if it is there, else at the end. -/
def insert : Mapping κ α → κ → α → Mapping κ α
  | [], key, value => [(key, value)]
  | (k, v) :: rest, key, value =>
    if k = key then (k, value) :: rest else (k, v) :: insert rest key value

/-- The mapping made of pairs: of pairs with one key the last value counts, in the first place. -/
def ofPairs (pairs : List (κ × α)) : Mapping κ α :=
  pairs.foldl (fun m p => insert m p.1 p.2) []

/-! ## What an insertion does -/

theorem get?_insert (m : Mapping κ α) (key : κ) (value : α) (other : κ) :
    get? (insert m key value) other = if key = other then some value else get? m other := by
  induction m with
  | nil => simp [insert, get?]
  | cons p rest ih =>
    obtain ⟨k, v⟩ := p
    by_cases hk : k = key
    · subst hk
      by_cases ho : k = other <;> simp [insert, get?, ho]
    · by_cases ho : k = other
      · subst ho
        simp [insert, get?, hk, Ne.symm hk]
      · simp [insert, get?, hk, ho, ih]

/-- An insertion adds its key at most once, at the end. -/
theorem keys_insert (m : Mapping κ α) (key : κ) (value : α) :
    keys (insert m key value) = if key ∈ keys m then keys m else keys m ++ [key] := by
  induction m with
  | nil => simp [insert, keys]
  | cons p rest ih =>
    obtain ⟨k, v⟩ := p
    by_cases hk : k = key
    · simp [insert, keys, hk]
    · simp only [insert, if_neg hk, keys, List.map_cons, List.mem_cons, Ne.symm hk, false_or] at ih ⊢
      by_cases hm : key ∈ rest.map (·.1) <;> simp [ih, hm]

theorem nodup_keys_insert {m : Mapping κ α} (h : (keys m).Nodup) (key : κ) (value : α) :
    (keys (insert m key value)).Nodup := by
  rw [keys_insert]
  split
  · exact h
  · rename_i hk
    rw [List.nodup_append]
    refine ⟨h, by simp, ?_⟩
    intro a ha b hb
    rw [List.mem_singleton] at hb
    subst hb
    exact fun e => hk (e ▸ ha)

theorem nodup_keys_ofPairs (pairs : List (κ × α)) : (keys (ofPairs pairs)).Nodup := by
  suffices ∀ m : Mapping κ α, (keys m).Nodup →
      (keys (pairs.foldl (fun m p => insert m p.1 p.2) m)).Nodup from this [] List.nodup_nil
  induction pairs with
  | nil => exact fun m h => h
  | cons p rest ih => exact fun m h => ih _ (nodup_keys_insert h p.1 p.2)

end Mapping

end EntityService
