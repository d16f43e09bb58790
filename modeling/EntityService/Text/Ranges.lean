/-!
# Sets of characters as ascending ranges

The character classes of this library are sets of code points fixed by the Unicode standard.  Each
one is written as a list of closed ranges `(lo, hi)` in ascending order.

## What is here

* `Ranges` — a list of closed ranges of code points.
* `Ranges.Ascending` — the ranges are non-empty, disjoint and in order.
* `Ranges.contains` — membership.  The search stops at the first range that starts above the code
  point, so a small code point is settled by the first few ranges.
* `Ranges.contains_iff` — for ascending ranges, that early stop loses nothing.
-/

set_option autoImplicit false

namespace EntityService.Text

/-- Closed ranges of code points. -/
abbrev Ranges := List (Nat × Nat)

namespace Ranges

/-- Each range is non-empty and ends below the start of the next one. -/
def Ascending : Ranges → Bool
  | [] => true
  | [(lo, hi)] => lo ≤ hi
  | (lo, hi) :: (lo', hi') :: rest => lo ≤ hi && hi < lo' && Ascending ((lo', hi') :: rest)

/-- Whether a code point lies in one of the ranges, which must ascend. -/
def contains : Ranges → Nat → Bool
  | [], _ => false
  | (lo, hi) :: rest, n => if n < lo then false else if n ≤ hi then true else contains rest n

/-! ## The early stop is sound -/

theorem ascending_tail {r : Nat × Nat} {rest : Ranges} (h : Ascending (r :: rest) = true) :
    Ascending rest = true := by
  obtain ⟨lo, hi⟩ := r
  match rest, h with
  | [], _ => rfl
  | (lo', hi') :: rest, h =>
    simp only [Ascending, Bool.and_eq_true] at h
    exact h.2

/-- What comes later in ascending ranges starts above what comes first. -/
theorem lt_of_ascending {lo hi : Nat} {rest : Ranges} (h : Ascending ((lo, hi) :: rest) = true) :
    ∀ r ∈ rest, hi < r.1 := by
  induction rest generalizing lo hi with
  | nil => simp
  | cons r rest ih =>
    obtain ⟨lo', hi'⟩ := r
    simp only [Ascending, Bool.and_eq_true, decide_eq_true_eq] at h
    obtain ⟨⟨_, hlt⟩, hrest⟩ := h
    have hle : lo' ≤ hi' := by
      match rest, hrest with
      | [], hrest => simpa [Ascending] using hrest
      | (_, _) :: _, hrest => simp [Ascending] at hrest; exact hrest.1.1
    intro r hr
    rcases List.mem_cons.1 hr with rfl | hr
    · exact hlt
    · exact Nat.lt_trans (Nat.lt_of_lt_of_le hlt hle) (ih hrest r hr)

/-- Membership in ascending ranges is membership in one of them. -/
theorem contains_iff {rs : Ranges} (h : rs.Ascending = true) (n : Nat) :
    rs.contains n = true ↔ ∃ r ∈ rs, r.1 ≤ n ∧ n ≤ r.2 := by
  induction rs with
  | nil => simp [contains]
  | cons r rest ih =>
    obtain ⟨lo, hi⟩ := r
    have later := lt_of_ascending h
    have hle : lo ≤ hi := by
      match rest, h with
      | [], h => simpa [Ascending] using h
      | (_, _) :: _, h => simp [Ascending] at h; exact h.1.1
    simp only [contains, List.mem_cons, exists_eq_or_imp]
    split
    · rename_i hlt
      constructor
      · simp
      · rintro (⟨h1, _⟩ | ⟨r, hr, h1, _⟩)
        · omega
        · have := later r hr
          omega
    · split
      · rename_i h1 h2
        exact ⟨fun _ => .inl ⟨by omega, h2⟩, fun _ => rfl⟩
      · rename_i h1 h2
        rw [ih (ascending_tail h)]
        exact ⟨.inr, fun h => h.resolve_left (by omega)⟩

end Ranges

end EntityService.Text
