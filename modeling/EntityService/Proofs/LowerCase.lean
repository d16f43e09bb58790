import EntityService.Text.Lowercase

/-!
# What lower-casing keeps

Names in lower case are put together to longer names and to paths, so it matters what a lower-case
image can look like.  Each character of a text has an image of its own, which is either the
character itself or made of small letters and of characters beyond ASCII.  So lower-casing brings in
neither blanks nor marks.

## What is here

* `length_le_length_lower` — a text does not get shorter.
* `IsLetterCode` — the codes of the characters that lower-casing may bring in.
* `lowerChar_eq_or` — the image of a single character, by the table.
* `mem_lower` — the characters of the image of a text.
-/

set_option autoImplicit false

namespace EntityService.Text

/-! ## Length -/

theorem lowerAt_ne_nil (casedBehind : Bool) (c : Char) (rest : List Char) :
    lowerAt casedBehind c rest ≠ [] := by
  rw [lowerAt]
  split
  · simp
  · split <;> simp

theorem length_le_length_lowerFrom (casedBehind : Bool) (cs : List Char) :
    cs.length ≤ (lowerFrom casedBehind cs).length := by
  induction cs generalizing casedBehind with
  | nil => exact Nat.zero_le _
  | cons c rest ih =>
    have hc := List.length_pos_iff.2 (lowerAt_ne_nil casedBehind c rest)
    have hrest := ih (if isCaseIgnorable c then casedBehind else isCased c)
    rw [lowerFrom, List.length_append, List.length_cons]
    omega

/-- **A text in lower case is at least as long as before.** -/
theorem length_le_length_lower (text : String) :
    text.toList.length ≤ (lower text).toList.length := by
  rw [lower, String.toList_ofList]
  exact length_le_length_lowerFrom false text.toList

/-! ## Characters -/

/-- The code of a small letter, or of a character beyond ASCII. -/
def IsLetterCode (n : Nat) : Prop := (0x61 ≤ n ∧ n ≤ 0x7a) ∨ 0x80 ≤ n

instance (n : Nat) : Decidable (IsLetterCode n) :=
  inferInstanceAs (Decidable ((0x61 ≤ n ∧ n ≤ 0x7a) ∨ 0x80 ≤ n))

/-- The images of a run are characters, and either small letters or beyond ASCII. -/
def isLetterRun (run : Nat × Nat × Nat × Nat) : Bool :=
  let (lo, hi, _, image) := run
  ((0x61 ≤ image && image + (hi - lo) ≤ 0x7a) || 0x80 ≤ image)
    && (image + (hi - lo) < 0xd800 || (0xdfff < image && image + (hi - lo) < 0x110000))

theorem isLetterRun_lowercaseRuns : lowercaseRuns.all isLetterRun = true := by decide +kernel

theorem lowerCode_eq_or {runs : List (Nat × Nat × Nat × Nat)} (h : runs.all isLetterRun = true)
    (n : Nat) :
    lowerCode runs n = n ∨ (IsLetterCode (lowerCode runs n) ∧ (lowerCode runs n).isValidChar) := by
  induction runs with
  | nil => exact .inl rfl
  | cons run rest ih =>
    obtain ⟨lo, hi, step, image⟩ := run
    rw [List.all_cons, Bool.and_eq_true] at h
    rw [lowerCode]
    split
    · exact .inl rfl
    · split
      · split
        · right
          have hrun := h.1
          simp only [isLetterRun, Bool.and_eq_true, Bool.or_eq_true, decide_eq_true_eq] at hrun
          rw [Nat.isValidChar, IsLetterCode]
          omega
        · exact .inl rfl
      · exact ih h.2

theorem lowerChar_eq_or (c : Char) : lowerChar c = c ∨ IsLetterCode (lowerChar c).toNat := by
  rw [lowerChar]
  rcases lowerCode_eq_or isLetterRun_lowercaseRuns c.toNat with h | ⟨hletter, hvalid⟩
  · exact .inl (by rw [h, Char.ofNat_toNat])
  · right
    rw [Char.ofNat, dif_pos hvalid]
    exact hletter

theorem mem_lowerAt {casedBehind : Bool} {c d : Char} {rest : List Char}
    (h : d ∈ lowerAt casedBehind c rest) : d = c ∨ IsLetterCode d.toNat := by
  rw [lowerAt] at h
  split at h
  · rw [List.mem_singleton] at h
    subst h
    split <;> exact .inr (by decide)
  · split at h
    · rcases List.mem_cons.1 h with rfl | h
      · exact .inr (by decide)
      · rw [List.mem_singleton.1 h]
        exact .inr (by decide)
    · rw [List.mem_singleton.1 h]
      exact lowerChar_eq_or c

theorem mem_lowerFrom {casedBehind : Bool} {cs : List Char} {d : Char}
    (h : d ∈ lowerFrom casedBehind cs) : d ∈ cs ∨ IsLetterCode d.toNat := by
  induction cs generalizing casedBehind with
  | nil => exact absurd h List.not_mem_nil
  | cons c rest ih =>
    rw [lowerFrom, List.mem_append] at h
    rcases h with h | h
    · refine (mem_lowerAt h).imp (fun heq => ?_) id
      rw [heq]
      exact List.mem_cons_self
    · exact (ih h).imp (List.mem_cons_of_mem c) id

/-- **Lower-casing brings in nothing but small letters and characters beyond ASCII.** -/
theorem mem_lower {text : String} {d : Char} (h : d ∈ (lower text).toList) :
    d ∈ text.toList ∨ IsLetterCode d.toNat := by
  rw [lower, String.toList_ofList] at h
  exact mem_lowerFrom h

end EntityService.Text
