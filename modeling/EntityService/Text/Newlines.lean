/-!
# Line ends

A document may end its lines with a line feed, with a carriage return, or with a carriage return
and a line feed.  Reading turns every one of these into a single line feed.  On a console only the
last of the three is turned into a line feed; a carriage return on its own stays.

## What is here

* `unifyNewlines` — a list of characters with its line ends unified.
* `joinLineEnds` — a list of characters with each line end of two characters made one.
-/

set_option autoImplicit false

namespace EntityService.Text

/-- Turns a carriage return, and a line feed that may follow it, into one line feed. -/
def unifyNewlines : List Char → List Char
  | [] => []
  | '\r' :: '\n' :: rest => '\n' :: unifyNewlines rest
  | '\r' :: rest => '\n' :: unifyNewlines rest
  | c :: rest => c :: unifyNewlines rest

/-- No carriage return is left. -/
theorem not_mem_unifyNewlines (cs : List Char) : '\r' ∉ unifyNewlines cs := by
  fun_induction unifyNewlines cs with
  | case1 => simp
  | case2 rest ih => simp [ih]
  | case3 rest _ ih => simp [ih]
  | case4 c rest _ h ih =>
    simp only [List.mem_cons, not_or]
    exact ⟨fun e => h e.symm, ih⟩

theorem unifyNewlines_eq_self {cs : List Char} (h : '\r' ∉ cs) : unifyNewlines cs = cs := by
  fun_induction unifyNewlines cs with
  | case1 => rfl
  | case2 => simp at h
  | case3 => simp at h
  | case4 c rest _ _ ih => rw [ih (fun m => h (List.mem_cons_of_mem c m))]

/-- Turns a carriage return and the line feed after it into the line feed. -/
def joinLineEnds : List Char → List Char
  | [] => []
  | '\r' :: '\n' :: rest => '\n' :: joinLineEnds rest
  | c :: rest => c :: joinLineEnds rest

/-- No line end begins in a beginning without carriage returns. -/
theorem joinLineEnds_append {cs : List Char} (h : '\r' ∉ cs) (rest : List Char) :
    joinLineEnds (cs ++ rest) = cs ++ joinLineEnds rest := by
  induction cs with
  | nil => rfl
  | cons c cs ih =>
    rw [List.mem_cons, not_or] at h
    rw [List.cons_append, List.cons_append, ← ih h.2, joinLineEnds]
    rintro more rfl
    exact absurd rfl h.1

/-- Only carriage returns go. -/
theorem joinLineEnds_eq_self {cs : List Char} (h : '\r' ∉ cs) : joinLineEnds cs = cs := by
  have happend := joinLineEnds_append h []
  rwa [List.append_nil, joinLineEnds, List.append_nil] at happend

end EntityService.Text
