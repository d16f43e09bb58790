/-!
# Control sequences

A control sequence tells a terminal how to show a text.  It starts with the escape character and an
opening bracket; parameter characters follow, then intermediate characters, then one final
character.  A text that does not go to a terminal is written without its control sequences.

## What is here

* `afterSequence?` — what stands after a control sequence that starts a list of characters.
* `withoutSequences` — a list of characters without its control sequences, with
  `withoutSequences_append` and `withoutSequences_eq_self`.
-/

set_option autoImplicit false

namespace EntityService.Text

/-- A parameter of a control sequence. -/
def isParameter (c : Char) : Bool := '0' ≤ c && c ≤ '?'

/-- A character between the parameters and the final character of a control sequence. -/
def isIntermediate (c : Char) : Bool := ' ' ≤ c && c ≤ '/'

/-- The last character of a control sequence. -/
def isFinal (c : Char) : Bool := '@' ≤ c && c ≤ '~'

/-- What stands after the control sequence that starts a list of characters, if one does. -/
def afterSequence? : List Char → Option (List Char)
  | '\x1b' :: '[' :: cs =>
    match (cs.dropWhile isParameter).dropWhile isIntermediate with
    | c :: rest => if isFinal c then some rest else none
    | [] => none
  | _ => none

theorem length_dropWhile_le (p : Char → Bool) (cs : List Char) :
    (cs.dropWhile p).length ≤ cs.length :=
  (List.dropWhile_suffix p).length_le

theorem length_lt_of_afterSequence? {cs rest : List Char} (h : afterSequence? cs = some rest) :
    rest.length < cs.length := by
  unfold afterSequence? at h
  split at h
  · rename_i cs
    split at h
    · rename_i c rest' heq
      split at h
      · have h1 := length_dropWhile_le isIntermediate (cs.dropWhile isParameter)
        have h2 := length_dropWhile_le isParameter cs
        rw [heq, List.length_cons] at h1
        rw [← Option.some.inj h]
        simp only [List.length_cons]
        omega
      · exact absurd h (by simp)
    · exact absurd h (by simp)
  · exact absurd h (by simp)

/-- A list of characters without its control sequences. -/
def withoutSequences : List Char → List Char
  | [] => []
  | c :: cs =>
    match _h : afterSequence? (c :: cs) with
    | some rest => withoutSequences rest
    | none => c :: withoutSequences cs
termination_by cs => cs.length
decreasing_by
  · exact length_lt_of_afterSequence? _h
  · exact Nat.lt_succ_self _

/-- Nothing goes from a beginning without the escape character. -/
theorem withoutSequences_append {cs : List Char} (h : '\x1b' ∉ cs) (rest : List Char) :
    withoutSequences (cs ++ rest) = cs ++ withoutSequences rest := by
  induction cs with
  | nil => rfl
  | cons c cs ih =>
    rw [List.mem_cons, not_or] at h
    have hc : afterSequence? (c :: (cs ++ rest)) = none := by
      unfold afterSequence?
      split
      · rename_i heq
        exact absurd (List.cons.inj heq).1.symm h.1
      · rfl
    rw [List.cons_append, withoutSequences]
    split
    · rename_i hsome
      rw [hc] at hsome
      cases hsome
    · rw [ih h.2]
      rfl

/-- A text without the escape character has no control sequences. -/
theorem withoutSequences_eq_self {cs : List Char} (h : '\x1b' ∉ cs) : withoutSequences cs = cs := by
  have happend := withoutSequences_append h []
  rwa [List.append_nil, withoutSequences, List.append_nil] at happend

end EntityService.Text
