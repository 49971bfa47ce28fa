/-!
# Control sequences

A control sequence tells a terminal to move its cursor or to change its colours: an escape character
and an opening bracket, then parameters, then intermediate characters, then one final character.

* `withoutControlSequences` is a text as it is shown where nothing obeys them.
-/

namespace ExtractionSchema.Text

/-- Whether a character stands between two others. -/
def isBetween (first last c : Char) : Bool := first ≤ c && c ≤ last

/-- The characters after a control sequence, given those after its opening bracket. -/
def afterControlSequence? (cs : List Char) : Option (List Char) :=
  match (cs.dropWhile (isBetween '0' '?')).dropWhile (isBetween ' ' '/') with
  | [] => none
  | c :: rest => if isBetween '@' '~' c then some rest else none

theorem length_lt_of_afterControlSequence? {cs rest : List Char}
    (h : afterControlSequence? cs = some rest) : rest.length < cs.length := by
  unfold afterControlSequence? at h
  have hp := (List.dropWhile_sublist (isBetween '0' '?') (l := cs)).length_le
  have hi := (List.dropWhile_sublist (isBetween ' ' '/')
    (l := cs.dropWhile (isBetween '0' '?'))).length_le
  split at h
  · simp at h
  · rename_i c r heq
    split at h
    · simp only [Option.some.injEq] at h
      rw [heq, List.length_cons] at hi
      rw [← h]
      omega
    · simp at h

/-- The characters without control sequences. -/
def dropControlSequences (cs : List Char) : List Char :=
  match cs with
  | '\x1b' :: '[' :: cs =>
    match _h : afterControlSequence? cs with
    | some rest => dropControlSequences rest
    | none => '\x1b' :: '[' :: dropControlSequences cs
  | c :: cs => c :: dropControlSequences cs
  | [] => []
termination_by cs.length
decreasing_by
  · have := length_lt_of_afterControlSequence? _h
    simp only [List.length_cons]
    omega
  · simp only [List.length_cons]
    omega
  · simp

/-- A text without control sequences. -/
def withoutControlSequences (s : String) : String :=
  String.ofList (dropControlSequences s.toList)

end ExtractionSchema.Text
