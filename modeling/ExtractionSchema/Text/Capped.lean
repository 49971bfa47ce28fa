/-!
# Capped texts

A text longer than a limit, counted in characters, is cut and marked with an ellipsis. The limit
may be negative: then that many characters are dropped at the end, and every text counts as too
long.

* `capped_length_le` bounds the length of a capped text.
-/

namespace ExtractionSchema.Text

/-- The first `limit` characters; for a negative limit, all but the last `-limit`. -/
def takeLimit (limit : Int) (cs : List Char) : List Char :=
  if 0 ≤ limit then cs.take limit.toNat else cs.take (cs.length - (-limit).toNat)

/-- Whether the text is longer than the limit. -/
def exceeds (limit : Int) (s : String) : Bool := limit < s.length

/-- The text within the limit: unchanged if it is not longer, else cut and marked. -/
def capped (limit : Int) (ellipsis s : String) : String :=
  if exceeds limit s then String.ofList (takeLimit limit s.toList) ++ ellipsis else s

theorem capped_of_not_exceeds {limit : Int} {ellipsis s : String} (h : exceeds limit s = false) :
    capped limit ellipsis s = s := by
  simp [capped, h]

theorem capped_length_le {limit : Nat} {ellipsis s : String} :
    (capped limit ellipsis s).length ≤ limit + ellipsis.length := by
  unfold capped exceeds takeLimit
  split
  · simp only [String.length_append, String.length_ofList, Int.natCast_nonneg, if_true,
      Int.toNat_natCast, List.length_take]
    omega
  · rename_i h
    simp only [decide_eq_true_eq, Int.not_lt] at h
    omega

end ExtractionSchema.Text
