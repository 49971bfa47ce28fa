/-!
# Texts within texts

* `isWithin_iff` says what it means for a text to be within another.
-/

namespace ExtractionSchema.Text

/-- Whether some characters occur in a row within others. -/
def occursIn (part : List Char) : List Char → Bool
  | [] => part.isEmpty
  | c :: cs => part.isPrefixOf (c :: cs) || occursIn part cs

theorem occursIn_iff {part cs : List Char} :
    occursIn part cs = true ↔ ∃ before after, cs = before ++ (part ++ after) := by
  induction cs with
  | nil =>
    simp only [occursIn, List.isEmpty_iff]
    constructor
    · rintro rfl
      exact ⟨[], [], rfl⟩
    · rintro ⟨before, after, h⟩
      cases before <;> cases part <;> simp_all
  | cons c cs ih =>
    simp only [occursIn, Bool.or_eq_true, List.isPrefixOf_iff_prefix, ih]
    constructor
    · rintro (⟨after, h⟩ | ⟨before, after, rfl⟩)
      · exact ⟨[], after, h.symm⟩
      · exact ⟨c :: before, after, rfl⟩
    · rintro ⟨before, after, h⟩
      cases before with
      | nil => exact .inl ⟨after, h.symm⟩
      | cons b before =>
        injection h with _ h
        exact .inr ⟨before, after, h⟩

/-- Whether a text occurs within another. -/
def isWithin (part s : String) : Bool := occursIn part.toList s.toList

theorem isWithin_iff {part s : String} :
    isWithin part s = true ↔
      ∃ before after, s.toList = before ++ (part.toList ++ after) := occursIn_iff

end ExtractionSchema.Text
