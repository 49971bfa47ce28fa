import ExtractionSchema.Text.Infix
import ExtractionSchema.Text.Quoted
import Mathlib.Data.List.Basic

/-!
# Quoted texts within texts

A quoted text ends with a quote. So it occurs in a longer text only before the last quote there.

* `isWithin_quoted_append_iff`: what follows the last quote of a text plays no part.
-/

namespace ExtractionSchema.Text

variable {part s rest : String}

theorem quoteFor_eq_or (cs : List Char) : quoteFor cs = '"' ∨ quoteFor cs = '\'' := by
  unfold quoteFor
  split
  · exact .inl rfl
  · exact .inr rfl

theorem exists_toList_quoted (s : String) :
    ∃ body quote, (quoted s).toList = body ++ [quote] ∧ (quote = '"' ∨ quote = '\'') := by
  refine ⟨quoteFor s.toList :: s.toList.flatMap (quotedChar (quoteFor s.toList)),
    quoteFor s.toList, ?_, quoteFor_eq_or s.toList⟩
  unfold quoted
  rw [String.toList_ofList, List.cons_append]

/-- A text whose last character does not occur in the rest occurs before the rest or not at all. -/
theorem isWithin_append_iff {body : List Char} {last : Char} (hpart : part.toList = body ++ [last])
    (hrest : last ∉ rest.toList) : isWithin part (s ++ rest) = true ↔ isWithin part s = true := by
  rw [isWithin_iff, isWithin_iff, String.toList_append, hpart]
  constructor
  · rintro ⟨before, after, h⟩
    have hsplit : s.toList ++ rest.toList = (before ++ (body ++ [last])) ++ after := by
      rw [h, List.append_assoc before]
    rcases List.append_eq_append_iff.mp hsplit with ⟨common, hcommon, hrestEq⟩ | ⟨common, hs, -⟩
    · -- the end of the part lies in the rest, unless nothing of the part does
      rcases List.eq_nil_or_concat common with rfl | ⟨init, c, rfl⟩
      · refine ⟨before, [], ?_⟩
        rw [List.append_nil] at hcommon
        rw [List.append_nil, hcommon]
      · exfalso
        have hlast : last = c := by
          have hends := congrArg List.getLast? hcommon
          simpa using hends
        apply hrest
        rw [hrestEq, hlast]
        simp
    · exact ⟨before, common, by rw [hs, List.append_assoc]⟩
  · rintro ⟨before, after, h⟩
    exact ⟨before, after ++ rest.toList, by rw [h]; simp⟩

theorem isWithin_quoted_append_iff (hdouble : '"' ∉ rest.toList) (hsingle : '\'' ∉ rest.toList) :
    isWithin (quoted part) (s ++ rest) = true ↔ isWithin (quoted part) s = true := by
  obtain ⟨body, quote, hbody, hquote⟩ := exists_toList_quoted part
  apply isWithin_append_iff hbody
  rcases hquote with rfl | rfl
  · exact hdouble
  · exact hsingle

theorem isWithin_self (s : String) : isWithin s s = true :=
  isWithin_iff.mpr ⟨[], [], by simp⟩

end ExtractionSchema.Text
