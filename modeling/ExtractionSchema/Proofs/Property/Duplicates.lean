import ExtractionSchema.Property.Reader
import Mathlib.Data.List.Induction
import Mathlib.Data.List.Infix
import Mathlib.Data.List.Nodup
import Mathlib.Data.List.Pairwise

/-!
# Duplicate names

The search for duplicate names goes through a list once. A name is found when it comes for the
second time, so the names that are found are those that come at least twice, each once, and they
stand in the order of their second occurrences. This need not be the order of the first ones.

* `findDuplicates_concat`: what one more name adds to those that were found.
* `mem_findDuplicates_iff` and `pairwise_findDuplicates` say which names are found and how they are
  ordered.
* `findDuplicates_repeated` says all this at once, and when the names come as they are first seen.
-/

namespace ExtractionSchema

/-! ## One name after the other -/

theorem findDuplicatesFrom_append (seen found names more : List String) :
    findDuplicatesFrom seen found (names ++ more) =
      findDuplicatesFrom (names.reverse ++ seen) (findDuplicatesFrom seen found names) more := by
  induction names generalizing seen found with
  | nil => rfl
  | cons name names ih => simp [findDuplicatesFrom, ih]

/-- One more name is found if it came before and was not found yet. -/
theorem findDuplicates_concat (names : List String) (name : String) :
    findDuplicates (names ++ [name]) = findDuplicates names ++
      if name ∈ names ∧ name ∉ findDuplicates names then [name] else [] := by
  rw [findDuplicates, findDuplicatesFrom_append, ← findDuplicates]
  by_cases hseen : name ∈ names <;> by_cases hfound : name ∈ findDuplicates names <;>
    simp [findDuplicatesFrom, hseen, hfound]

/-- Each name that comes at least twice is found once, and no other name is found. -/
theorem count_findDuplicates (names : List String) (name : String) :
    (findDuplicates names).count name = if 2 ≤ names.count name then 1 else 0 := by
  induction names using List.reverseRecOn with
  | nil => rfl
  | append_singleton names last ih =>
    rw [findDuplicates_concat, List.count_append, List.count_append, ih]
    by_cases hname : last = name
    · subst hname
      have hnew : (last ∈ names ∧ last ∉ findDuplicates names) ↔ names.count last = 1 := by
        rw [← List.count_pos_iff, ← List.count_pos_iff, ih]
        split <;> omega
      simp only [hnew, List.count_singleton_self]
      by_cases honce : names.count last = 1
      · simp [honce]
      · rw [if_neg honce, List.count_nil]
        split <;> split <;> omega
    · have hlast : [last].count name = 0 := List.count_eq_zero.mpr (by simpa using Ne.symm hname)
      rw [hlast, Nat.add_zero]
      split <;> split <;> simp [hlast]

theorem mem_findDuplicates_iff {names : List String} {name : String} :
    name ∈ findDuplicates names ↔ 2 ≤ names.count name := by
  rw [← List.count_pos_iff, count_findDuplicates]
  split <;> simp_all

theorem findDuplicates_eq_nil_iff {names : List String} :
    findDuplicates names = [] ↔ names.Nodup := by
  rw [List.eq_nil_iff_forall_not_mem, List.nodup_iff_count_le_one]
  refine forall_congr' fun name => ?_
  rw [mem_findDuplicates_iff]
  omega

/-! ## Order -/

/-- Going through the names, the first of two names has come so many times before the second one
has. -/
def ComesBefore (times : Nat) (names : List String) (first second : String) : Prop :=
  ∃ front, front <+: names ∧ times ≤ front.count first ∧ front.count second < times

namespace ComesBefore

variable {times : Nat} {names : List String} {first second : String}

instance : Decidable (ComesBefore times names first second) :=
  decidable_of_iff
    (∃ front ∈ names.inits, times ≤ front.count first ∧ front.count second < times)
    (by simp only [ComesBefore, List.mem_inits])

theorem append (h : ComesBefore times names first second) (more : List String) :
    ComesBefore times (names ++ more) first second := by
  obtain ⟨front, hfront, hcounts⟩ := h
  exact ⟨front, hfront.trans (List.prefix_append names more), hcounts⟩

/-- Of two names one comes first. -/
theorem asymm (h : ComesBefore times names first second) :
    ¬ ComesBefore times names second first := by
  rintro ⟨front', hfront', hsecond', hfirst'⟩
  obtain ⟨front, hfront, hfirst, hsecond⟩ := h
  rcases List.prefix_or_prefix_of_prefix hfront hfront' with hle | hle
  · have hcount := hle.sublist.count_le first
    omega
  · have hcount := hle.sublist.count_le second
    omega

/-- Of two names that come often enough, one comes first. -/
theorem total (hne : first ≠ second) (hfirst : times ≤ names.count first)
    (hsecond : times ≤ names.count second) (htimes : 0 < times) :
    ComesBefore times names first second ∨ ComesBefore times names second first := by
  induction names using List.reverseRecOn with
  | nil =>
    rw [List.count_nil] at hfirst
    omega
  | append_singleton names last ih =>
    have hprefix : names <+: names ++ [last] := List.prefix_append names [last]
    have hother : ∀ name, name ≠ last → (names ++ [last]).count name = names.count name := by
      intro name hname
      rw [List.count_append, List.count_eq_zero.mpr (mt List.mem_singleton.mp hname), Nat.add_zero]
    by_cases hfirst' : times ≤ names.count first
    · by_cases hsecond' : times ≤ names.count second
      · exact (ih hfirst' hsecond').imp (append · _) (append · _)
      · exact .inl ⟨names, hprefix, hfirst', Nat.lt_of_not_le hsecond'⟩
    · -- the first one comes often enough with the last name only, which the second one is not
      have hlast : first = last := by
        by_contra hne'
        exact hfirst' (hother first hne' ▸ hfirst)
      have hsecond' : times ≤ names.count second := hother second (hlast ▸ hne.symm) ▸ hsecond
      exact .inr ⟨names, hprefix, hsecond', Nat.lt_of_not_le hfirst'⟩

end ComesBefore

/-- The names are found in the order in which they come for the second time. -/
theorem pairwise_findDuplicates (names : List String) :
    (findDuplicates names).Pairwise (ComesBefore 2 names) := by
  induction names using List.reverseRecOn with
  | nil => exact .nil
  | append_singleton names last ih =>
    have hbefore := ih.imp fun h => ComesBefore.append h [last]
    rw [findDuplicates_concat]
    split
    · rename_i hlast
      rw [List.pairwise_append]
      refine ⟨hbefore, List.pairwise_singleton _ _, fun name hname other hother => ?_⟩
      obtain rfl := List.mem_singleton.mp hother
      -- before the last name, every name that was found had come twice and the last one had not
      exact ⟨names, List.prefix_append _ _, mem_findDuplicates_iff.mp hname,
        Nat.lt_of_not_le (mt mem_findDuplicates_iff.mpr hlast.2)⟩
    · rwa [List.append_nil]

/-- The names that come at least twice are found, each once, in the order in which they come for the
second time, and none is found exactly when the names differ. They are found in the order in which
they are first seen exactly when of two repeated names the one that is first seen is the first to
come again. -/
theorem findDuplicates_repeated (names : List String) :
    (∀ name, (findDuplicates names).count name = if 2 ≤ names.count name then 1 else 0) ∧
    (findDuplicates names = [] ↔ names.Nodup) ∧
    (findDuplicates names).Pairwise (ComesBefore 2 names) ∧
    ((findDuplicates names).Pairwise (ComesBefore 1 names) ↔
      ∀ first second, 2 ≤ names.count first → 2 ≤ names.count second →
        ComesBefore 1 names first second → ComesBefore 2 names first second) := by
  have hagain := pairwise_findDuplicates names
  refine ⟨count_findDuplicates names, findDuplicates_eq_nil_iff, hagain, ?_, ?_⟩
  · intro hseen first second hfirst hsecond hbefore
    -- two names that are found stand one way or the other, and both orders hold of them that way
    have hsame : ∀ a ∈ findDuplicates names, ∀ b ∈ findDuplicates names,
        ComesBefore 1 names a b → ComesBefore 2 names a b := by
      apply List.Pairwise.forall_of_forall_of_flip
      · exact fun name _ hself => absurd hself hself.asymm
      · apply hagain.imp
        intro a b h _
        exact h
      · exact hseen.imp fun h hback => absurd hback h.asymm
    exact hsame first (mem_findDuplicates_iff.mpr hfirst) second
      (mem_findDuplicates_iff.mpr hsecond) hbefore
  · intro hsame
    refine hagain.imp_of_mem fun {first second} hfirst hsecond hbefore => ?_
    rw [mem_findDuplicates_iff] at hfirst hsecond
    have hne : first ≠ second := by
      rintro rfl
      exact hbefore.asymm hbefore
    have hseen : ComesBefore 1 names first second ∨ ComesBefore 1 names second first :=
      ComesBefore.total hne (by omega) (by omega) Nat.one_pos
    refine hseen.resolve_right fun hback => ?_
    exact hbefore.asymm (hsame second first hsecond hfirst hback)

/-- Of two names that are both repeated, the one that is seen last is told first. -/
theorem findDuplicates_not_first_seen :
    Property.listOfValue (.list (["a", "b", "b", "a"].map fun name =>
      .record [("name", .string name), ("type", .string "string")])) =
        .error (.duplicates ["b", "a"]) ∧
    findDuplicates ["a", "b", "b", "a"] = ["b", "a"] ∧
    ¬ (findDuplicates ["a", "b", "b", "a"]).Pairwise (ComesBefore 1 ["a", "b", "b", "a"]) := by
  refine ⟨rfl, rfl, ?_⟩
  decide

end ExtractionSchema
