import Mathlib.Data.List.Basic

/-!
# Stable sorting

Sorting by a comparison that is total and transitive leaves what the comparison does not tell apart
in the order in which it stood before. Of the sorted lists there is only one like that.

* `filter_mergeSort`: whatever is picked out is kept as it stands if it stands in order already.
* `pairwise_mergeSort_ties`: what holds of the ties of a list holds of those of the sorted list.
* `eq_of_pairwise_of_ties`: two sorted lists with the same ties are one.
-/

namespace ExtractionSchema

variable {α : Type} {le : α → α → Bool}

/-- Sorting keeps what is picked out of a list in its order, if that is the order to sort by. -/
theorem filter_mergeSort (htrans : ∀ a b c, le a b = true → le b c = true → le a c = true)
    (htotal : ∀ a b, (le a b || le b a) = true) {p : α → Bool} {l : List α}
    (hp : (l.filter p).Pairwise fun a b => le a b = true) :
    (l.mergeSort le).filter p = l.filter p := by
  have hsub : (l.filter p).Sublist ((l.mergeSort le).filter p) := by
    have hpicked := (List.sublist_mergeSort htrans htotal hp List.filter_sublist).filter p
    rwa [List.filter_filter, List.filter_congr fun a _ => Bool.and_self (p a)] at hpicked
  exact (hsub.eq_of_length ((List.mergeSort_perm l le).filter p).length_eq.symm).symm

/-- Whether two elements are not told apart. -/
def areTied (le : α → α → Bool) (a b : α) : Bool := le a b && le b a

theorem areTied_iff {a b : α} : areTied le a b = true ↔ le a b = true ∧ le b a = true :=
  Bool.and_eq_true_iff

/-- Sorting keeps the elements that are tied to one as they stand. -/
theorem filter_areTied_mergeSort
    (htrans : ∀ a b c, le a b = true → le b c = true → le a c = true)
    (htotal : ∀ a b, (le a b || le b a) = true) (a : α) (l : List α) :
    (l.mergeSort le).filter (areTied le a) = l.filter (areTied le a) := by
  apply filter_mergeSort htrans htotal
  rw [List.pairwise_filter]
  exact List.pairwise_of_forall fun c d hc hd =>
    htrans c a d (areTied_iff.mp hc).2 (areTied_iff.mp hd).1

/-- Sorting keeps the order of what it does not tell apart. -/
theorem pairwise_mergeSort_ties (htrans : ∀ a b c, le a b = true → le b c = true → le a c = true)
    (htotal : ∀ a b, (le a b || le b a) = true) {R : α → α → Prop} {l : List α}
    (h : l.Pairwise fun a b => le a b = true → le b a = true → R a b) :
    (l.mergeSort le).Pairwise fun a b => le b a = true → R a b := by
  rw [List.pairwise_iff_forall_sublist] at h ⊢
  intro a b hab hba
  -- what is not told apart from `a` stands in the sorted list as it stood before
  have hle := List.pairwise_iff_forall_sublist.mp (List.pairwise_mergeSort htrans htotal l) hab
  have hself : le a a = true := by simpa using htotal a a
  have hpair : [a, b].filter (areTied le a) = [a, b] := by simp [areTied, hself, hle, hba]
  have hwithin : [a, b].Sublist (l.filter (areTied le a)) := by
    rw [← filter_areTied_mergeSort htrans htotal, ← hpair]
    exact hab.filter _
  exact h (hwithin.trans List.filter_sublist) hle hba

/-- Two sorted lists are the same if the elements that are tied to one stand in both of them in the
same order. -/
theorem eq_of_pairwise_of_ties (hrefl : ∀ a, le a a = true) {l l' : List α}
    (hl : l.Pairwise fun a b => le a b = true) (hl' : l'.Pairwise fun a b => le a b = true)
    (hties : ∀ a, l.filter (areTied le a) = l'.filter (areTied le a)) : l = l' := by
  have hmem : ∀ {k k' : List α} {a : α},
      k.filter (areTied le a) = k'.filter (areTied le a) → a ∈ k → a ∈ k' := by
    intro k k' a heq ha
    have hself : areTied le a a = true := areTied_iff.mpr ⟨hrefl a, hrefl a⟩
    have hpicked : a ∈ k'.filter (areTied le a) := heq ▸ List.mem_filter.mpr ⟨ha, hself⟩
    exact (List.mem_filter.mp hpicked).1
  induction l generalizing l' with
  | nil =>
    cases l' with
    | nil => rfl
    | cons b l' => exact absurd (hmem (hties b).symm List.mem_cons_self) List.not_mem_nil
  | cons a l ih =>
    cases l' with
    | nil => exact absurd (hmem (hties a) List.mem_cons_self) List.not_mem_nil
    | cons b l' =>
      rw [List.pairwise_cons] at hl hl'
      -- each of the first elements stands in the other list too, so they are tied
      have hab : le a b = true := by
        rcases List.mem_cons.mp (hmem (hties b).symm List.mem_cons_self) with rfl | hb
        · exact hrefl b
        · exact hl.1 b hb
      have hba : le b a = true := by
        rcases List.mem_cons.mp (hmem (hties a) List.mem_cons_self) with rfl | ha
        · exact hrefl a
        · exact hl'.1 a ha
      have hfirst := hties a
      rw [List.filter_cons_of_pos (areTied_iff.mpr ⟨hrefl a, hrefl a⟩),
        List.filter_cons_of_pos (areTied_iff.mpr ⟨hab, hba⟩)] at hfirst
      obtain rfl : a = b := (List.cons.inj hfirst).1
      rw [ih hl.2 hl'.2 fun c => ?_]
      have hties := hties c
      rw [List.filter_cons, List.filter_cons] at hties
      split at hties
      · exact (List.cons.inj hties).2
      · exact hties

end ExtractionSchema
