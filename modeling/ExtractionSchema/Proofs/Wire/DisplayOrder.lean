import ExtractionSchema.Proofs.StableSort
import ExtractionSchema.Wire.Node
import Mathlib.Data.List.Forall2
import Mathlib.Data.List.Nodup
import Mathlib.Data.Prod.Lex

/-!
# Display order

The display order compares the orders of two children only, a child without one coming last. It is
total and transitive, so sorting puts the children into this order, and where no two children have
the same order there is one arrangement only.

* `orderedProperties_of_perm`: children whose orders differ come in the same display order however
  they are stored.
* `forall₂_orderedProperties`: children of the same orders, one by one, keep company in display
  order.
* `orderedProperties_stable`: the display order is the only one that is ascending and stable.
-/

namespace ExtractionSchema.Wire

/-! ## Orders -/

/-- What the display order goes by: first whether a child has no order, then the order, where zero
stands for none. -/
def orderKey (order : Option Int) : Bool ×ₗ Int := toLex (order.isNone, order.getD 0)

theorem comesBefore_iff_key {i j : Option Int} :
    comesBefore i j = true ↔ orderKey i ≤ orderKey j := by
  cases i <;> cases j <;> simp [comesBefore, orderKey, Prod.Lex.toLex_le_toLex]

/-- The zero that stands for no order is told apart from an order of zero. -/
theorem orderKey_inj {i j : Option Int} (h : orderKey i = orderKey j) : i = j := by
  cases i <;> cases j <;> simp_all [orderKey]

theorem comesBefore_total (i j : Option Int) : (comesBefore i j || comesBefore j i) = true := by
  rw [Bool.or_eq_true, comesBefore_iff_key, comesBefore_iff_key]
  exact le_total _ _

theorem comesBefore_self (i : Option Int) : comesBefore i i = true := by
  simpa using comesBefore_total i i

theorem comesBefore_trans {i j k : Option Int} (hij : comesBefore i j = true)
    (hjk : comesBefore j k = true) : comesBefore i k = true := by
  rw [comesBefore_iff_key] at hij hjk ⊢
  exact le_trans hij hjk

theorem comesBefore_antisymm {i j : Option Int} (hij : comesBefore i j = true)
    (hji : comesBefore j i = true) : i = j := by
  rw [comesBefore_iff_key] at hij hji
  exact orderKey_inj (le_antisymm hij hji)

/-- Whoever comes first has an order if the other one has, and then no greater one. -/
theorem comesBefore_iff {i j : Option Int} : comesBefore i j = true ↔
    (j.isSome → i.isSome) ∧ ∀ m ∈ i, ∀ n ∈ j, m ≤ n := by
  cases i <;> cases j <;> simp [comesBefore]

/-! ## Children in display order -/

/-- Sorting puts the children into display order. -/
theorem pairwise_orderedProperties (kids : Properties) :
    (orderedProperties kids).Pairwise fun a b =>
      comesBefore a.2.about.order b.2.about.order = true := by
  unfold orderedProperties
  apply List.pairwise_mergeSort
  · intro a b c hab hbc
    exact comesBefore_trans hab hbc
  · intro a b
    exact comesBefore_total _ _

theorem orderedProperties_perm (kids : Properties) : (orderedProperties kids).Perm kids :=
  List.mergeSort_perm kids _

/-- Children whose orders differ come in the same display order however they are stored. -/
theorem orderedProperties_of_perm {kids kids' : Properties} (hperm : kids.Perm kids')
    (horders : (kids'.map fun kid => kid.2.about.order).Nodup) :
    orderedProperties kids = orderedProperties kids' := by
  have hmem : ∀ {l : Properties} {kid : String × Node}, l.Perm kids' →
      kid ∈ orderedProperties l → kid ∈ kids' := fun hl hkid =>
    ((orderedProperties_perm _).trans hl).mem_iff.mp hkid
  refine List.Perm.eq_of_pairwise ?_ (pairwise_orderedProperties kids)
    (pairwise_orderedProperties kids')
    ((orderedProperties_perm kids).trans (hperm.trans (orderedProperties_perm kids').symm))
  intro a b ha hb hab hba
  exact List.inj_on_of_nodup_map horders (hmem hperm ha) (hmem (List.Perm.refl _) hb)
    (comesBefore_antisymm hab hba)

/-- Children that are related one by one, those of the same order to each other, are related in
display order. -/
theorem forall₂_orderedProperties {R : String × Node → String × Node → Prop}
    {kids kids' : Properties} (h : List.Forall₂ R kids kids')
    (horder : ∀ kid kid', R kid kid' → kid.2.about.order = kid'.2.about.order) :
    List.Forall₂ R (orderedProperties kids) (orderedProperties kids') := by
  -- both are sorted as the pairs of related children are, by the orders of the first ones
  obtain ⟨hlength, hpairs⟩ := List.forall₂_iff_zip.mp h
  have hfirst : (kids.zip kids').map Prod.fst = kids := List.map_fst_zip (Nat.le_of_eq hlength)
  have hsecond : (kids.zip kids').map Prod.snd = kids' :=
    List.map_snd_zip (Nat.le_of_eq hlength.symm)
  have hrelated : ∀ pair ∈ kids.zip kids', R pair.1 pair.2 := fun pair hpair => hpairs hpair
  generalize kids.zip kids' = pairs at hfirst hsecond hrelated
  subst hfirst hsecond
  let sorted := pairs.mergeSort fun a b => comesBefore a.1.2.about.order b.1.2.about.order
  have hsorted : orderedProperties (pairs.map Prod.fst) = sorted.map Prod.fst := by
    refine (List.map_mergeSort fun a _ b _ => ?_).symm
    rfl
  have hsorted' : orderedProperties (pairs.map Prod.snd) = sorted.map Prod.snd := by
    refine (List.map_mergeSort fun a ha b hb => ?_).symm
    rw [horder _ _ (hrelated a ha), horder _ _ (hrelated b hb)]
  rw [hsorted, hsorted', List.forall₂_map_left_iff, List.forall₂_map_right_iff, List.forall₂_same]
  exact fun pair hpair => hrelated pair (List.mem_mergeSort.mp hpair)

/-- Children in display order stay as they are. -/
theorem orderedProperties_of_pairwise {kids : Properties}
    (h : kids.Pairwise fun a b => comesBefore a.2.about.order b.2.about.order = true) :
    orderedProperties kids = kids :=
  List.mergeSort_of_pairwise h

/-! ## The only display -/

/-- Children are shown: those with an order come first, in ascending order, and children of the same
order, as well as those without one, stand as they are stored. -/
structure IsDisplayOf (kids shown : Properties) : Prop where
  perm : shown.Perm kids
  ordered_first : shown.Pairwise fun a b => b.2.about.order.isSome → a.2.about.order.isSome
  ascending : shown.Pairwise fun a b => ∀ i ∈ a.2.about.order, ∀ j ∈ b.2.about.order, i ≤ j
  stable : ∀ order : Option Int, (shown.filter fun kid => kid.2.about.order = order) =
    kids.filter fun kid => kid.2.about.order = order

/-- Children of one order stand in display order as they are stored. -/
theorem filter_orderedProperties (kids : Properties) (order : Option Int) :
    ((orderedProperties kids).filter fun kid => kid.2.about.order = order) =
      kids.filter fun kid => kid.2.about.order = order := by
  apply filter_mergeSort
  · intro a b c hab hbc
    exact comesBefore_trans hab hbc
  · intro a b
    exact comesBefore_total _ _
  · rw [List.pairwise_filter]
    refine List.pairwise_of_forall fun a b ha hb => ?_
    rw [of_decide_eq_true ha, of_decide_eq_true hb]
    exact comesBefore_self order

theorem isDisplayOf_orderedProperties (kids : Properties) :
    IsDisplayOf kids (orderedProperties kids) where
  perm := orderedProperties_perm kids
  ordered_first := (pairwise_orderedProperties kids).imp fun h => (comesBefore_iff.mp h).1
  ascending := (pairwise_orderedProperties kids).imp fun h => (comesBefore_iff.mp h).2
  stable := filter_orderedProperties kids

/-- There is one way only to show children. -/
theorem IsDisplayOf.unique {kids shown shown' : Properties} (h : IsDisplayOf kids shown)
    (h' : IsDisplayOf kids shown') : shown = shown' := by
  let le : String × Node → String × Node → Bool := fun a b =>
    comesBefore a.2.about.order b.2.about.order
  have hsorted : ∀ {l : Properties}, IsDisplayOf kids l → l.Pairwise fun a b => le a b = true :=
    fun hl => (hl.ordered_first.and hl.ascending).imp fun hab => comesBefore_iff.mpr hab
  -- what the comparison does not tell apart are the children of one order
  have htied : ∀ a : String × Node,
      areTied le a = fun kid => decide (kid.2.about.order = a.2.about.order) := by
    intro a
    funext kid
    rw [Bool.eq_iff_iff, areTied_iff, decide_eq_true_iff]
    constructor
    · rintro ⟨hak, hka⟩
      exact comesBefore_antisymm hka hak
    · intro horder
      simp only [le, horder]
      exact ⟨comesBefore_self _, comesBefore_self _⟩
  have hself : ∀ a, le a a = true := fun a => comesBefore_self _
  refine eq_of_pairwise_of_ties hself (hsorted h) (hsorted h') fun a => ?_
  rw [htied, h.stable, h'.stable]

/-- The display order is the only arrangement of the children that puts those with an order first,
in ascending order, and leaves those of the same order, or without one, as they are stored. Where no
two children have the same order, nor two of them none, it does not depend on how they are
stored. -/
theorem orderedProperties_stable (kids : Properties) :
    (∀ shown, IsDisplayOf kids shown ↔ shown = orderedProperties kids) ∧
    ∀ kids', kids'.Perm kids → (kids.map fun kid => kid.2.about.order).Nodup →
      orderedProperties kids' = orderedProperties kids := by
  refine ⟨fun shown => ⟨fun h => ?_, ?_⟩, fun kids' hperm => orderedProperties_of_perm hperm⟩
  · exact h.unique (isDisplayOf_orderedProperties kids)
  · rintro rfl
    exact isDisplayOf_orderedProperties kids

/-- Children of a negative order, of order zero, of an order of many digits and of none. -/
def rankedKids : Properties := [
  ("d", .primitive { order := some (-2) } .string {}),
  ("b", .array { order := some 0 } (.primitive {} .number {})),
  ("c", .object { order := some 1000000000000000000000000000000 } [] [] none),
  ("a", .unknown {} "geo" [])]

theorem orderedProperties_stable_ranked :
    rankedKids.reverse.Perm rankedKids ∧
      (rankedKids.map fun kid => kid.2.about.order).Nodup ∧
      orderedProperties rankedKids.reverse = rankedKids := by
  have hperm : rankedKids.reverse.Perm rankedKids := List.reverse_perm rankedKids
  have horders : (rankedKids.map fun kid => kid.2.about.order).Nodup := by decide
  refine ⟨hperm, horders, ?_⟩
  rw [(orderedProperties_stable rankedKids).2 _ hperm horders]
  exact orderedProperties_of_pairwise (by decide)

end ExtractionSchema.Wire
