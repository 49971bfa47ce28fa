import ExtractionSchema.Proofs.Agent.Acceptance
import Mathlib.Data.List.Perm.Basic

/-!
# The order in which agents run

Which lists are accepted does not depend on the order of their items, though the fault of a refused
list does. The agents of an accepted list have distinct orders, so there is one way only to run
them, and each of them can be written and read again.

* `Agent.exists_listOfValue_of_perm`: a rearranged list is accepted with the same agents.
* `runOrder_of_perm`: agents of distinct orders run in the same order however they are listed.
* `Agent.runOrder_canonical`: what a list and its rearrangements have in common.
-/

namespace ExtractionSchema

/-! ## Running order -/

/-- The agents run in the order of their numbers. -/
theorem pairwise_runOrder (as : List Agent) :
    (runOrder as).Pairwise fun a b => a.order ≤ b.order := by
  have hsorted : (runOrder as).Pairwise fun a b => decide (a.order ≤ b.order) = true := by
    apply List.pairwise_mergeSort
    · intro a b c hab hbc
      rw [decide_eq_true_eq] at hab hbc ⊢
      exact Nat.le_trans hab hbc
    · intro a b
      rw [Bool.or_eq_true, decide_eq_true_eq, decide_eq_true_eq]
      exact Nat.le_total a.order b.order
  exact hsorted.imp fun h => of_decide_eq_true h

theorem runOrder_perm (as : List Agent) : (runOrder as).Perm (as.filter Agent.enabled) :=
  List.mergeSort_perm _ _

theorem mem_runOrder {as : List Agent} {a : Agent} :
    a ∈ runOrder as ↔ a ∈ as ∧ a.enabled = true := by
  rw [(runOrder_perm as).mem_iff, List.mem_filter]

namespace Agent

theorem AreDistinct.filter {as : List Agent} (h : AreDistinct as) (p : Agent → Bool) :
    AreDistinct (as.filter p) :=
  ⟨h.names.sublist (List.filter_sublist.map _), h.orders.sublist (List.filter_sublist.map _)⟩

theorem AreDistinct.runOrder {as : List Agent} (h : AreDistinct as) :
    AreDistinct (runOrder as) :=
  (h.filter Agent.enabled).perm (runOrder_perm as).symm

/-- Two agents of one list that have the same order are the same. -/
theorem AreDistinct.eq_of_order {as : List Agent} (h : AreDistinct as) {a b : Agent}
    (ha : a ∈ as) (hb : b ∈ as) (horder : a.order = b.order) : a = b :=
  List.inj_on_of_nodup_map h.orders ha hb horder

/-- Agents of distinct orders run one strictly after the other. -/
theorem AreDistinct.pairwise_runOrder {as : List Agent} (h : AreDistinct as) :
    (ExtractionSchema.runOrder as).Pairwise fun a b => a.order < b.order := by
  have hne : (ExtractionSchema.runOrder as).Pairwise fun a b => a.order ≠ b.order :=
    List.pairwise_map.mp h.runOrder.orders
  have hboth := (ExtractionSchema.pairwise_runOrder as).and hne
  apply hboth.imp
  intro a b hab
  exact Nat.lt_of_le_of_ne hab.1 hab.2

end Agent

/-- There is one ascending list of the enabled agents, if their orders are distinct. -/
theorem runOrder_eq_of_perm {as bs : List Agent} (h : Agent.AreDistinct as)
    (hperm : bs.Perm (as.filter Agent.enabled))
    (hsorted : bs.Pairwise fun a b => a.order ≤ b.order) : runOrder as = bs := by
  have hruns : (runOrder as).Perm bs := (runOrder_perm as).trans hperm.symm
  apply List.Perm.eq_of_pairwise ?_ (pairwise_runOrder as) hsorted hruns
  intro a b ha hb hab hba
  have hmem : b ∈ runOrder as := hruns.mem_iff.mpr hb
  exact h.runOrder.eq_of_order ha hmem (Nat.le_antisymm hab hba)

/-- Agents of distinct orders run in the same order however they are listed. -/
theorem runOrder_of_perm {as bs : List Agent} (h : Agent.AreDistinct as) (hperm : as.Perm bs) :
    runOrder as = runOrder bs :=
  runOrder_eq_of_perm h ((runOrder_perm bs).trans (hperm.filter Agent.enabled).symm)
    (pairwise_runOrder bs)

namespace Agent

/-! ## Rearranged lists -/

/-- A rearranged list is accepted with the same agents, in the order of its own items. -/
theorem exists_listOfValue_of_perm {settings : Settings} {xs ys : List Value} {as : List Agent}
    (hperm : xs.Perm ys) (h : listOfValue settings (.list xs) = .ok as) :
    ∃ bs, listOfValue settings (.list ys) = .ok bs ∧ as.Perm bs := by
  obtain ⟨hlength, hdescribed, hdistinct⟩ := listOfValue_eq_ok_iff.mp h
  obtain ⟨bs, hys, hbs⟩ := List.perm_comp_forall₂ hperm.symm hdescribed
  have hlength' : ys.length ≤ settings.maxAgents := by
    rw [← hperm.length_eq]
    exact hlength
  refine ⟨bs, listOfValue_eq_ok_iff.mpr ⟨hlength', hys, hdistinct.perm hbs.symm⟩, hbs.symm⟩

/-! ## Written agents -/

/-- The entries that an agent is written with describe it. -/
theorem Describes.toValue {settings : Settings} {entries : Value.Entries} {a : Agent}
    (h : Describes settings entries a) : IsDescribedBy settings a.toValue a := by
  obtain ⟨name, prompt, order, enabled, description⟩ := a
  refine ⟨_, rfl, ?_⟩
  constructor
  case name | prompt => rfl
  case name_ne => exact h.name_ne
  case name_le => exact h.name_le
  case prompt_ne => exact h.prompt_ne
  case prompt_le => exact h.prompt_le
  case order => exact ⟨.int order, rfl, rfl⟩
  case order_pos => exact h.order_pos
  case enabled => exact .inl rfl
  case description => cases description <;> rfl
  case description_le => exact h.description_le

/-- The agents of an accepted list are read back from their written forms. -/
theorem listOfValue_map_toValue {settings : Settings} {items : List Value} {as : List Agent}
    (h : listOfValue settings (.list items) = .ok as) :
    listOfValue settings (.list (as.map toValue)) = .ok as := by
  obtain ⟨hlength, hdescribed, hdistinct⟩ := listOfValue_eq_ok_iff.mp h
  have hlength' : (as.map toValue).length ≤ settings.maxAgents := by
    rw [List.length_map, ← hdescribed.length_eq]
    exact hlength
  have hwritten : List.Forall₂ (IsDescribedBy settings) (as.map toValue) as := by
    rw [List.forall₂_map_left_iff, List.forall₂_same]
    intro a ha
    obtain ⟨v, -, entries, -, hentries⟩ := exists_of_mem_forall₂ hdescribed a ha
    exact hentries.toValue
  exact listOfValue_eq_ok_iff.mpr ⟨hlength', hwritten, hdistinct⟩

theorem order_pos_of_mem {settings : Settings} {items : List Value} {as : List Agent}
    (h : listOfValue settings (.list items) = .ok as) : ∀ a ∈ as, 0 < a.order := by
  obtain ⟨-, hdescribed, -⟩ := listOfValue_eq_ok_iff.mp h
  intro a ha
  obtain ⟨v, -, entries, -, hentries⟩ := exists_of_mem_forall₂ hdescribed a ha
  exact hentries.order_pos

/-! ## The canonical order -/

/-- A list of agents and a rearrangement of it are accepted or refused together. Accepted, both run
in one order: by numbers that are positive and strictly ascend, under distinct names, each enabled
agent once and no other. Written again, the accepted agents are read as they are. -/
theorem runOrder_canonical (settings : Settings) {xs ys : List Value} (hperm : xs.Perm ys) :
    ((∃ as, listOfValue settings (.list xs) = .ok as) ↔
      ∃ bs, listOfValue settings (.list ys) = .ok bs) ∧
    ∀ as, listOfValue settings (.list xs) = .ok as →
      (∀ bs, listOfValue settings (.list ys) = .ok bs → runOrder as = runOrder bs) ∧
      (runOrder as).Pairwise (fun a b => a.order < b.order) ∧
      (∀ a ∈ runOrder as, 0 < a.order) ∧
      ((runOrder as).map Agent.name).Nodup ∧
      (runOrder as).Perm (as.filter Agent.enabled) ∧
      listOfValue settings (.list (as.map toValue)) = .ok as := by
  constructor
  · constructor
    · rintro ⟨as, has⟩
      obtain ⟨bs, hbs, -⟩ := exists_listOfValue_of_perm hperm has
      exact ⟨bs, hbs⟩
    · rintro ⟨bs, hbs⟩
      obtain ⟨as, has, -⟩ := exists_listOfValue_of_perm hperm.symm hbs
      exact ⟨as, has⟩
  · intro as has
    obtain ⟨-, -, hdistinct⟩ := listOfValue_eq_ok_iff.mp has
    refine ⟨?_, hdistinct.pairwise_runOrder, ?_, hdistinct.runOrder.names, runOrder_perm as,
      listOfValue_map_toValue has⟩
    · intro bs hbs
      obtain ⟨cs, hcs, hac⟩ := exists_listOfValue_of_perm hperm has
      rw [hbs] at hcs
      cases hcs
      exact runOrder_of_perm hdistinct hac
    · intro a ha
      exact order_pos_of_mem has a (mem_runOrder.mp ha).1

/-- Three agents as a document lists them: the last to run comes first, one writes its order as a
floating-point number, and one is disabled. -/
def sampleAgents : List Value := [
  .record [("name", .string "tidy"), ("prompt", .string "Tidy up."), ("order", .int 7)],
  .record [("name", .string "sum"), ("prompt", .string "Add."),
    ("order", .number (.float (.finite (.ofInt 2)))), ("enabled", .null)],
  .record [("name", .string "old"), ("prompt", .string "Skip."), ("order", .int 1),
    ("enabled", .bool false), ("description", .string "")]]

theorem runOrder_canonical_sample : sampleAgents.Perm sampleAgents.reverse ∧
    ∃ as bs, listOfValue .standard (.list sampleAgents) = .ok as ∧
      listOfValue .standard (.list sampleAgents.reverse) = .ok bs ∧
      runOrder as = runOrder bs ∧ (runOrder as).map Agent.name = ["sum", "tidy"] := by
  have hperm : sampleAgents.Perm sampleAgents.reverse := (List.reverse_perm _).symm
  obtain ⟨-, hcanonical⟩ := runOrder_canonical .standard hperm
  have haccepted : listOfValue .standard (.list sampleAgents) =
      .ok [⟨"tidy", "Tidy up.", 7, true, none⟩, ⟨"sum", "Add.", 2, true, none⟩,
        ⟨"old", "Skip.", 1, false, some ""⟩] :=
    rfl
  obtain ⟨-, -, hdistinct⟩ := listOfValue_eq_ok_iff.mp haccepted
  refine ⟨hperm, _, _, haccepted, rfl, (hcanonical _ haccepted).1 _ rfl, ?_⟩
  rw [runOrder_eq_of_perm hdistinct (.swap _ _ _) (by decide)]
  rfl

end Agent

end ExtractionSchema
