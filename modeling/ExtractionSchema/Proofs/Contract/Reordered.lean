import ExtractionSchema.Proofs.Contract.Acceptance
import ExtractionSchema.Proofs.Value.Reordered

/-!
# Contracts and the order of entries

Whether a contract is met does not depend on the order of the entries of a document or of the
objects within it: fields are found by their names, and everything else that is asked of an object
is asked of its entries one by one.

* `Contract.violations_eq_nil_iff_reordered` says this for every contract.
-/

namespace ExtractionSchema

open Value (Reordered EntriesMoved isDocument_object isDocument_list)

/-! ## Reordered objects -/

section Entries

variable {es fs : Value.Entries}

theorem Value.EntriesMoved.has_eq (h : EntriesMoved es fs) (name : String) :
    Value.has es name = Value.has fs name := by
  have hvalue := h.values (.name name)
  rw [Value.has, Value.has]
  generalize Value.lookup (.name name) es = found, Value.lookup (.name name) fs = found' at hvalue ⊢
  cases hvalue <;> rfl

/-- What is asked of the keys of an object is asked in both orders of the same keys. -/
theorem Value.EntriesMoved.forall_key_iff (h : EntriesMoved es fs) (good : Key → Prop) :
    (∀ e ∈ es, good e.1) ↔ ∀ f ∈ fs, good f.1 := by
  have hkeys : ∀ entries : Value.Entries,
      (∀ e ∈ entries, good e.1) ↔ ∀ key ∈ entries.map Prod.fst, good key :=
    fun _ => List.forall_mem_map.symm
  rw [hkeys, hkeys]
  exact forall_congr' fun key => imp_congr_left h.keys.mem_iff

end Entries

/-! ## Rules that look at the value as a whole -/

section Whole

variable {v w : Value}

theorem Kind.admits_reordered (h : Reordered v w) (k : Kind) : k.admits v = k.admits w := by
  cases h with
  | same => rfl
  | list => cases k <;> rfl
  | object => cases k <;> rfl

/-- A rule that looks at the value as a whole does not look at the order of entries. -/
theorem Rule.violationsOfWhole_eq_nil_iff_reordered (hv : v.isDocument = true)
    (h : Reordered v w) (r : Rule) : r.violationsOfWhole v = [] ↔ r.violationsOfWhole w = [] := by
  have hkinds : ∀ ks : List Kind, (Rule.kinds ks).violationsOfWhole v = [] ↔
      (Rule.kinds ks).violationsOfWhole w = [] := by
    intro ks
    simp only [violationsOfWhole, violationUnless_eq_nil_iff, Kind.admits_reordered h]
  have henum : ∀ allowed : List Value, (Rule.enum allowed).violationsOfWhole v = [] ↔
      (Rule.enum allowed).violationsOfWhole w = [] := by
    intro allowed
    simp only [violationsOfWhole, violationUnless_eq_nil_iff,
      fun u => Reordered.equals_eq u hv h]
  cases h with
  | same => rfl
  | list =>
    cases r with
    | kinds ks => exact hkinds ks
    | enum allowed => exact henum allowed
    | _ => rfl
  | object each order =>
    have hmoved := each.moved (isDocument_object.mp hv).1 order
    cases r with
    | kinds ks => exact hkinds ks
    | enum allowed => exact henum allowed
    | required names =>
      simp only [violationsOfWhole, List.map_eq_nil_iff, hmoved.has_eq]
    | closed declared =>
      have hclosed : ∀ entries, (Rule.closed declared).violationsOfWhole (.object entries) = [] ↔
          ∀ e ∈ entries, ∃ name ∈ declared, e.1 = .name name := by
        intro entries
        simpa [Rule.violations] using @Rule.closed_eq_nil_iff (.object entries) declared
      rw [hclosed, hclosed]
      exact hmoved.forall_key_iff fun key => ∃ name ∈ declared, key = .name name
    | _ => rfl

end Whole

/-! ## Rules on parts -/

mutual

/-- A contract is met by a document exactly when it is met by the reordered one. -/
theorem Contract.violations_eq_nil_iff_reordered : (c : Contract) → {v w : Value} →
    v.isDocument = true → Reordered v w → (c.violations v = [] ↔ c.violations w = [])
  | .rules rs, _, _, hv, h => by
    rw [Contract.violations, Contract.violations]
    exact violationsOfRules_eq_nil_iff_reordered rs hv h

theorem violationsOfRules_eq_nil_iff_reordered : (rs : List Rule) → {v w : Value} →
    v.isDocument = true → Reordered v w →
      (violationsOfRules rs v = [] ↔ violationsOfRules rs w = [])
  | [], _, _, _, _ => Iff.rfl
  | r :: rs, _, _, hv, h => by
    rw [violationsOfRules, violationsOfRules, List.append_eq_nil_iff, List.append_eq_nil_iff,
      Rule.violations_eq_nil_iff_reordered r hv h, violationsOfRules_eq_nil_iff_reordered rs hv h]

theorem Rule.violations_eq_nil_iff_reordered : (r : Rule) → {v w : Value} →
    v.isDocument = true → Reordered v w → (r.violations v = [] ↔ r.violations w = [])
  | .fields children, _, _, hv, h => by
    cases h with
    | same => rfl
    | list => rfl
    | object each order =>
      obtain ⟨hkeys, hentries⟩ := isDocument_object.mp hv
      exact violationsOfChildren_eq_nil_iff_reordered children (fun e he => (hentries e he).2)
        (each.moved hkeys order)
  | .everyField c, _, _, hv, h => by
    cases h with
    | same => rfl
    | list => rfl
    | @object es mid fs each order =>
      have hdocuments : ∀ e ∈ es, e.2.isDocument = true := fun e he =>
        ((isDocument_object.mp hv).2 e he).2
      have heach := (List.forall₂_and_left _ _).mpr ⟨hdocuments, each.forall₂⟩
      have hmid := forall_mem_iff_of_forall₂ heach fun hef =>
        Contract.violations_eq_nil_iff_reordered c hef.1 hef.2.2
      have horder : (∀ e ∈ mid, c.violations e.2 = []) ↔ ∀ e ∈ fs, c.violations e.2 = [] :=
        forall_congr' fun e => imp_congr_left order.mem_iff
      simp only [Rule.violations, violationsOfEntries_eq_nil_iff]
      exact hmid.trans horder
  | .items c, _, _, hv, h => by
    cases h with
    | same => rfl
    | object => rfl
    | list each =>
      have heach := (List.forall₂_and_left _ _).mpr ⟨isDocument_list.mp hv, each.forall₂⟩
      simp only [Rule.violations, violationsOfItems_eq_nil_iff]
      exact forall_mem_iff_of_forall₂ heach fun hvw =>
        Contract.violations_eq_nil_iff_reordered c hvw.1 hvw.2
  | .kinds _, _, _, hv, h | .enum _, _, _, hv, h | .required _, _, _, hv, h
  | .closed _, _, _, hv, h | .date, _, _, hv, h | .minLength _, _, _, hv, h
  | .maxLength _, _, _, hv, h | .minimum _, _, _, hv, h | .maximum _, _, _, hv, h => by
    simpa only [Rule.violations] using Rule.violationsOfWhole_eq_nil_iff_reordered hv h _

theorem violationsOfChildren_eq_nil_iff_reordered : (children : List (String × Contract)) →
    {es fs : Value.Entries} → (∀ e ∈ es, e.2.isDocument = true) → EntriesMoved es fs →
      (violationsOfChildren children es = [] ↔ violationsOfChildren children fs = [])
  | [], _, _, _, _ => Iff.rfl
  | (name, c) :: rest, es, fs, hes, h => by
    have hdocument : ∀ v, Value.lookup (.name name) es = some v → v.isDocument = true :=
      fun _ hv => hes _ (Value.mem_of_lookup hv)
    have hvalue := h.values (.name name)
    rw [violationsOfChildren, violationsOfChildren, List.append_eq_nil_iff,
      List.append_eq_nil_iff, violationsOfChildren_eq_nil_iff_reordered rest hes h]
    generalize Value.lookup (.name name) es = found, Value.lookup (.name name) fs = found'
      at hdocument hvalue ⊢
    cases hvalue with
    | none => rfl
    | some hvw =>
      simp only [List.map_eq_nil_iff,
        Contract.violations_eq_nil_iff_reordered c (hdocument _ rfl) hvw]

end

end ExtractionSchema
