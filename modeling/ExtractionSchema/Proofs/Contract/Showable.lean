import ExtractionSchema.Contract.Violation
import ExtractionSchema.Proofs.Value.Document

/-!
# Violations that can be shown

Telling the violations of a value shows the value, the operand of the broken rule and the place of
the violation. None of this is in the way if neither the contract nor the value holds an integer of
too many digits, and no list is so long that an index has too many digits.

* `Contract.obstacle_eq_none`: then nothing stands in the way of telling all violations.
-/

namespace ExtractionSchema

theorem hasTooManyDigits_eq_false {i : Int} (h : i.natAbs < Nat.pow 10 digitLimit) :
    hasTooManyDigits i = false := by
  unfold hasTooManyDigits
  rw [Bool.and_eq_false_iff]
  exact .inr (decide_eq_false (Nat.not_le.mpr h))

theorem Value.isShowable_record {fields : List (String × Value)} :
    (Value.record fields).isShowable = true ↔ ∀ field ∈ fields, field.2.isShowable = true := by
  rw [Value.record, Value.isShowable_object, Value.named, List.forall_mem_map]
  simp [Key.isShowable]

theorem Violation.isShowable_under {x : Violation} {step : Step} (hx : x.isShowable = true)
    (hstep : step.isShowable = true) : (x.under step).isShowable = true := by
  simp only [Violation.isShowable, Violation.under, Bool.and_eq_true, List.all_cons] at hx ⊢
  exact ⟨hx.1, hstep, hx.2⟩

theorem Step.isShowable_ofKey {k : Key} (h : k.isShowable = true) :
    (Step.ofKey k).isShowable = true := by
  cases k with
  | number n =>
    cases n <;> simp_all [Step.ofKey, Step.isShowable, Key.isShowable, Number.isShowable]
  | _ => rfl

theorem isShowable_of_mem_violationUnless {holds : Bool} {breach : Breach} {v : Value}
    {x : Violation} (hx : x ∈ violationUnless holds breach v) (hv : v.isShowable = true)
    (hoperand : breach.operand.isShowable = true)
    (hkeys : ∀ keys, breach = .unexpected keys → ∀ k ∈ keys, k.isShowable = true) :
    x.isShowable = true := by
  have heq : x = ⟨[], breach, v⟩ := by
    cases holds <;> simp_all [violationUnless]
  subst heq
  cases breach with
  | unexpected keys => simpa [Violation.isShowable, hoperand] using hkeys keys rfl
  | _ => simp [Violation.isShowable, hoperand, hv]

theorem Rule.isShowable_of_mem_violationsOfWhole {r : Rule} {v : Value} {x : Violation}
    (hr : r.operand.isShowable = true) (hv : v.isShowable = true)
    (hx : x ∈ r.violationsOfWhole v) : x.isShowable = true := by
  cases r with
  | kinds ks =>
    rw [Rule.operand] at hr
    exact isShowable_of_mem_violationUnless hx hv hr (by simp)
  | enum allowed =>
    rw [Rule.operand] at hr
    exact isShowable_of_mem_violationUnless hx hv hr (by simp)
  | required names =>
    rw [Rule.operand] at hr
    cases v with
    | object entries =>
      simp only [violationsOfWhole, List.mem_map] at hx
      obtain ⟨name, -, rfl⟩ := hx
      simp [Violation.isShowable, Breach.operand, hr]
    | _ => simp [violationsOfWhole] at hx
  | closed declared =>
    cases v with
    | object entries =>
      refine isShowable_of_mem_violationUnless hx hv rfl ?_
      rintro keys ⟨⟩ k hk
      obtain ⟨e, he, rfl⟩ := List.mem_map.mp (List.mem_filter.mp hk).1
      exact (Value.isShowable_object.mp hv e he).1
    | _ => simp [violationsOfWhole] at hx
  | date | minLength n | maxLength n =>
    rw [Rule.operand] at hr
    cases v with
    | string s => exact isShowable_of_mem_violationUnless hx hv hr (by simp)
    | _ => simp [violationsOfWhole] at hx
  | minimum n | maximum n =>
    rw [Rule.operand] at hr
    cases v with
    | number m => exact isShowable_of_mem_violationUnless hx hv hr (by simp)
    | _ => simp [violationsOfWhole] at hx
  | fields _ | everyField _ | items _ => simp [violationsOfWhole] at hx

/-! ## Violations of parts -/

theorem isShowable_of_mem_violationsOfItems {check : Value → List Violation} {i : Nat}
    {vs : List Value} {x : Violation} (hi : i + vs.length ≤ Nat.pow 10 digitLimit)
    (hcheck : ∀ v ∈ vs, ∀ y ∈ check v, y.isShowable = true)
    (hx : x ∈ violationsOfItems check i vs) : x.isShowable = true := by
  induction vs generalizing i with
  | nil => simp [violationsOfItems] at hx
  | cons v vs ih =>
    rw [List.length_cons] at hi
    rw [violationsOfItems, List.mem_append] at hx
    rcases hx with hx | hx
    · obtain ⟨y, hy, rfl⟩ := List.mem_map.mp hx
      refine Violation.isShowable_under (hcheck v List.mem_cons_self y hy) ?_
      have hdigits : hasTooManyDigits (i : Int) = false := by
        refine hasTooManyDigits_eq_false ?_
        rw [Int.natAbs_natCast]
        omega
      simp [Step.item, Step.isShowable, hdigits]
    · exact ih (by omega) (fun v hv => hcheck v (List.mem_cons_of_mem _ hv)) hx

theorem isShowable_of_mem_violationsOfEntries {check : Value → List Violation}
    {es : Value.Entries} {x : Violation} (hkeys : ∀ e ∈ es, e.1.isShowable = true)
    (hcheck : ∀ e ∈ es, ∀ y ∈ check e.2, y.isShowable = true)
    (hx : x ∈ violationsOfEntries check es) : x.isShowable = true := by
  induction es with
  | nil => simp [violationsOfEntries] at hx
  | cons e es ih =>
    obtain ⟨k, v⟩ := e
    rw [violationsOfEntries, List.mem_append] at hx
    rcases hx with hx | hx
    · obtain ⟨y, hy, rfl⟩ := List.mem_map.mp hx
      exact Violation.isShowable_under (hcheck _ List.mem_cons_self y hy)
        (Step.isShowable_ofKey (hkeys _ List.mem_cons_self))
    · exact ih (fun e he => hkeys e (List.mem_cons_of_mem _ he))
        (fun e he => hcheck e (List.mem_cons_of_mem _ he)) hx

/-! ## Violations of contracts -/

mutual

theorem Contract.isShowable_of_mem_violations : (c : Contract) → c.toValue.isShowable = true →
    ∀ v, v.isShowable = true → v.hasShortLists = true → ∀ x ∈ c.violations v, x.isShowable = true
  | .rules rs, hc, v, hv, hlists, x, hx => by
    rw [Contract.toValue, Value.isShowable_record] at hc
    rw [Contract.violations] at hx
    exact isShowable_of_mem_violationsOfRules rs hc v hv hlists x hx

theorem isShowable_of_mem_violationsOfRules : (rs : List Rule) →
    (∀ field ∈ ruleFields rs, field.2.isShowable = true) →
    ∀ v, v.isShowable = true → v.hasShortLists = true →
      ∀ x ∈ violationsOfRules rs v, x.isShowable = true
  | [], _, v, _, _, x, hx => by simp [violationsOfRules] at hx
  | r :: rs, hrs, v, hv, hlists, x, hx => by
    rw [ruleFields, List.forall_mem_cons] at hrs
    rw [violationsOfRules, List.mem_append] at hx
    rcases hx with hx | hx
    · exact Rule.isShowable_of_mem_violations r hrs.1 v hv hlists x hx
    · exact isShowable_of_mem_violationsOfRules rs hrs.2 v hv hlists x hx

theorem Rule.isShowable_of_mem_violations : (r : Rule) → r.operand.isShowable = true →
    ∀ v, v.isShowable = true → v.hasShortLists = true → ∀ x ∈ r.violations v, x.isShowable = true
  | .fields children, hr, v, hv, hlists, x, hx => by
    rw [Rule.operand, Value.isShowable_record] at hr
    cases v with
    | object entries =>
      exact isShowable_of_mem_violationsOfChildren children hr entries hv hlists x hx
    | _ => simp [Rule.violations] at hx
  | .everyField c, hr, v, hv, hlists, x, hx => by
    cases v with
    | object entries =>
      have hes := Value.isShowable_object.mp hv
      have hshort := Value.hasShortLists_object.mp hlists
      refine isShowable_of_mem_violationsOfEntries (fun e he => (hes e he).1) ?_ hx
      intro e he
      exact Contract.isShowable_of_mem_violations c hr e.2 (hes e he).2 (hshort e he)
    | _ => simp [Rule.violations] at hx
  | .items c, hr, v, hv, hlists, x, hx => by
    cases v with
    | list items =>
      have hvs := Value.isShowable_list.mp hv
      obtain ⟨hlength, hshort⟩ := Value.hasShortLists_list.mp hlists
      refine isShowable_of_mem_violationsOfItems (by omega) ?_ hx
      intro w hw
      exact Contract.isShowable_of_mem_violations c hr w (hvs w hw) (hshort w hw)
    | _ => simp [Rule.violations] at hx
  | .kinds _, hr, v, hv, _, x, hx | .enum _, hr, v, hv, _, x, hx
  | .required _, hr, v, hv, _, x, hx | .closed _, hr, v, hv, _, x, hx
  | .date, hr, v, hv, _, x, hx | .minLength _, hr, v, hv, _, x, hx
  | .maxLength _, hr, v, hv, _, x, hx | .minimum _, hr, v, hv, _, x, hx
  | .maximum _, hr, v, hv, _, x, hx => by
    rw [Rule.violations] at hx
    · exact Rule.isShowable_of_mem_violationsOfWhole hr hv hx
    all_goals simp

theorem isShowable_of_mem_violationsOfChildren : (children : List (String × Contract)) →
    (∀ field ∈ contractFields children, field.2.isShowable = true) →
    ∀ entries, (Value.object entries).isShowable = true →
      (Value.object entries).hasShortLists = true →
      ∀ x ∈ violationsOfChildren children entries, x.isShowable = true
  | [], _, entries, _, _, x, hx => by simp [violationsOfChildren] at hx
  | (name, c) :: rest, hchildren, entries, hv, hlists, x, hx => by
    rw [contractFields, List.forall_mem_cons] at hchildren
    rw [violationsOfChildren, List.mem_append] at hx
    rcases hx with hx | hx
    · cases hlookup : Value.lookup (.name name) entries with
      | none => simp [hlookup] at hx
      | some w =>
        rw [hlookup] at hx
        obtain ⟨y, hy, rfl⟩ := List.mem_map.mp hx
        have hshort := Value.hasShortLists_object.mp hlists _ (Value.mem_of_lookup hlookup)
        refine Violation.isShowable_under ?_ rfl
        exact Contract.isShowable_of_mem_violations c hchildren.1 w
          (Value.isShowable_of_lookup hv hlookup) hshort y hy
    · exact isShowable_of_mem_violationsOfChildren rest hchildren.2 entries hv hlists x hx

end

/-- Nothing stands in the way of telling the violations of a value if its integers and those of the
contract can be shown, and so can the indexes of its items. -/
theorem Contract.obstacle_eq_none {c : Contract} {v : Value} (hc : c.toValue.isShowable = true)
    (hv : v.isShowable = true) (hlists : v.hasShortLists = true) : c.obstacle v = none := by
  have hall : (c.violations v).all Violation.isShowable = true :=
    List.all_eq_true.mpr (Contract.isShowable_of_mem_violations c hc v hv hlists)
  rw [Contract.obstacle, if_pos hall]

end ExtractionSchema
