import ExtractionSchema.Record.Validation

/-!
# When a contract is met

A contract is met when no rule is broken, and each rule says by itself when it is broken: one on the
kind of a value, its allowed values or its size looks at the value alone, and one on parts asks the
contracts of the parts. Rules on the parts or the size of a kind of value hold for every value of
another kind.

* `Contract.violations_eq_nil_iff` and the lemmas on rules say when there are no violations.
* `validate_eq_nil_iff` and `firstMismatch_eq_none_iff`: all three ways to ask give the same answer.
-/

namespace ExtractionSchema

theorem violationUnless_eq_nil_iff {holds : Bool} {breach : Breach} {v : Value} :
    violationUnless holds breach v = [] ↔ holds = true := by
  cases holds <;> simp [violationUnless]

theorem violationsOfRules_append (rs ss : List Rule) (v : Value) :
    violationsOfRules (rs ++ ss) v = violationsOfRules rs v ++ violationsOfRules ss v := by
  induction rs with
  | nil => rfl
  | cons r rs ih => rw [List.cons_append, violationsOfRules, ih, violationsOfRules,
      List.append_assoc]

theorem violationsOfRules_eq_nil_iff {rs : List Rule} {v : Value} :
    violationsOfRules rs v = [] ↔ ∀ r ∈ rs, r.violations v = [] := by
  induction rs with
  | nil => simp [violationsOfRules]
  | cons r rs ih => simp [violationsOfRules, ih]

theorem Contract.violations_eq_nil_iff {rs : List Rule} {v : Value} :
    (Contract.rules rs).violations v = [] ↔ ∀ r ∈ rs, r.violations v = [] := by
  rw [Contract.violations, violationsOfRules_eq_nil_iff]

/-! ## Rules that look at the value as a whole -/

namespace Rule

variable {v : Value}

theorem kinds_eq_nil_iff {ks : List Kind} :
    (Rule.kinds ks).violations v = [] ↔ ∃ k ∈ ks, k.admits v = true := by
  simp [Rule.violations, violationsOfWhole, violationUnless_eq_nil_iff]

theorem enum_eq_nil_iff {allowed : List Value} :
    (Rule.enum allowed).violations v = [] ↔ ∃ w ∈ allowed, w.equals v = true := by
  simp [Rule.violations, violationsOfWhole, violationUnless_eq_nil_iff]

theorem required_eq_nil_iff {names : List String} :
    (Rule.required names).violations v = [] ↔
      ∀ entries, v = .object entries → ∀ name ∈ names, Value.has entries name = true := by
  cases v <;> simp [Rule.violations, violationsOfWhole, List.filter_eq_nil_iff]

theorem closed_eq_nil_iff {declared : List String} :
    (Rule.closed declared).violations v = [] ↔
      ∀ entries, v = .object entries → ∀ e ∈ entries, ∃ name ∈ declared, e.1 = .name name := by
  cases v with
  | object entries =>
    have hkey : ∀ k : Key, (∃ name ∈ declared, Key.name name = k) ↔
        ∃ name ∈ declared, k = Key.name name := fun k => by simp only [eq_comm]
    simp [Rule.violations, violationsOfWhole, violationUnless_eq_nil_iff, undeclared,
      List.filter_eq_nil_iff, hkey]
  | _ => simp [Rule.violations, violationsOfWhole]

theorem date_eq_nil_iff :
    Rule.date.violations v = [] ↔ ∀ s, v = .string s → isDateText s = true := by
  cases v <;> simp [Rule.violations, violationsOfWhole, violationUnless_eq_nil_iff]

theorem minLength_eq_nil_iff {n : Int} :
    (Rule.minLength n).violations v = [] ↔ ∀ s, v = .string s → n ≤ s.length := by
  cases v <;> simp [Rule.violations, violationsOfWhole, violationUnless_eq_nil_iff]

theorem maxLength_eq_nil_iff {n : Int} :
    (Rule.maxLength n).violations v = [] ↔ ∀ s, v = .string s → s.length ≤ n := by
  cases v <;> simp [Rule.violations, violationsOfWhole, violationUnless_eq_nil_iff]

theorem minimum_eq_nil_iff {n : Number} :
    (Rule.minimum n).violations v = [] ↔ ∀ m, v = .number m → m.lt n = false := by
  cases v <;> simp [Rule.violations, violationsOfWhole, violationUnless_eq_nil_iff]

theorem maximum_eq_nil_iff {n : Number} :
    (Rule.maximum n).violations v = [] ↔ ∀ m, v = .number m → n.lt m = false := by
  cases v <;> simp [Rule.violations, violationsOfWhole, violationUnless_eq_nil_iff]

end Rule

/-! ## Rules on parts -/

theorem violationsOfItems_eq_nil_iff {check : Value → List Violation} {i : Nat} {vs : List Value} :
    violationsOfItems check i vs = [] ↔ ∀ v ∈ vs, check v = [] := by
  induction vs generalizing i with
  | nil => simp [violationsOfItems]
  | cons v vs ih => simp [violationsOfItems, ih]

theorem violationsOfEntries_eq_nil_iff {check : Value → List Violation} {entries : Value.Entries} :
    violationsOfEntries check entries = [] ↔ ∀ e ∈ entries, check e.2 = [] := by
  induction entries with
  | nil => simp [violationsOfEntries]
  | cons e entries ih => simp [violationsOfEntries, ih]

theorem violationsOfChildren_eq_nil_iff {children : List (String × Contract)}
    {entries : Value.Entries} :
    violationsOfChildren children entries = [] ↔
      ∀ child ∈ children, ∀ v, Value.lookup (.name child.1) entries = some v →
        child.2.violations v = [] := by
  induction children with
  | nil => simp [violationsOfChildren]
  | cons child children ih =>
    obtain ⟨name, c⟩ := child
    rw [violationsOfChildren, List.append_eq_nil_iff, ih, List.forall_mem_cons]
    cases Value.lookup (.name name) entries <;> simp

theorem Rule.items_eq_nil_iff {c : Contract} {v : Value} :
    (Rule.items c).violations v = [] ↔
      ∀ items, v = .list items → ∀ w ∈ items, c.violations w = [] := by
  cases v <;> simp [Rule.violations, violationsOfItems_eq_nil_iff]

theorem Rule.everyField_eq_nil_iff {c : Contract} {v : Value} :
    (Rule.everyField c).violations v = [] ↔
      ∀ entries, v = .object entries → ∀ e ∈ entries, c.violations e.2 = [] := by
  cases v <;> simp [Rule.violations, violationsOfEntries_eq_nil_iff]

theorem Rule.fields_eq_nil_iff {children : List (String × Contract)} {v : Value} :
    (Rule.fields children).violations v = [] ↔
      ∀ entries, v = .object entries → ∀ child ∈ children, ∀ w,
        Value.lookup (.name child.1) entries = some w → child.2.violations w = [] := by
  cases v <;> simp [Rule.violations, violationsOfChildren_eq_nil_iff]

/-! ## Validation -/

theorem Contract.accepts_iff {c : Contract} {v : Value} :
    c.accepts v = true ↔ c.violations v = [] := by
  rw [Contract.accepts, List.isEmpty_iff]

/-- A record has no mismatches exactly when its contract accepts it. -/
theorem validate_eq_nil_iff {c : Contract} {record : Value} :
    validate c record = [] ↔ c.accepts record = true := by
  have hperm := List.mergeSort_perm ((c.violations record).map Violation.mismatch)
    Mismatch.comesBefore
  rw [Contract.accepts_iff, validate, ← List.map_eq_nil_iff (f := Violation.mismatch)]
  constructor
  · intro h
    rw [h] at hperm
    exact hperm.symm.eq_nil
  · intro h
    rw [h] at hperm ⊢
    exact hperm.eq_nil

theorem isEmpty_validate (c : Contract) (record : Value) :
    (validate c record).isEmpty = c.accepts record := by
  rw [Bool.eq_iff_iff, List.isEmpty_iff]
  exact validate_eq_nil_iff

/-- A record has no first mismatch exactly when its contract accepts it. -/
theorem firstMismatch_eq_none_iff {c : Contract} {record : Value} :
    firstMismatch c record = none ↔ c.accepts record = true := by
  rw [firstMismatch, List.head?_eq_none_iff, validate_eq_nil_iff]

end ExtractionSchema
