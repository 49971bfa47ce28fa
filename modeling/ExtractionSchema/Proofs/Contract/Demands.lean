import ExtractionSchema.Contract.Violation
import ExtractionSchema.Proofs.Value.Document
import ExtractionSchema.Proofs.Value.Entries

/-!
# What a contract demands

A rule that looks at a value as a whole demands something of this value, and a rule on parts demands
of the parts what their contracts do. What is demanded is told by the breach that it excludes, and
where it is demanded by the location of the value. The violations of a value are the demands that it
does not meet.

* `Value.at?` finds the value at a location, and `Breach.occursIn` says which values have a breach.
* `Contract.Demands` says what a contract demands of the value at a location.
* `Contract.mem_violations_iff`: a violation is told exactly when it is one.
-/

namespace ExtractionSchema

/-! ## Locations -/

/-- The part of a value to which a step goes. -/
def Value.part? : Value → Step → Option Value
  | .object entries, .name s => Value.lookup (.name s) entries
  | .list items, .index (.ofNat i) => items[i]?
  | _, _ => none

/-- The value at a location within a value. -/
def Value.at? : Value → List Step → Option Value
  | v, [] => some v
  | v, step :: steps => (v.part? step).bind fun w => w.at? steps

/-! ## Demands -/

/-- Whether a value has a breach. -/
def Breach.occursIn (v : Value) : Breach → Bool
  | .kind expected => !expected.any fun k => k.admits v
  | .notAllowed allowed => !allowed.any fun w => w.equals v
  | .missing name _ =>
    match v with
    | .object entries => !Value.has entries name
    | _ => false
  | .unexpected keys => !keys.isEmpty
  | .notADate =>
    match v with
    | .string s => !isDateText s
    | _ => false
  | .tooShort least =>
    match v with
    | .string s => !decide (least ≤ s.length)
    | _ => false
  | .tooLong most =>
    match v with
    | .string s => !decide (s.length ≤ most)
    | _ => false
  | .below least =>
    match v with
    | .number n => n.lt least
    | _ => false
  | .above most =>
    match v with
    | .number n => most.lt n
    | _ => false

/-- The violation is one of the value: its breach occurs at its location. -/
structure Violation.IsIn (v : Value) (x : Violation) : Prop where
  found : v.at? x.location = some x.actual
  occurs : x.breach.occursIn x.actual = true

/-- What a rule on values as a whole demands of a value. -/
def Rule.demandsOfWhole (w : Value) (b : Breach) : Rule → Prop
  | .kinds ks => b = .kind ks
  | .enum allowed => b = .notAllowed allowed
  | .required names => ∃ name ∈ names, b = .missing name names
  | .closed declared =>
    ∃ entries, w = .object entries ∧ b = .unexpected (undeclared declared entries)
  | .date => b = .notADate
  | .minLength n => b = .tooShort n
  | .maxLength n => b = .tooLong n
  | .minimum n => b = .below n
  | .maximum n => b = .above n
  | .fields _ | .everyField _ | .items _ => False

mutual

/-- A contract demands of the value at a location that it does not have a breach. -/
def Contract.Demands (w : Value) (b : Breach) : Contract → List Step → Prop
  | .rules rs, location => someDemands w b rs location

/-- One of some rules demands it. -/
def someDemands (w : Value) (b : Breach) : List Rule → List Step → Prop
  | [], _ => False
  | r :: rs, location => r.Demands w b location ∨ someDemands w b rs location

/-- A rule demands it. -/
def Rule.Demands (w : Value) (b : Breach) : Rule → List Step → Prop
  | .fields children, location => childrenDemand w b children location
  | .everyField c, location => ∃ name steps, location = .name name :: steps ∧ c.Demands w b steps
  | .items c, location => ∃ i steps, location = .item i :: steps ∧ c.Demands w b steps
  | r, location => location = [] ∧ r.demandsOfWhole w b

/-- One of the contracts of entries demands it. -/
def childrenDemand (w : Value) (b : Breach) : List (String × Contract) → List Step → Prop
  | [], _ => False
  | (name, c) :: rest, location =>
    (∃ steps, location = .name name :: steps ∧ c.Demands w b steps) ∨
      childrenDemand w b rest location

end

section Rules

variable {w : Value} {b : Breach} {location : List Step}

theorem rules_demands_iff {rs : List Rule} :
    (Contract.rules rs).Demands w b location ↔ ∃ r ∈ rs, r.Demands w b location := by
  rw [Contract.Demands]
  induction rs with
  | nil => simp [someDemands]
  | cons r rs ih => simp [someDemands, ih]

theorem fields_demands_iff {children : List (String × Contract)} :
    (Rule.fields children).Demands w b location ↔ ∃ child ∈ children, ∃ steps,
      location = .name child.1 :: steps ∧ child.2.Demands w b steps := by
  rw [Rule.Demands]
  induction children with
  | nil => simp [childrenDemand]
  | cons child children ih =>
    obtain ⟨name, c⟩ := child
    simp [childrenDemand, ih]

theorem kinds_demands_iff {ks : List Kind} :
    (Rule.kinds ks).Demands w b location ↔ location = [] ∧ b = .kind ks := by
  simp only [Rule.Demands, Rule.demandsOfWhole]

theorem enum_demands_iff {allowed : List Value} :
    (Rule.enum allowed).Demands w b location ↔ location = [] ∧ b = .notAllowed allowed := by
  simp only [Rule.Demands, Rule.demandsOfWhole]

theorem required_demands_iff {names : List String} :
    (Rule.required names).Demands w b location ↔
      location = [] ∧ ∃ name ∈ names, b = .missing name names := by
  simp only [Rule.Demands, Rule.demandsOfWhole]

theorem minimum_demands_iff {n : Number} :
    (Rule.minimum n).Demands w b location ↔ location = [] ∧ b = .below n := by
  simp only [Rule.Demands, Rule.demandsOfWhole]

theorem items_demands_iff {c : Contract} : (Rule.items c).Demands w b location ↔
    ∃ i steps, location = .item i :: steps ∧ c.Demands w b steps := by
  rw [Rule.Demands]

theorem everyField_demands_iff {c : Contract} : (Rule.everyField c).Demands w b location ↔
    ∃ name steps, location = .name name :: steps ∧ c.Demands w b steps := by
  rw [Rule.Demands]

end Rules

/-! ## Violations of rules on values as a whole -/

/-- A check of one breach tells it if it occurs. -/
theorem mem_violationUnless_iff {breach : Breach} {v : Value} {x : Violation} :
    x ∈ violationUnless (!breach.occursIn v) breach v ↔
      x.breach = breach ∧ x.location = [] ∧ x.IsIn v := by
  obtain ⟨location, b, actual⟩ := x
  constructor
  · intro hx
    cases hoccurs : breach.occursIn v with
    | false => simp [hoccurs, violationUnless] at hx
    | true =>
      simp only [hoccurs, violationUnless, Bool.not_true, Bool.false_eq_true, if_false,
        List.mem_singleton] at hx
      cases hx
      exact ⟨rfl, rfl, rfl, hoccurs⟩
  · rintro ⟨rfl, rfl, hfound, hoccurs⟩
    obtain rfl : v = actual := Option.some.inj hfound
    simp [violationUnless, show b.occursIn v = true from hoccurs]

theorem Rule.mem_required_iff {names : List String} {v : Value} {x : Violation} :
    x ∈ (Rule.required names).violationsOfWhole v ↔ (x.location = [] ∧
      (Rule.required names).demandsOfWhole x.actual x.breach) ∧ x.IsIn v := by
  obtain ⟨location, b, actual⟩ := x
  constructor
  · intro hx
    cases v with
    | object entries =>
      simp only [violationsOfWhole, List.mem_map, List.mem_filter] at hx
      obtain ⟨name, ⟨hname, hhas⟩, heq⟩ := hx
      cases heq
      exact ⟨⟨rfl, name, hname, rfl⟩, rfl, hhas⟩
    | _ => simp [violationsOfWhole] at hx
  · rintro ⟨⟨rfl, name, hname, rfl⟩, hfound, hoccurs⟩
    obtain rfl : v = actual := Option.some.inj hfound
    cases v with
    | object entries =>
      simp only [violationsOfWhole, List.mem_map, List.mem_filter]
      exact ⟨name, ⟨hname, hoccurs⟩, rfl⟩
    | _ => cases hoccurs

theorem Rule.mem_closed_iff {declared : List String} {v : Value} {x : Violation} :
    x ∈ (Rule.closed declared).violationsOfWhole v ↔ (x.location = [] ∧
      (Rule.closed declared).demandsOfWhole x.actual x.breach) ∧ x.IsIn v := by
  cases v with
  | object entries =>
    have hcheck : (Rule.closed declared).violationsOfWhole (.object entries) = violationUnless
        (!(Breach.unexpected (undeclared declared entries)).occursIn (.object entries))
          (.unexpected (undeclared declared entries)) (.object entries) := by
      simp [violationsOfWhole, Breach.occursIn]
    rw [hcheck, mem_violationUnless_iff]
    constructor
    · rintro ⟨hbreach, hlocation, hx⟩
      have hactual := hx.found
      rw [hlocation] at hactual
      exact ⟨⟨hlocation, entries, (Option.some.inj hactual).symm, hbreach⟩, hx⟩
    · rintro ⟨⟨hlocation, es, hes, hbreach⟩, hx⟩
      have hactual := hx.found
      rw [hlocation, hes] at hactual
      cases hactual
      exact ⟨hbreach, hlocation, hx⟩
  | _ =>
    simp only [violationsOfWhole, List.not_mem_nil, false_iff]
    rintro ⟨⟨hlocation, es, hes, -⟩, hx⟩
    have hactual := hx.found
    rw [hlocation, hes] at hactual
    cases hactual

/-- A rule on values as a whole tells what is a breach of its demand. -/
theorem Rule.mem_violationsOfWhole_iff {r : Rule} {v : Value} {x : Violation} :
    x ∈ r.violationsOfWhole v ↔
      (x.location = [] ∧ r.demandsOfWhole x.actual x.breach) ∧ x.IsIn v := by
  have hone : ∀ breach, r.violationsOfWhole v = violationUnless (!breach.occursIn v) breach v →
      (r.demandsOfWhole x.actual x.breach ↔ x.breach = breach) →
      (x ∈ r.violationsOfWhole v ↔
        (x.location = [] ∧ r.demandsOfWhole x.actual x.breach) ∧ x.IsIn v) := by
    intro breach heq hdemands
    rw [heq, mem_violationUnless_iff, hdemands]
    tauto
  have hnone : (∀ b, ¬ r.demandsOfWhole x.actual b) → r.violationsOfWhole v = [] →
      (x ∈ r.violationsOfWhole v ↔
        (x.location = [] ∧ r.demandsOfWhole x.actual x.breach) ∧ x.IsIn v) := by
    intro hnot heq
    simp [heq, hnot]
  cases r with
  | kinds ks => exact hone (.kind ks) (by simp [violationsOfWhole, Breach.occursIn]) Iff.rfl
  | enum allowed =>
    exact hone (.notAllowed allowed) (by simp [violationsOfWhole, Breach.occursIn]) Iff.rfl
  | date =>
    refine hone .notADate ?_ Iff.rfl
    cases v <;> simp [violationsOfWhole, Breach.occursIn, violationUnless]
  | minLength n =>
    refine hone (.tooShort n) ?_ Iff.rfl
    cases v <;> simp [violationsOfWhole, Breach.occursIn, violationUnless]
  | maxLength n =>
    refine hone (.tooLong n) ?_ Iff.rfl
    cases v <;> simp [violationsOfWhole, Breach.occursIn, violationUnless]
  | minimum n =>
    refine hone (.below n) ?_ Iff.rfl
    cases v <;> simp [violationsOfWhole, Breach.occursIn, violationUnless]
  | maximum n =>
    refine hone (.above n) ?_ Iff.rfl
    cases v <;> simp [violationsOfWhole, Breach.occursIn, violationUnless]
  | fields _ | everyField _ | items _ => exact hnone (fun _ => id) rfl
  | required names => exact mem_required_iff
  | closed declared => exact mem_closed_iff

/-! ## Violations of rules on parts -/

theorem Violation.isIn_cons_iff {v : Value} {step : Step} {steps : List Step} {breach : Breach}
    {actual : Value} : Violation.IsIn v ⟨step :: steps, breach, actual⟩ ↔
      ∃ w, v.part? step = some w ∧ Violation.IsIn w ⟨steps, breach, actual⟩ := by
  constructor
  · rintro ⟨hfound, hoccurs⟩
    obtain ⟨w, hw, hat⟩ := Option.bind_eq_some_iff.mp hfound
    exact ⟨w, hw, hat, hoccurs⟩
  · rintro ⟨w, hw, hat, hoccurs⟩
    exact ⟨Option.bind_eq_some_iff.mpr ⟨w, hw, hat⟩, hoccurs⟩

theorem Violation.exists_part {v : Value} {step : Step} {steps : List Step} {x : Violation}
    (hlocation : x.location = step :: steps) (hx : x.IsIn v) : ∃ w, v.part? step = some w := by
  obtain ⟨location, breach, actual⟩ := x
  obtain rfl : location = step :: steps := hlocation
  obtain ⟨w, hw, -⟩ := isIn_cons_iff.mp hx
  exact ⟨w, hw⟩

/-- Nothing is told of a part that is not there. -/
theorem Violation.not_isIn_of_part {v : Value} (step : Step) (hpart : v.part? step = none)
    {x : Violation} : ¬ ((∃ steps, x.location = step :: steps) ∧ x.IsIn v) := by
  rintro ⟨⟨steps, hlocation⟩, hin⟩
  obtain ⟨w, hw⟩ := exists_part hlocation hin
  rw [hpart] at hw
  cases hw

theorem exists_of_childrenDemand {w : Value} {b : Breach} {children : List (String × Contract)}
    {location : List Step} (h : childrenDemand w b children location) :
    ∃ name steps, location = .name name :: steps := by
  induction children with
  | nil => cases h
  | cons child children ih =>
    obtain ⟨name, c⟩ := child
    rw [childrenDemand] at h
    rcases h with ⟨steps, hlocation, -⟩ | h
    · exact ⟨name, steps, hlocation⟩
    · exact ih h

theorem mem_map_under_iff {step : Step} {xs : List Violation} {x : Violation} :
    x ∈ xs.map (Violation.under step) ↔
      ∃ steps, x.location = step :: steps ∧ ⟨steps, x.breach, x.actual⟩ ∈ xs := by
  obtain ⟨location, breach, actual⟩ := x
  constructor
  · intro hx
    obtain ⟨y, hy, heq⟩ := List.mem_map.mp hx
    cases heq
    exact ⟨y.location, rfl, hy⟩
  · rintro ⟨steps, rfl, hx⟩
    exact List.mem_map.mpr ⟨_, hx, rfl⟩

/-- The violations of a check on the part that a step goes to. -/
theorem mem_part_iff {check : Value → List Violation} {demands : List Step → Prop}
    {v w : Value} {step : Step} (hpart : v.part? step = some w) {x : Violation}
    (hcheck : ∀ steps, ⟨steps, x.breach, x.actual⟩ ∈ check w ↔
      demands steps ∧ Violation.IsIn w ⟨steps, x.breach, x.actual⟩) :
    x ∈ (check w).map (Violation.under step) ↔
      (∃ steps, x.location = step :: steps ∧ demands steps) ∧ x.IsIn v := by
  obtain ⟨location, breach, actual⟩ := x
  rw [mem_map_under_iff]
  constructor
  · rintro ⟨steps, rfl, hx⟩
    obtain ⟨hdemands, hin⟩ := (hcheck steps).mp hx
    exact ⟨⟨steps, rfl, hdemands⟩, Violation.isIn_cons_iff.mpr ⟨w, hpart, hin⟩⟩
  · rintro ⟨⟨steps, rfl, hdemands⟩, hin⟩
    obtain ⟨u, hu, hin⟩ := Violation.isIn_cons_iff.mp hin
    rw [hpart] at hu
    cases hu
    exact ⟨steps, rfl, (hcheck steps).mpr ⟨hdemands, hin⟩⟩

theorem mem_violationsOfItems_iff {check : Value → List Violation} {vs : List Value} {i : Nat}
    {x : Violation} : x ∈ violationsOfItems check i vs ↔
      ∃ j v, vs[j]? = some v ∧ x ∈ (check v).map (Violation.under (.item (i + j))) := by
  induction vs generalizing i with
  | nil => simp [violationsOfItems]
  | cons v vs ih =>
    rw [violationsOfItems, List.mem_append, ih]
    constructor
    · rintro (hx | ⟨j, w, hw, hx⟩)
      · exact ⟨0, v, rfl, hx⟩
      · refine ⟨j + 1, w, by simpa using hw, ?_⟩
        have hindex : i + (j + 1) = i + 1 + j := by omega
        rwa [hindex]
    · rintro ⟨j, w, hw, hx⟩
      cases j with
      | zero =>
        obtain rfl : v = w := by simpa using hw
        exact .inl hx
      | succ j =>
        refine .inr ⟨j, w, by simpa using hw, ?_⟩
        have hindex : i + 1 + j = i + (j + 1) := by omega
        rwa [hindex]

theorem mem_violationsOfEntries_iff {check : Value → List Violation} {entries : Value.Entries}
    {x : Violation} : x ∈ violationsOfEntries check entries ↔
      ∃ e ∈ entries, x ∈ (check e.2).map (Violation.under (.ofKey e.1)) := by
  induction entries with
  | nil => simp [violationsOfEntries]
  | cons e entries ih => simp [violationsOfEntries, ih]

/-- The violations of the entries of an object, if those of each value are told by its demands. -/
theorem mem_entries_iff {check : Value → List Violation} {demands : List Step → Prop}
    {entries : Value.Entries} (hd : (Value.object entries).isDocument = true) {x : Violation}
    (hcheck : ∀ w, w.isDocument = true → ∀ steps, ⟨steps, x.breach, x.actual⟩ ∈ check w ↔
      demands steps ∧ Violation.IsIn w ⟨steps, x.breach, x.actual⟩) :
    x ∈ violationsOfEntries check entries ↔
      (∃ name steps, x.location = .name name :: steps ∧ demands steps) ∧
        x.IsIn (.object entries) := by
  obtain ⟨hkeys, hentries⟩ := Value.isDocument_object.mp hd
  have hpart : ∀ name w, (Key.name name, w) ∈ entries →
      (x ∈ (check w).map (Violation.under (.name name)) ↔
        (∃ steps, x.location = .name name :: steps ∧ demands steps) ∧
          x.IsIn (.object entries)) := by
    intro name w hmem
    have hfound : (Value.object entries).part? (.name name) = some w :=
      Value.lookup_of_mem hkeys hmem
    exact mem_part_iff hfound (hcheck w (hentries _ hmem).2)
  rw [mem_violationsOfEntries_iff]
  constructor
  · rintro ⟨⟨k, w⟩, hmem, hx⟩
    obtain ⟨⟨name, rfl⟩, -⟩ := hentries _ hmem
    obtain ⟨⟨steps, hlocation, hdemands⟩, hin⟩ := (hpart name w hmem).mp hx
    exact ⟨⟨name, steps, hlocation, hdemands⟩, hin⟩
  · rintro ⟨⟨name, steps, hlocation, hdemands⟩, hin⟩
    obtain ⟨w, hw⟩ := Violation.exists_part hlocation hin
    have hmem := Value.mem_of_lookup hw
    exact ⟨_, hmem, (hpart name w hmem).mpr ⟨⟨steps, hlocation, hdemands⟩, hin⟩⟩

/-- The violations of the items of a list, if those of each are told by its demands. -/
theorem mem_items_iff {check : Value → List Violation} {demands : List Step → Prop}
    {vs : List Value} (hd : (Value.list vs).isDocument = true) {x : Violation}
    (hcheck : ∀ w, w.isDocument = true → ∀ steps, ⟨steps, x.breach, x.actual⟩ ∈ check w ↔
      demands steps ∧ Violation.IsIn w ⟨steps, x.breach, x.actual⟩) :
    x ∈ violationsOfItems check 0 vs ↔
      (∃ i steps, x.location = .item i :: steps ∧ demands steps) ∧ x.IsIn (.list vs) := by
  have hdocuments := Value.isDocument_list.mp hd
  have hpart : ∀ i w, vs[i]? = some w →
      (x ∈ (check w).map (Violation.under (.item i)) ↔
        (∃ steps, x.location = .item i :: steps ∧ demands steps) ∧ x.IsIn (.list vs)) := by
    intro i w hitem
    have hfound : (Value.list vs).part? (.item i) = some w := hitem
    exact mem_part_iff hfound (hcheck w (hdocuments w (List.mem_of_getElem? hitem)))
  rw [mem_violationsOfItems_iff]
  simp only [Nat.zero_add]
  constructor
  · rintro ⟨i, w, hitem, hx⟩
    obtain ⟨⟨steps, hlocation, hdemands⟩, hin⟩ := (hpart i w hitem).mp hx
    exact ⟨⟨i, steps, hlocation, hdemands⟩, hin⟩
  · rintro ⟨⟨i, steps, hlocation, hdemands⟩, hin⟩
    obtain ⟨w, hw⟩ := Violation.exists_part hlocation hin
    exact ⟨i, w, hw, (hpart i w hw).mpr ⟨⟨steps, hlocation, hdemands⟩, hin⟩⟩

mutual

/-- The violations of a value are the breaches in it of what its contract demands. -/
theorem Contract.mem_violations_iff : (c : Contract) → (v : Value) → v.isDocument = true →
    (x : Violation) → (x ∈ c.violations v ↔ c.Demands x.actual x.breach x.location ∧ x.IsIn v)
  | .rules rs, v, hv, x => mem_violationsOfRules_iff rs v hv x

theorem mem_violationsOfRules_iff : (rs : List Rule) → (v : Value) → v.isDocument = true →
    (x : Violation) →
      (x ∈ violationsOfRules rs v ↔ someDemands x.actual x.breach rs x.location ∧ x.IsIn v)
  | [], v, _, x => by simp [violationsOfRules, someDemands]
  | r :: rs, v, hv, x => by
    rw [violationsOfRules, List.mem_append, Rule.mem_violations_iff r v hv x,
      mem_violationsOfRules_iff rs v hv x, someDemands, or_and_right]

theorem Rule.mem_violations_iff : (r : Rule) → (v : Value) → v.isDocument = true →
    (x : Violation) → (x ∈ r.violations v ↔ r.Demands x.actual x.breach x.location ∧ x.IsIn v)
  | .fields children, v, hv, x => by
    rw [Rule.Demands]
    cases v with
    | object entries =>
      rw [Rule.violations]
      exact mem_violationsOfChildren_iff children entries hv x
    | _ =>
      simp only [Rule.violations, List.not_mem_nil, false_iff]
      rintro ⟨hdemand, hin⟩
      obtain ⟨name, steps, hlocation⟩ := exists_of_childrenDemand hdemand
      exact Violation.not_isIn_of_part (.name name) rfl ⟨⟨steps, hlocation⟩, hin⟩
  | .everyField c, v, hv, x => by
    rw [Rule.Demands]
    cases v with
    | object entries =>
      rw [Rule.violations]
      exact mem_entries_iff hv fun w hw _ => Contract.mem_violations_iff c w hw _
    | _ =>
      simp only [Rule.violations, List.not_mem_nil, false_iff]
      rintro ⟨⟨name, steps, hlocation, -⟩, hin⟩
      exact Violation.not_isIn_of_part (.name name) rfl ⟨⟨steps, hlocation⟩, hin⟩
  | .items c, v, hv, x => by
    rw [Rule.Demands]
    cases v with
    | list vs =>
      rw [Rule.violations]
      exact mem_items_iff hv fun w hw _ => Contract.mem_violations_iff c w hw _
    | _ =>
      simp only [Rule.violations, List.not_mem_nil, false_iff]
      rintro ⟨⟨i, steps, hlocation, -⟩, hin⟩
      exact Violation.not_isIn_of_part (.item i) rfl ⟨⟨steps, hlocation⟩, hin⟩
  | .kinds _, v, hv, x | .enum _, v, hv, x | .required _, v, hv, x | .closed _, v, hv, x
  | .date, v, hv, x | .minLength _, v, hv, x | .maxLength _, v, hv, x | .minimum _, v, hv, x
  | .maximum _, v, hv, x => by
    simpa only [Rule.violations, Rule.Demands] using Rule.mem_violationsOfWhole_iff

theorem mem_violationsOfChildren_iff : (children : List (String × Contract)) →
    (entries : Value.Entries) → (Value.object entries).isDocument = true → (x : Violation) →
      (x ∈ violationsOfChildren children entries ↔
        childrenDemand x.actual x.breach children x.location ∧ x.IsIn (.object entries))
  | [], _, _, x => by simp [violationsOfChildren, childrenDemand]
  | (name, c) :: rest, entries, hv, x => by
    rw [violationsOfChildren, List.mem_append, mem_violationsOfChildren_iff rest entries hv x,
      childrenDemand, or_and_right]
    refine or_congr_left ?_
    have hpart : (Value.object entries).part? (.name name) = Value.lookup (.name name) entries :=
      rfl
    cases hlookup : Value.lookup (.name name) entries with
    | none =>
      simp only [List.not_mem_nil, false_iff]
      rintro ⟨⟨steps, hlocation, -⟩, hin⟩
      exact Violation.not_isIn_of_part _ (hpart.trans hlookup) ⟨⟨steps, hlocation⟩, hin⟩
    | some w =>
      have hw := Value.isDocument_of_lookup hv hlookup
      exact mem_part_iff (hpart.trans hlookup) fun steps => Contract.mem_violations_iff c w hw _

end

end ExtractionSchema
