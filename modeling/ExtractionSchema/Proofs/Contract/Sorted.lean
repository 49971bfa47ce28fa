import ExtractionSchema.Proofs.Contract.Demands
import ExtractionSchema.Proofs.Location
import ExtractionSchema.Proofs.StableSort
import ExtractionSchema.Contract.Author
import Mathlib.Data.List.Sort

/-!
# The order of what is told

What is told about a definition is sorted by locations, text by text, and what is told about one
location stays in the order in which it was found. There one breach is found at most once, and
before those of a higher rank. So a list that is sorted like this is the only one of its members.

* `Demand.Precedes` is the order of what is told.
* `Demand.eq_of_pairwise_precedes`: there is one arrangement only.
-/

namespace ExtractionSchema

/-! ## Texts, one by one -/

theorem textsLe_total (ss ts : List String) : (textsLe ss ts || textsLe ts ss) = true := by
  induction ss generalizing ts with
  | nil => rfl
  | cons s ss ih =>
    cases ts with
    | nil => rfl
    | cons t ts =>
      by_cases h : s = t
      · simpa [textsLe, h] using ih ts
      · have hlt : s < t ∨ t < s := by
          by_contra hnot
          simp only [not_or, String.not_lt] at hnot
          exact h (String.le_antisymm hnot.2 hnot.1)
        simpa [textsLe, h, Ne.symm h] using hlt

theorem textsLe_refl (ss : List String) : textsLe ss ss = true := by
  simpa using textsLe_total ss ss

theorem textsLe_trans {ss ts us : List String} (hst : textsLe ss ts = true)
    (htu : textsLe ts us = true) : textsLe ss us = true := by
  induction ss generalizing ts us with
  | nil => rfl
  | cons s ss ih =>
    cases ts with
    | nil => cases hst
    | cons t ts =>
      cases us with
      | nil => cases htu
      | cons u us =>
        by_cases h : s = t
        · subst h
          by_cases h' : s = u
          · subst h'
            simp only [textsLe, if_true] at hst htu ⊢
            exact ih hst htu
          · simpa [textsLe, h'] using htu
        · by_cases h' : t = u
          · subst h'
            simpa [textsLe, h] using hst
          · simp only [textsLe, h, h', if_false, decide_eq_true_eq] at hst htu
            have hlt : s < u := String.lt_trans hst htu
            have hne : s ≠ u := by
              rintro rfl
              exact String.lt_irrefl s hlt
            simpa [textsLe, hne] using hlt

theorem textsLe_antisymm {ss ts : List String} (hst : textsLe ss ts = true)
    (hts : textsLe ts ss = true) : ss = ts := by
  induction ss generalizing ts with
  | nil =>
    cases ts with
    | nil => rfl
    | cons t ts => cases hts
  | cons s ss ih =>
    cases ts with
    | nil => cases hst
    | cons t ts =>
      by_cases h : s = t
      · subst h
        simp only [textsLe, if_true] at hst hts
        rw [ih hst hts]
      · simp only [textsLe, h, Ne.symm h, if_false, decide_eq_true_eq] at hst hts
        exact absurd hts (String.lt_asymm hst)

/-! ## The order of demands -/

/-- What is demanded at a location: that a breach does not occur there. -/
structure Demand where
  location : List Step
  breach : Breach
deriving DecidableEq

/-- The place of a breach among those of one location. -/
def Breach.rank : Breach → Nat
  | .below _ => 1
  | .missing name required => 2 + required.idxOf name
  | _ => 0

namespace Demand

/-- The parts of a location as texts. -/
def texts (m : Demand) : List String := m.location.map Step.text

/-- What is told first: what comes first by the parts of its location, and at one location the
breach of the lower rank. -/
structure Precedes (m n : Demand) : Prop where
  le : textsLe m.texts n.texts = true
  rank : m.texts = n.texts → m.breach.rank < n.breach.rank

/-- Sorted demands are all there is to say about which they are: there is one arrangement only. -/
theorem eq_of_pairwise_precedes {ms ns : List Demand} (hmem : ∀ m, m ∈ ms ↔ m ∈ ns)
    (hms : ms.Pairwise Precedes) (hns : ns.Pairwise Precedes) : ms = ns := by
  have hnodup : ∀ {l : List Demand}, l.Pairwise Precedes → l.Nodup := by
    intro l hl
    refine hl.imp fun {m n} hmn heq => ?_
    subst heq
    exact Nat.lt_irrefl _ (hmn.rank rfl)
  have hperm := (List.perm_ext_iff_of_nodup (hnodup hms) (hnodup hns)).mpr hmem
  refine hperm.eq_of_pairwise (fun m n _ _ hmn hnm => ?_) hms hns
  have htexts := textsLe_antisymm hmn.le hnm.le
  exact absurd (hmn.rank htexts) (Nat.lt_asymm (hnm.rank htexts.symm))

end Demand

/-! ## Breaches at one location -/

namespace Violation

/-- The demand that is not met. -/
def demand (x : Violation) : Demand := ⟨x.location, x.breach⟩

/-- At one location, the first violation has the lower rank. -/
def KeepsRank (x y : Violation) : Prop :=
  x.demand.texts = y.demand.texts → x.breach.rank < y.breach.rank

theorem texts_under (step : Step) (x : Violation) :
    (x.under step).demand.texts = step.text :: x.demand.texts := rfl

end Violation

open Violation

/-- What is told of a part keeps the order that it has there. -/
theorem pairwise_map_under {step : Step} {xs : List Violation} (h : xs.Pairwise KeepsRank) :
    (xs.map (Violation.under step)).Pairwise KeepsRank := by
  rw [List.pairwise_map]
  refine h.imp fun {x y} hxy htexts => ?_
  rw [texts_under, texts_under] at htexts
  exact hxy (List.cons.inj htexts).2

/-- What is told of parts of different texts is told apart. -/
theorem keepsRank_of_parts {step step' : Step} (hne : step.text ≠ step'.text)
    {xs ys : List Violation} : ∀ x ∈ xs.map (Violation.under step),
      ∀ y ∈ ys.map (Violation.under step'), KeepsRank x y := by
  intro x hx y hy htexts
  obtain ⟨x, -, rfl⟩ := List.mem_map.mp hx
  obtain ⟨y, -, rfl⟩ := List.mem_map.mp hy
  rw [texts_under, texts_under] at htexts
  exact absurd (List.cons.inj htexts).1 hne

section Parts

variable {check : Value → List Violation}

theorem pairwise_violationsOfItems (i : Nat) {vs : List Value}
    (hcheck : ∀ v ∈ vs, (check v).Pairwise KeepsRank) :
    (violationsOfItems check i vs).Pairwise KeepsRank := by
  induction vs generalizing i with
  | nil => exact .nil
  | cons v vs ih =>
    rw [List.forall_mem_cons] at hcheck
    rw [violationsOfItems, List.pairwise_append]
    refine ⟨pairwise_map_under hcheck.1, ih (i + 1) hcheck.2, fun x hx y hy => ?_⟩
    obtain ⟨j, w, -, hy⟩ := mem_violationsOfItems_iff.mp hy
    refine keepsRank_of_parts (fun htext => ?_) x hx y hy
    have hindex := Step.text_item_inj htext
    omega

theorem pairwise_violationsOfEntries {es : Value.Entries} (hkeys : (es.map Prod.fst).Nodup)
    (hnames : ∀ e ∈ es, ∃ s, e.1 = .name s) (hcheck : ∀ e ∈ es, (check e.2).Pairwise KeepsRank) :
    (violationsOfEntries check es).Pairwise KeepsRank := by
  induction es with
  | nil => exact .nil
  | cons e es ih =>
    rw [List.map_cons, List.nodup_cons] at hkeys
    rw [List.forall_mem_cons] at hnames hcheck
    obtain ⟨⟨s, hs⟩, hrest⟩ := hnames
    rw [violationsOfEntries, List.pairwise_append]
    refine ⟨pairwise_map_under hcheck.1, ih hkeys.2 hrest hcheck.2, fun x hx y hy => ?_⟩
    obtain ⟨f, hf, hy⟩ := mem_violationsOfEntries_iff.mp hy
    obtain ⟨s', hs'⟩ := hrest f hf
    refine keepsRank_of_parts ?_ x hx y hy
    rw [hs, hs']
    rintro (rfl : s = s')
    exact hkeys.1 (List.mem_map.mpr ⟨f, hf, hs'.trans hs.symm⟩)

end Parts

theorem exists_of_mem_violationsOfChildren {children : List (String × Contract)}
    {entries : Value.Entries} {x : Violation} (hx : x ∈ violationsOfChildren children entries) :
    ∃ child ∈ children, ∃ w : Value, x ∈ (child.2.violations w).map (under (.name child.1)) := by
  induction children with
  | nil => simp [violationsOfChildren] at hx
  | cons child children ih =>
    obtain ⟨name, c⟩ := child
    rw [violationsOfChildren, List.mem_append] at hx
    rcases hx with hx | hx
    · cases hlookup : Value.lookup (.name name) entries with
      | none => simp [hlookup] at hx
      | some w =>
        rw [hlookup] at hx
        exact ⟨_, List.mem_cons_self, w, hx⟩
    · obtain ⟨child, hchild, w, hw⟩ := ih hx
      exact ⟨child, List.mem_cons_of_mem _ hchild, w, hw⟩

/-! ## Contracts whose breaches are told apart -/

/-- The least rank of a breach of a rule. -/
def Rule.rank : Rule → Nat
  | .minimum _ => 1
  | .required _ => 2
  | _ => 0

/-- Whether a rule is on the parts of a value. -/
def Rule.isOnParts : Rule → Bool
  | .fields _ | .everyField _ | .items _ => true
  | _ => false

/-- Whether the breaches of a rule are told apart from those of a rule after it: one is on parts and
the other is not, or the ranks of the first are lower. -/
def Rule.isBefore (r s : Rule) : Bool :=
  (r.isOnParts != s.isOnParts) || (!r.isOnParts && decide (r.rank < s.rank))

mutual

/-- Whether no two breaches of a contract have the same location and the same rank. -/
def Contract.isRanked : Contract → Bool
  | .rules rs => areRanked rs

/-- Whether rules are like that. -/
def areRanked : List Rule → Bool
  | [] => true
  | r :: rs => r.isRanked && rs.all r.isBefore && areRanked rs

/-- Whether a rule is like that. -/
def Rule.isRanked : Rule → Bool
  | .fields children => decide (children.map Prod.fst).Nodup && childrenAreRanked children
  | .everyField c | .items c => c.isRanked
  | .required names => decide names.Nodup
  | _ => true

/-- Whether the contracts of entries are like that. -/
def childrenAreRanked : List (String × Contract) → Bool
  | [] => true
  | (_, c) :: rest => c.isRanked && childrenAreRanked rest

end

section Rules

variable {v : Value} {x y : Violation}

theorem pairwise_violationUnless {holds : Bool} {breach : Breach} :
    (violationUnless holds breach v).Pairwise KeepsRank := by
  cases holds <;> simp [violationUnless]

/-- What a rule on values as a whole finds keeps its rank. -/
theorem Rule.pairwise_violationsOfWhole {r : Rule} (hr : r.isRanked = true) :
    (r.violationsOfWhole v).Pairwise KeepsRank := by
  cases r with
  | required names =>
    have hnames : names.Nodup := by simpa [isRanked] using hr
    cases v with
    | object entries =>
      rw [violationsOfWhole, List.pairwise_map]
      apply List.Pairwise.filter
      rw [List.pairwise_iff_getElem]
      intro i j hi hj hij htexts
      simp only [Breach.rank, hnames.idxOf_getElem]
      omega
    | _ => exact .nil
  | kinds _ | enum _ => exact pairwise_violationUnless
  | closed _ | date | minLength _ | maxLength _ | minimum _ | maximum _ =>
    cases v <;> first | exact .nil | exact pairwise_violationUnless
  | fields _ | everyField _ | items _ => exact .nil

/-- A rule on values as a whole finds violations at the value, of its rank or, if it asks for
entries, of no lower one. -/
theorem Rule.rank_of_mem_violationsOfWhole {r : Rule} (hx : x ∈ r.violationsOfWhole v) :
    x.location = [] ∧ r.rank ≤ x.breach.rank ∧ (r.rank < 2 → x.breach.rank = r.rank) := by
  obtain ⟨⟨hlocation, hdemands⟩, -⟩ := mem_violationsOfWhole_iff.mp hx
  refine ⟨hlocation, ?_⟩
  cases r with
  | required names =>
    obtain ⟨name, -, hbreach⟩ := hdemands
    simp [hbreach, Rule.rank, Breach.rank]
  | closed declared =>
    obtain ⟨_, -, hbreach⟩ := hdemands
    simp [hbreach, Rule.rank, Breach.rank]
  | fields _ | everyField _ | items _ => exact absurd hdemands id
  | _ =>
    simp only [demandsOfWhole] at hdemands
    simp [hdemands, Rule.rank, Breach.rank]

/-- A rule on parts demands nothing of the value itself. -/
theorem Rule.location_of_demands {r : Rule} {w : Value} {b : Breach} {location : List Step}
    (hr : r.isOnParts = true) (h : r.Demands w b location) : location ≠ [] := by
  cases r with
  | fields children =>
    rw [Rule.Demands] at h
    obtain ⟨name, steps, rfl⟩ := exists_of_childrenDemand h
    exact List.cons_ne_nil _ _
  | everyField c | items c =>
    rw [Rule.Demands] at h
    obtain ⟨_, steps, rfl, -⟩ := h
    exact List.cons_ne_nil _ _
  | _ => cases hr

theorem Rule.location_of_mem_violations {r : Rule} (hr : r.isOnParts = true)
    (hv : v.isDocument = true) (hx : x ∈ r.violations v) : x.location ≠ [] :=
  location_of_demands hr ((r.mem_violations_iff v hv x).mp hx).1

theorem Rule.violations_of_not_isOnParts {r : Rule} (hr : r.isOnParts = false) :
    r.violations v = r.violationsOfWhole v := by
  cases r with
  | fields _ | everyField _ | items _ => cases hr
  | _ => simp only [Rule.violations]

/-- What is found at different places is told apart. -/
theorem keepsRank_of_location (h : x.location = [] ↔ y.location ≠ []) : KeepsRank x y := by
  intro htexts
  have hlength : x.location.length = y.location.length := by
    simpa [demand, Demand.texts] using congrArg List.length htexts
  simp only [← List.length_eq_zero_iff, ne_eq] at h
  omega

/-- What a rule finds keeps its rank before what a rule after it finds. -/
theorem Rule.keepsRank_of_isBefore {r s : Rule} (hv : v.isDocument = true)
    (h : r.isBefore s = true) (hx : x ∈ r.violations v) (hy : y ∈ s.violations v) :
    KeepsRank x y := by
  cases hr : r.isOnParts with
  | true =>
    have hs : s.isOnParts = false := by simpa [isBefore, hr] using h
    have hxlocation := location_of_mem_violations hr hv hx
    rw [violations_of_not_isOnParts hs] at hy
    have hylocation := (rank_of_mem_violationsOfWhole hy).1
    exact keepsRank_of_location (by simp [hxlocation, hylocation])
  | false =>
    rw [violations_of_not_isOnParts hr] at hx
    obtain ⟨hxlocation, -, hxrank⟩ := rank_of_mem_violationsOfWhole hx
    cases hs : s.isOnParts with
    | true =>
      have hylocation := location_of_mem_violations hs hv hy
      exact keepsRank_of_location (by simp [hxlocation, hylocation])
    | false =>
      have hrank : r.rank < s.rank := by simpa [isBefore, hr, hs] using h
      rw [violations_of_not_isOnParts hs] at hy
      obtain ⟨-, hyrank, -⟩ := rank_of_mem_violationsOfWhole hy
      have htop : s.rank ≤ 2 := by cases s <;> simp [Rule.rank]
      intro _
      have hxrank := hxrank (by omega)
      omega

end Rules

theorem exists_of_mem_violationsOfRules {rs : List Rule} {v : Value} {x : Violation}
    (hx : x ∈ violationsOfRules rs v) : ∃ r ∈ rs, x ∈ r.violations v := by
  induction rs with
  | nil => cases hx
  | cons r rs ih =>
    rw [violationsOfRules, List.mem_append] at hx
    rcases hx with hx | hx
    · exact ⟨r, List.mem_cons_self, hx⟩
    · obtain ⟨s, hs, hx⟩ := ih hx
      exact ⟨s, List.mem_cons_of_mem _ hs, hx⟩

mutual

/-- The violations of a ranked contract keep their ranks. -/
theorem Contract.pairwise_violations : (c : Contract) → c.isRanked = true → (v : Value) →
    v.isDocument = true → (c.violations v).Pairwise KeepsRank
  | .rules rs, hc, v, hv => pairwise_violationsOfRules rs hc v hv

theorem pairwise_violationsOfRules : (rs : List Rule) → areRanked rs = true → (v : Value) →
    v.isDocument = true → (violationsOfRules rs v).Pairwise KeepsRank
  | [], _, _, _ => .nil
  | r :: rs, hrs, v, hv => by
    rw [areRanked, Bool.and_eq_true, Bool.and_eq_true, List.all_eq_true] at hrs
    obtain ⟨⟨hr, hbefore⟩, hrest⟩ := hrs
    rw [violationsOfRules, List.pairwise_append]
    refine ⟨Rule.pairwise_violations r hr v hv, pairwise_violationsOfRules rs hrest v hv, ?_⟩
    intro x hx y hy
    obtain ⟨s, hs, hy⟩ := exists_of_mem_violationsOfRules hy
    exact Rule.keepsRank_of_isBefore hv (hbefore s hs) hx hy

theorem Rule.pairwise_violations : (r : Rule) → r.isRanked = true → (v : Value) →
    v.isDocument = true → (r.violations v).Pairwise KeepsRank
  | .fields children, hr, v, hv => by
    rw [Rule.isRanked, Bool.and_eq_true, decide_eq_true_eq] at hr
    cases v with
    | object entries =>
      rw [Rule.violations]
      exact pairwise_violationsOfChildren children hr.1 hr.2 entries hv
    | _ => exact .nil
  | .everyField c, hr, v, hv => by
    rw [Rule.isRanked] at hr
    cases v with
    | object entries =>
      obtain ⟨hkeys, hentries⟩ := Value.isDocument_object.mp hv
      rw [Rule.violations]
      exact pairwise_violationsOfEntries hkeys (fun e he => (hentries e he).1) fun e he =>
        Contract.pairwise_violations c hr e.2 (hentries e he).2
    | _ => exact .nil
  | .items c, hr, v, hv => by
    rw [Rule.isRanked] at hr
    cases v with
    | list vs =>
      have hdocuments := Value.isDocument_list.mp hv
      rw [Rule.violations]
      exact pairwise_violationsOfItems 0 fun w hw =>
        Contract.pairwise_violations c hr w (hdocuments w hw)
    | _ => exact .nil
  | .kinds _, hr, v, _ | .enum _, hr, v, _ | .required _, hr, v, _ | .closed _, hr, v, _
  | .date, hr, v, _ | .minLength _, hr, v, _ | .maxLength _, hr, v, _ | .minimum _, hr, v, _
  | .maximum _, hr, v, _ => by
    rw [Rule.violations_of_not_isOnParts rfl]
    exact Rule.pairwise_violationsOfWhole hr

theorem pairwise_violationsOfChildren : (children : List (String × Contract)) →
    (children.map Prod.fst).Nodup → childrenAreRanked children = true →
      (entries : Value.Entries) → (Value.object entries).isDocument = true →
        (violationsOfChildren children entries).Pairwise KeepsRank
  | [], _, _, _, _ => .nil
  | (name, c) :: rest, hnames, hranked, entries, hv => by
    rw [List.map_cons, List.nodup_cons] at hnames
    rw [childrenAreRanked, Bool.and_eq_true] at hranked
    have hrest := pairwise_violationsOfChildren rest hnames.2 hranked.2 entries hv
    rw [violationsOfChildren]
    cases hlookup : Value.lookup (.name name) entries with
    | none => exact hrest
    | some w =>
      have hw := Value.isDocument_of_lookup hv hlookup
      rw [List.pairwise_append]
      refine ⟨pairwise_map_under (Contract.pairwise_violations c hranked.1 w hw), hrest, ?_⟩
      intro x hx y hy
      obtain ⟨other, hother, u, hy⟩ := exists_of_mem_violationsOfChildren hy
      refine keepsRank_of_parts ?_ x hx y hy
      rintro (rfl : name = other.1)
      exact hnames.1 (List.mem_map.mpr ⟨other, hother, rfl⟩)

end

/-! ## Issues -/

namespace Demand

/-- The breach occurs at its location within the value. -/
def IsUnmet (d : Value) (m : Demand) : Prop :=
  ∃ w, d.at? m.location = some w ∧ m.breach.occursIn w = true

/-- The violation that the demand is where it is not met. -/
def violation (d : Value) (m : Demand) : Violation :=
  ⟨m.location, m.breach, (d.at? m.location).getD .null⟩

/-- Some demands are those that a value does not meet, in their order. -/
structure AreUnmet (demanded : Demand → Prop) (d : Value) (ms : List Demand) : Prop where
  mem_iff : ∀ m, m ∈ ms ↔ demanded m ∧ m.IsUnmet d
  ordered : ms.Pairwise Precedes

end Demand

theorem Violation.IsIn.violation_demand {d : Value} {x : Violation} (hx : x.IsIn d) :
    x.demand.violation d = x := by
  obtain ⟨location, breach, actual⟩ := x
  have hfound : d.at? location = some actual := hx.found
  simp [Demand.violation, demand, hfound]

section Issues

variable {c : Contract} {demanded : Demand → Prop} {d : Value}

theorem exists_violation_iff
    (hdemands : ∀ w b location, c.Demands w b location ↔ demanded ⟨location, b⟩)
    (hd : d.isDocument = true) {m : Demand} :
    (∃ x ∈ c.violations d, x.demand = m) ↔ demanded m ∧ m.IsUnmet d := by
  constructor
  · rintro ⟨x, hx, rfl⟩
    obtain ⟨hdemand, hin⟩ := (c.mem_violations_iff d hd x).mp hx
    exact ⟨(hdemands _ _ _).mp hdemand, x.actual, hin.found, hin.occurs⟩
  · rintro ⟨hdemand, w, hfound, hoccurs⟩
    exact ⟨⟨m.location, m.breach, w⟩,
      (c.mem_violations_iff d hd _).mpr ⟨(hdemands _ _ _).mpr hdemand, hfound, hoccurs⟩, rfl⟩

/-- The violations in the order in which they are told. -/
def Contract.sortedViolations (c : Contract) (d : Value) : List Violation :=
  (c.violations d).mergeSort fun x y => textsLe x.demand.texts y.demand.texts

theorem mem_sortedViolations_iff {x : Violation} :
    x ∈ c.sortedViolations d ↔ x ∈ c.violations d := List.mem_mergeSort

/-- The demands that a ranked contract tells are in their order. -/
theorem pairwise_sortedViolations (hc : c.isRanked = true) (hd : d.isDocument = true) :
    ((c.sortedViolations d).map Violation.demand).Pairwise Demand.Precedes := by
  have htrans : ∀ x y z : Violation, textsLe x.demand.texts y.demand.texts = true →
      textsLe y.demand.texts z.demand.texts = true → textsLe x.demand.texts z.demand.texts = true :=
    fun x y z => textsLe_trans
  have htotal : ∀ x y : Violation,
      (textsLe x.demand.texts y.demand.texts || textsLe y.demand.texts x.demand.texts) = true :=
    fun x y => textsLe_total _ _
  have hranks : (c.sortedViolations d).Pairwise fun x y =>
      textsLe y.demand.texts x.demand.texts = true → x.breach.rank < y.breach.rank := by
    apply pairwise_mergeSort_ties htrans htotal
    refine (c.pairwise_violations hc d hd).imp fun hkeeps hxy hyx => ?_
    exact hkeeps (textsLe_antisymm hxy hyx)
  rw [List.pairwise_map]
  refine (List.pairwise_mergeSort htrans htotal _).imp₂ ?_ hranks
  intro x y hle hrank
  exact ⟨hle, fun htexts => hrank (by rw [htexts]; exact textsLe_refl _)⟩

/-- The issues of a document are the demands of a ranked contract that it does not meet, each once
and in their order. They can be told if each of them can. -/
theorem exists_areUnmet
    (hdemands : ∀ w b location, c.Demands w b location ↔ demanded ⟨location, b⟩)
    (hc : c.isRanked = true) (hd : d.isDocument = true) :
    ∃ ms, Demand.AreUnmet demanded d ms ∧
      issuesOf c d = ms.map (fun m => (m.violation d).issue) ∧
      (c.obstacle d = none ↔ ∀ m ∈ ms, (m.violation d).isShowable = true) := by
  have hself : ∀ x ∈ c.sortedViolations d, x.demand.violation d = x := fun x hx =>
    ((c.mem_violations_iff d hd x).mp (mem_sortedViolations_iff.mp hx)).2.violation_demand
  refine ⟨(c.sortedViolations d).map Violation.demand,
    ⟨fun m => ?_, pairwise_sortedViolations hc hd⟩, ?_, ?_⟩
  · simp only [List.mem_map, mem_sortedViolations_iff]
    exact exists_violation_iff hdemands hd
  · have hissues : issuesOf c d = (c.sortedViolations d).map Violation.issue := rfl
    rw [hissues, List.map_map]
    refine List.map_congr_left fun x hx => ?_
    rw [Function.comp_apply, hself x hx]
  · have hall : (∀ m ∈ (c.sortedViolations d).map Violation.demand,
        (m.violation d).isShowable = true) ↔ ∀ x ∈ c.violations d, x.isShowable = true := by
      rw [List.forall_mem_map]
      simp only [← mem_sortedViolations_iff]
      refine forall₂_congr fun x hx => ?_
      rw [hself x hx]
    rw [hall, Contract.obstacle, ← List.all_eq_true]
    split <;> simp_all

end Issues

end ExtractionSchema
