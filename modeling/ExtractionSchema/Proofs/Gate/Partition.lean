import ExtractionSchema.Gate
import ExtractionSchema.Proofs.Value.Entries
import Mathlib.Data.List.Forall2

/-!
# Screening loses nothing

Screening goes through a batch once and asks every candidate by itself. What it returns is a
partition: put back at their indexes, the rejected candidates and the valid ones make the batch
again, and no verdict depends on the neighbours of a candidate.

* `Screened` is the relation between a batch and its result, one candidate after the other, and
  `toExcept_screenFrom_eq_ok_iff` says that screening returns exactly what stands in it.
* `Rejection.SetsAside` says how a rejected candidate is set aside.
* `screen_partition`: whatever screening returns is a partition of the batch, and the result of a
  longer batch is put together from those of its parts.
-/

namespace ExtractionSchema

/-- The result of screening a batch from an index on. -/
inductive Screened (deep : Bool) (schema : GateSchema) : Nat → List Value → GateResult → Prop
  | nil {i : Nat} : Screened deep schema i [] ⟨[], []⟩
  | valid {i : Nat} {v : Value} {batch : List Value} {r : GateResult}
      (hv : Gate.rejection deep schema v = .ok none)
      (rest : Screened deep schema (i + 1) batch r) :
      Screened deep schema i (v :: batch) ⟨v :: r.valid, r.rejections⟩
  | rejected {i : Nat} {v : Value} {batch : List Value} {r : GateResult} {error : String}
      (hv : Gate.rejection deep schema v = .ok (some error))
      (rest : Screened deep schema (i + 1) batch r) :
      Screened deep schema i (v :: batch) ⟨r.valid, ⟨i, error, v⟩ :: r.rejections⟩

variable {deep : Bool} {schema : GateSchema} {i : Nat} {batch : List Value} {r : GateResult}

/-! ## What screening returns -/

theorem Screening.toExcept_consValid {v : Value} {s : Screening} :
    (s.consValid v).toExcept = .ok r ↔
      ∃ rest, s.toExcept = .ok rest ∧ r = ⟨v :: rest.valid, rest.rejections⟩ := by
  obtain ⟨result, fault⟩ := s
  cases fault with
  | some fault => simp [consValid, toExcept]
  | none => simp [consValid, toExcept, eq_comm]

theorem Screening.toExcept_consRejected {e : Rejection} {s : Screening} :
    (s.consRejected e).toExcept = .ok r ↔
      ∃ rest, s.toExcept = .ok rest ∧ r = ⟨rest.valid, e :: rest.rejections⟩ := by
  obtain ⟨result, fault⟩ := s
  cases fault with
  | some fault => simp [consRejected, toExcept]
  | none => simp [consRejected, toExcept, eq_comm]

theorem toExcept_screenFrom_eq_ok_iff :
    (screenFrom deep schema i batch).toExcept = .ok r ↔ Screened deep schema i batch r := by
  induction batch generalizing i r with
  | nil =>
    constructor
    · intro h
      cases h
      exact .nil
    · intro h
      cases h
      rfl
  | cons v batch ih =>
    rw [screenFrom]
    constructor
    · intro h
      split at h
      · cases h
      · rename_i hv
        obtain ⟨rest, hrest, rfl⟩ := Screening.toExcept_consValid.mp h
        exact .valid hv (ih.mp hrest)
      · rename_i error hv
        obtain ⟨rest, hrest, rfl⟩ := Screening.toExcept_consRejected.mp h
        exact .rejected hv (ih.mp hrest)
    · intro h
      cases h with
      | valid hv rest =>
        rw [hv]
        exact Screening.toExcept_consValid.mpr ⟨_, ih.mpr rest, rfl⟩
      | rejected hv rest =>
        rw [hv]
        exact Screening.toExcept_consRejected.mpr ⟨_, ih.mpr rest, rfl⟩

theorem toExcept_screen_eq_ok_iff :
    (screen deep schema batch).toExcept = .ok r ↔ Screened deep schema 0 batch r :=
  toExcept_screenFrom_eq_ok_iff

namespace Screened

theorem exists_of_forall (h : ∀ v ∈ batch, ∃ verdict, Gate.rejection deep schema v = .ok verdict)
    (i : Nat) : ∃ r, Screened deep schema i batch r := by
  induction batch generalizing i with
  | nil => exact ⟨_, .nil⟩
  | cons v batch ih =>
    rw [List.forall_mem_cons] at h
    obtain ⟨r, hr⟩ := ih h.2 (i + 1)
    obtain ⟨verdict, hv⟩ := h.1
    cases verdict with
    | none => exact ⟨_, .valid hv hr⟩
    | some error => exact ⟨_, .rejected hv hr⟩

/-! ## The two parts -/

theorem length_eq (h : Screened deep schema i batch r) :
    r.validCount + r.invalidCount = batch.length := by
  induction h with
  | nil => rfl
  | valid hv rest ih =>
    simp only [GateResult.validCount, GateResult.invalidCount, GateResult.invalid,
      List.length_map, List.length_cons] at ih ⊢
    omega
  | rejected hv rest ih =>
    simp only [GateResult.validCount, GateResult.invalidCount, GateResult.invalid,
      List.length_map, List.length_cons] at ih ⊢
    omega

/-- A rejection tells the candidate, its place and its verdict. -/
theorem of_mem_rejections (h : Screened deep schema i batch r) : ∀ e ∈ r.rejections,
    i ≤ e.index ∧ batch[e.index - i]? = some e.data ∧
      Gate.rejection deep schema e.data = .ok (some e.error) := by
  induction h with
  | nil => simp
  | @valid i v batch r hv rest ih =>
    intro e he
    obtain ⟨hindex, hdata, herror⟩ := ih e he
    have hstep : e.index - i = e.index - (i + 1) + 1 := by omega
    refine ⟨by omega, ?_, herror⟩
    rw [hstep, List.getElem?_cons_succ]
    exact hdata
  | @rejected i v batch r error hv rest ih =>
    intro e he
    rcases List.mem_cons.mp he with rfl | he
    · exact ⟨Nat.le_refl i, by simp, hv⟩
    · obtain ⟨hindex, hdata, herror⟩ := ih e he
      have hstep : e.index - i = e.index - (i + 1) + 1 := by omega
      refine ⟨by omega, ?_, herror⟩
      rw [hstep, List.getElem?_cons_succ]
      exact hdata

theorem pairwise_index (h : Screened deep schema i batch r) :
    r.rejections.Pairwise fun e e' => e.index < e'.index := by
  induction h with
  | nil => exact .nil
  | valid hv rest ih => exact ih
  | rejected hv rest ih =>
    refine List.pairwise_cons.mpr ⟨?_, ih⟩
    intro e he
    obtain ⟨hindex, -, -⟩ := rest.of_mem_rejections e he
    exact hindex

theorem mem_valid_iff (h : Screened deep schema i batch r) {v : Value} :
    v ∈ r.valid ↔ v ∈ batch ∧ Gate.rejection deep schema v = .ok none := by
  induction h with
  | nil => simp
  | valid hv rest ih =>
    rw [List.mem_cons, List.mem_cons, ih]
    constructor
    · rintro (rfl | ⟨hmem, hnone⟩)
      · exact ⟨.inl rfl, hv⟩
      · exact ⟨.inr hmem, hnone⟩
    · rintro ⟨rfl | hmem, hnone⟩
      · exact .inl rfl
      · exact .inr ⟨hmem, hnone⟩
  | rejected hv rest ih =>
    rw [List.mem_cons, ih]
    constructor
    · rintro ⟨hmem, hnone⟩
      exact ⟨.inr hmem, hnone⟩
    · rintro ⟨rfl | hmem, hnone⟩
      · rw [hv] at hnone
        cases hnone
      · exact ⟨hmem, hnone⟩

/-- The valid candidates are those that a test accepts, in their order, if the test agrees with the
verdicts. -/
theorem valid_eq_filter (h : Screened deep schema i batch r) {p : Value → Bool}
    (hp : ∀ v ∈ batch, Gate.rejection deep schema v = .ok none ↔ p v = true) :
    r.valid = batch.filter p := by
  induction h with
  | nil => rfl
  | valid hv rest ih =>
    rw [List.forall_mem_cons] at hp
    rw [List.filter_cons_of_pos (hp.1.mp hv), ih hp.2]
  | rejected hv rest ih =>
    rw [List.forall_mem_cons] at hp
    have hnot : ¬ _ = true := fun hpv => by
      have hnone := hp.1.mpr hpv
      rw [hv] at hnone
      cases hnone
    rw [List.filter_cons_of_neg hnot, ih hp.2]

/-- If a gate asks what another one asks and a test besides, its valid candidates are those of the
other one that pass the test. -/
theorem valid_eq_filter_valid {deep' : Bool} {schema' : GateSchema} {j : Nat} {r' : GateResult}
    (h : Screened deep schema i batch r) (h' : Screened deep' schema' j batch r')
    {p : Value → Bool} (hp : ∀ v ∈ batch, Gate.rejection deep schema v = .ok none ↔
      Gate.rejection deep' schema' v = .ok none ∧ p v = true) :
    r.valid = r'.valid.filter p := by
  classical
  have hvalid' : r'.valid =
      batch.filter fun v => decide (Gate.rejection deep' schema' v = .ok none) :=
    h'.valid_eq_filter fun v _ => decide_eq_true_iff.symm
  rw [hvalid', List.filter_filter]
  refine h.valid_eq_filter fun v hv => ?_
  rw [hp v hv, Bool.and_eq_true, decide_eq_true_iff]
  exact and_comm

end Screened

/-! ## Putting the parts together -/

/-- The candidates of a result: the rejected ones are put back among the valid ones, each at its
index. -/
def GateResult.merged (r : GateResult) : List Value :=
  r.rejections.foldl (fun vs e => vs.insertIdx e.index e.data) r.valid

theorem insertIdx_append (before after : List Value) (v : Value) :
    (before ++ after).insertIdx before.length v = before ++ v :: after := by
  induction before with
  | nil => rfl
  | cons w before ih =>
    rw [List.cons_append, List.length_cons, List.insertIdx_succ_cons, ih, List.cons_append]

namespace Screened

/-- Rejected candidates are put back behind the candidates that come before the batch. -/
theorem foldl_insertIdx (h : Screened deep schema i batch r) {before : List Value}
    (hbefore : before.length = i) :
    r.rejections.foldl (fun vs e => vs.insertIdx e.index e.data) (before ++ r.valid) =
      before ++ batch := by
  induction h generalizing before with
  | nil => rfl
  | @valid i v batch r hv rest ih =>
    have hlength : (before ++ [v]).length = i + 1 := by simp [hbefore]
    have hstep := ih hlength
    simpa using hstep
  | @rejected i v batch r error hv rest ih =>
    have hinsert : (before ++ r.valid).insertIdx i v = before ++ [v] ++ r.valid := by
      rw [← hbefore, insertIdx_append]
      simp
    have hlength : (before ++ [v]).length = i + 1 := by simp [hbefore]
    rw [List.foldl_cons, hinsert, ih hlength]
    simp

theorem merged_eq (h : Screened deep schema 0 batch r) : r.merged = batch :=
  h.foldl_insertIdx List.length_nil

theorem again (h : Screened deep schema i batch r) (j : Nat) :
    Screened deep schema j r.valid ⟨r.valid, []⟩ := by
  induction h generalizing j with
  | nil => exact .nil
  | valid hv rest ih => exact .valid hv (ih (j + 1))
  | rejected hv rest ih => exact ih j

end Screened

/-- A result whose indexes are counted from another place. -/
def GateResult.shifted (n : Nat) (r : GateResult) : GateResult where
  valid := r.valid
  rejections := r.rejections.map fun e => { e with index := n + e.index }

/-- A result and another one behind it. -/
def GateResult.append (r s : GateResult) : GateResult where
  valid := r.valid ++ s.valid
  rejections := r.rejections ++ s.rejections

namespace Screened

theorem exists_shifted {n : Nat} (h : Screened deep schema (n + i) batch r) :
    ∃ s, Screened deep schema i batch s ∧ r = s.shifted n := by
  generalize hj : n + i = j at h
  induction h generalizing i with
  | nil => exact ⟨_, .nil, rfl⟩
  | valid hv rest ih =>
    obtain ⟨s, hs, rfl⟩ := ih (i := i + 1) (by omega)
    exact ⟨_, .valid hv hs, rfl⟩
  | rejected hv rest ih =>
    obtain ⟨s, hs, rfl⟩ := ih (i := i + 1) (by omega)
    subst hj
    exact ⟨_, .rejected hv hs, rfl⟩

theorem exists_append {xs ys : List Value} (h : Screened deep schema i (xs ++ ys) r) :
    ∃ a b, Screened deep schema i xs a ∧ Screened deep schema (i + xs.length) ys b ∧
      r = a.append b := by
  induction xs generalizing i r with
  | nil => exact ⟨_, r, .nil, h, rfl⟩
  | cons x xs ih =>
    have hlength : i + (x :: xs).length = i + 1 + xs.length := by
      simp only [List.length_cons]
      omega
    rw [hlength]
    cases h with
    | valid hv rest =>
      obtain ⟨a, b, ha, hb, rfl⟩ := ih rest
      exact ⟨_, b, .valid hv ha, hb, rfl⟩
    | rejected hv rest =>
      obtain ⟨a, b, ha, hb, rfl⟩ := ih rest
      exact ⟨_, b, .rejected hv ha, hb, rfl⟩

end Screened

/-! ## Candidates that are set aside -/

/-- The entries of an object; nothing else has any. -/
def Value.ownEntries : Value → Value.Entries
  | .object entries => entries
  | _ => []

/-- A rejected candidate is set aside as an object with its entries, in which the error and a mark
are set: nothing else is changed, and new keys come last. -/
def Rejection.SetsAside (e : Rejection) (v : Value) : Prop :=
  ∃ entries, v = .object entries ∧
    Value.lookup (.name "_validationError") entries = some (.string e.error) ∧
    Value.lookup (.name "_skipAgents") entries = some (.bool true) ∧
    (∀ key, key ≠ .name "_validationError" → key ≠ .name "_skipAgents" →
      Value.lookup key entries = Value.lookup key e.data.ownEntries) ∧
    entries.map Prod.fst = Value.keysWith (.name "_skipAgents")
      (Value.keysWith (.name "_validationError") (e.data.ownEntries.map Prod.fst))

theorem Rejection.setsAside_quarantined (e : Rejection) : e.SetsAside e.quarantined := by
  have hentries : e.quarantined = .object (Value.put (.name "_skipAgents") (.bool true)
      (Value.put (.name "_validationError") (.string e.error) e.data.ownEntries)) := by
    unfold Rejection.quarantined Value.ownEntries
    rfl
  have hne : Key.name "_validationError" ≠ Key.name "_skipAgents" := by decide
  refine ⟨_, hentries, ?_, Value.lookup_put_self _ _ _, ?_, ?_⟩
  · rw [Value.lookup_put_of_ne hne, Value.lookup_put_self]
  · intro key herror hskip
    rw [Value.lookup_put_of_ne hskip, Value.lookup_put_of_ne herror]
  · rw [Value.keys_put, Value.keys_put]

theorem GateResult.forall₂_invalid (r : GateResult) :
    List.Forall₂ Rejection.SetsAside r.rejections r.invalid := by
  rw [GateResult.invalid, List.forall₂_map_right_iff, List.forall₂_same]
  intro e _
  exact e.setsAside_quarantined

/-! ## The partition -/

/-- Whatever screening returns is a partition of the batch: the counts add up, the rejections stand
in the order of their indexes and hold the candidates there, each is set aside with its reason, all
candidates come back at their places, the valid ones pass again, and the parts of a batch are
screened as they are by themselves. -/
theorem screen_partition (h : (screen deep schema batch).toExcept = .ok r) :
    r.validCount + r.invalidCount = batch.length ∧
      r.rejections.Pairwise (fun e e' => e.index < e'.index) ∧
      (∀ e ∈ r.rejections, batch[e.index]? = some e.data) ∧
      List.Forall₂ Rejection.SetsAside r.rejections r.invalid ∧
      r.merged = batch ∧
      (screen deep schema r.valid).toExcept = .ok ⟨r.valid, []⟩ ∧
      ∀ xs ys, batch = xs ++ ys → ∃ a b, (screen deep schema xs).toExcept = .ok a ∧
        (screen deep schema ys).toExcept = .ok b ∧ r = a.append (b.shifted xs.length) := by
  have hscreened := toExcept_screen_eq_ok_iff.mp h
  refine ⟨hscreened.length_eq, hscreened.pairwise_index, ?_, r.forall₂_invalid,
    hscreened.merged_eq, toExcept_screen_eq_ok_iff.mpr (hscreened.again 0), ?_⟩
  · intro e he
    obtain ⟨-, hdata, -⟩ := hscreened.of_mem_rejections e he
    exact hdata
  · rintro xs ys rfl
    obtain ⟨a, b, ha, hb, rfl⟩ := hscreened.exists_append
    rw [Nat.zero_add] at hb
    obtain ⟨s, hs, rfl⟩ := Screened.exists_shifted (i := 0) hb
    exact ⟨a, s, toExcept_screen_eq_ok_iff.mpr ha, toExcept_screen_eq_ok_iff.mpr hs, rfl⟩

/-- A schema of two required fields. -/
def sampleGateSchema : GateSchema :=
  .written (.record [("type", .string "object"), ("required", .strings ["vendor", "total"]),
    ("properties", .record [("vendor", .record [("type", .string "string")]),
      ("total", .record [("type", .string "number")])])])

/-- A batch of two valid candidates among a text, an empty object and a candidate of an earlier run
that was set aside. -/
def sampleBatch : List Value :=
  [.string "junk", .record [("vendor", .string "A"), ("total", .int 1)],
    .record [("_skipAgents", .bool false), ("vendor", .string "B")], .object [],
    .record [("vendor", .string "C"), ("total", .int 3)]]

theorem screen_partition_sample :
    ∃ r, (screen true sampleGateSchema sampleBatch).toExcept = .ok r ∧ r.validCount = 2 ∧
      r.merged = sampleBatch ∧
      (screen true sampleGateSchema r.valid).toExcept = .ok ⟨r.valid, []⟩ := by
  have h : (screen true sampleGateSchema sampleBatch).toExcept = .ok _ := rfl
  obtain ⟨-, -, -, -, hmerged, hagain, -⟩ := screen_partition h
  exact ⟨_, h, rfl, hmerged, hagain⟩

end ExtractionSchema
