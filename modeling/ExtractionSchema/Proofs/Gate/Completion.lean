import ExtractionSchema.Proofs.Gate.Depth

/-!
# Batches that are screened to the end

A rejected candidate is set aside, and the next one is looked at. What ends a batch before its last
candidate is a fault, and with a written schema there is one source of faults: the gate goes through
the required names of a schema that states properties and looks each of them up in the candidate. A
name that is a list or an object cannot be looked up, and an integer of too many digits that the
candidate lacks cannot be told. Names behind one that the candidate lacks are not looked at.

* `Gate.Stops` says when a candidate ends its batch, and with which fault.
* `Gate.rejection_eq_error_iff`: the shallow gate has no other faults.
* `screen_completes_iff`: a batch is screened to the end, and none of its candidates is lost, exactly
  when none of them stops the gate; otherwise the fault is that of the first one that does.
* `screen_list_name`: a list among the required names loses a batch.
-/

namespace ExtractionSchema

open Wire

namespace Gate

/-! ## Looking up required names -/

/-- The fault of looking up a required name: it is no key, or it is not there and cannot be told. -/
def nameFault (entries : Value.Entries) (name : Value) : Option GateFault :=
  match unkeyedKind name with
  | some kind => some (.notAKey kind)
  | none => if isKeyOf entries name || name.isShowable then none else some (.untold .digits)

/-- Of some required names, the first that does not pass quietly ends with a fault: all names before
it are there. -/
def StopsAmong (entries : Value.Entries) (names : List Value) (fault : GateFault) : Prop :=
  ∃ before name after, names = before ++ name :: after ∧
    (∀ there ∈ before, isKeyOf entries there = true) ∧ nameFault entries name = some fault

variable {entries : Value.Entries} {names : List Value} {fault : GateFault}

theorem unkeyedKind_of_isKeyOf {v : Value} (h : isKeyOf entries v = true) :
    unkeyedKind v = none := by
  cases v with
  | null | bool _ | number _ | string _ | foreign _ => rfl
  | list _ | object _ | set _ | pair _ _ | enclosing _ => simp [isKeyOf, Value.key?] at h

theorem not_stopsAmong_nil : ¬ StopsAmong entries [] fault := by
  rintro ⟨before, name, after, hnames, -⟩
  simp at hnames

/-- The first name stops the gate, or it is there and one of the others does. -/
theorem stopsAmong_cons_iff {v : Value} : StopsAmong entries (v :: names) fault ↔
    nameFault entries v = some fault ∨
      (isKeyOf entries v = true ∧ StopsAmong entries names fault) := by
  constructor
  · rintro ⟨before, name, after, hnames, hthere, hfault⟩
    cases before with
    | nil =>
      cases hnames
      exact .inl hfault
    | cons first before =>
      cases hnames
      rw [List.forall_mem_cons] at hthere
      exact .inr ⟨hthere.1, before, name, after, rfl, hthere.2, hfault⟩
  · rintro (hfault | ⟨hkey, before, name, after, rfl, hthere, hfault⟩)
    · exact ⟨[], v, names, rfl, by simp, hfault⟩
    · exact ⟨v :: before, name, after, rfl, List.forall_mem_cons.mpr ⟨hkey, hthere⟩, hfault⟩

theorem missingError_eq_error_iff :
    missingError entries names = .error fault ↔ StopsAmong entries names fault := by
  induction names with
  | nil =>
    refine iff_of_false ?_ not_stopsAmong_nil
    intro h
    cases h
  | cons v names ih =>
    rw [stopsAmong_cons_iff, missingError, nameFault]
    cases hkind : unkeyedKind v with
    | some kind =>
      have hkey : isKeyOf entries v ≠ true := by
        intro hkey
        rw [unkeyedKind_of_isKeyOf hkey] at hkind
        cases hkind
      simp [throw, throwThe, MonadExceptOf.throw, bind, Except.bind, hkey]
    | none =>
      cases hkey : isKeyOf entries v with
      | true => simpa [hkey] using ih
      | false =>
        cases hshow : v.isShowable with
        | true => simp [pure, Except.pure]
        | false => simp [throw, throwThe, MonadExceptOf.throw]

/-! ## Candidates that stop a gate -/

/-- A candidate stops a gate with a written schema: it has entries, the schema states properties,
and the gate does not come to the end of the required names. -/
def Stops (schema : Value.Entries) (candidate : Value) (fault : GateFault) : Prop :=
  ∃ entries, candidate = .object entries ∧ entries ≠ [] ∧
    (∃ children, Value.lookup (.name "properties") schema = some (.object children)) ∧
    StopsAmong entries (statedNames schema) fault

variable {schema : Value.Entries}

theorem exists_entries_of_structureError {v : Value} (h : structureError v = none) :
    ∃ entries, v = .object entries ∧ entries ≠ [] := by
  cases v with
  | object entries =>
    refine ⟨entries, rfl, ?_⟩
    rintro rfl
    cases h
  | null | bool _ | number _ | string _ | list _ | foreign _ | set _ | pair _ _ | enclosing _ =>
    cases h

theorem schemaError_eq_error_iff : schemaError (.object schema) entries = .error fault ↔
    (∃ children, Value.lookup (.name "properties") schema = some (.object children)) ∧
      StopsAmong entries (statedNames schema) fault := by
  rw [schemaError_object, ← missingError_eq_error_iff]
  split
  · rename_i children hchildren
    cases herror : missingError entries (statedNames schema) with
    | error other => simp [bind, Except.bind, hchildren]
    | ok error => cases error <;> simp [bind, Except.bind, pure, Except.pure]
  · rename_i hnone
    refine iff_of_false (by simp) ?_
    rintro ⟨⟨children, hchildren⟩, -⟩
    exact hnone children hchildren

/-- A value that is no object with entries is rejected as such, whatever the schema. -/
theorem rejection_of_structureError {deep : Bool} {gateSchema : GateSchema} {v : Value}
    {error : String} (h : structureError v = some error) :
    rejection deep gateSchema v = .ok (some error) := by
  unfold rejection
  split
  · rename_i hnone
    rw [h] at hnone
    cases hnone
  · rw [h]

/-- With a written schema the shallow gate looks at nothing but that schema; an empty one asks for
nothing. -/
theorem rejection_written (schema : Value.Entries) {entries : Value.Entries} (h : entries ≠ []) :
    rejection false (.written (.object schema)) (.object entries) =
      schemaError (.object schema) entries := by
  obtain ⟨e, es, rfl⟩ := List.exists_cons_of_ne_nil h
  cases schema with
  | nil => rfl
  | cons s ss =>
    have hwritten : (GateSchema.written (.object (s :: ss))).written? = some (.object (s :: ss)) :=
      rfl
    simp only [rejection, structureError, hwritten]
    cases schemaError (.object (s :: ss)) (e :: es) with
    | error fault => rfl
    | ok error => cases error <;> rfl

/-- The shallow gate has no faults but those of required names. -/
theorem rejection_eq_error_iff {v : Value} :
    rejection false (.written (.object schema)) v = .error fault ↔ Stops schema v fault := by
  constructor
  · intro h
    cases hreason : structureError v with
    | some error =>
      rw [rejection_of_structureError hreason] at h
      cases h
    | none =>
      obtain ⟨entries, rfl, hne⟩ := exists_entries_of_structureError hreason
      rw [rejection_written schema hne, schemaError_eq_error_iff] at h
      exact ⟨entries, rfl, hne, h⟩
  · rintro ⟨entries, rfl, hne, hstops⟩
    rw [rejection_written schema hne, schemaError_eq_error_iff]
    exact hstops

/-- The shallow gate has a verdict on every candidate that does not stop it. -/
theorem exists_verdict_iff {v : Value} :
    (∃ verdict, rejection false (.written (.object schema)) v = .ok verdict) ↔
      ∀ fault, ¬ Stops schema v fault := by
  simp only [← rejection_eq_error_iff]
  cases rejection false (.written (.object schema)) v <;> simp

/-- Names that can be looked up and told stop no gate. -/
theorem not_stops_of_forall
    (h : ∀ name ∈ statedNames schema, unkeyedKind name = none ∧ name.isShowable = true)
    {v : Value} : ¬ Stops schema v fault := by
  rintro ⟨entries, -, -, -, before, name, after, hnames, -, hfault⟩
  have hname : name ∈ statedNames schema := by
    rw [hnames]
    simp
  obtain ⟨hkind, hshow⟩ := h name hname
  simp [nameFault, hkind, hshow] at hfault

end Gate

/-! ## Batches -/

section Batch

variable {deep : Bool} {gateSchema : GateSchema} {i : Nat} {batch : List Value} {fault : GateFault}

theorem Screening.toExcept_consValid_eq_error_iff {v : Value} {s : Screening} :
    (s.consValid v).toExcept = .error fault ↔ s.toExcept = .error fault := by
  obtain ⟨result, fault⟩ := s
  cases fault <;> simp [consValid, toExcept]

theorem Screening.toExcept_consRejected_eq_error_iff {e : Rejection} {s : Screening} :
    (s.consRejected e).toExcept = .error fault ↔ s.toExcept = .error fault := by
  obtain ⟨result, fault⟩ := s
  cases fault <;> simp [consRejected, toExcept]

theorem Screened.exists_verdict {r : GateResult} (h : Screened deep gateSchema i batch r) :
    ∀ v ∈ batch, ∃ verdict, Gate.rejection deep gateSchema v = .ok verdict := by
  induction h with
  | nil => simp
  | valid hv rest ih => exact List.forall_mem_cons.mpr ⟨⟨_, hv⟩, ih⟩
  | rejected hv rest ih => exact List.forall_mem_cons.mpr ⟨⟨_, hv⟩, ih⟩

/-- Screening ends with a fault exactly when some candidate has it and none before has one. -/
theorem toExcept_screenFrom_eq_error_iff :
    (screenFrom deep gateSchema i batch).toExcept = .error fault ↔
      ∃ before v after, batch = before ++ v :: after ∧
        (∀ w ∈ before, ∃ verdict, Gate.rejection deep gateSchema w = .ok verdict) ∧
        Gate.rejection deep gateSchema v = .error fault := by
  induction batch generalizing i with
  | nil =>
    refine iff_of_false (fun h => by cases h) ?_
    rintro ⟨before, v, after, hbatch, -⟩
    simp at hbatch
  | cons w batch ih =>
    rw [screenFrom]
    constructor
    · intro h
      cases hw : Gate.rejection deep gateSchema w with
      | error other =>
        rw [hw] at h
        cases h
        exact ⟨[], w, batch, rfl, by simp, hw⟩
      | ok verdict =>
        have hrest : (screenFrom deep gateSchema (i + 1) batch).toExcept = .error fault := by
          rw [hw] at h
          cases verdict with
          | none => exact Screening.toExcept_consValid_eq_error_iff.mp h
          | some error => exact Screening.toExcept_consRejected_eq_error_iff.mp h
        obtain ⟨before, v, after, rfl, hbefore, hv⟩ := ih.mp hrest
        exact ⟨w :: before, v, after, rfl, List.forall_mem_cons.mpr ⟨⟨verdict, hw⟩, hbefore⟩, hv⟩
    · rintro ⟨before, v, after, hbatch, hbefore, hv⟩
      cases before with
      | nil =>
        cases hbatch
        rw [hv]
        rfl
      | cons first before =>
        cases hbatch
        rw [List.forall_mem_cons] at hbefore
        obtain ⟨⟨verdict, hw⟩, hbefore⟩ := hbefore
        have hrest : (screenFrom deep gateSchema (i + 1) (before ++ v :: after)).toExcept =
            .error fault := ih.mpr ⟨before, v, after, rfl, hbefore, hv⟩
        rw [hw]
        cases verdict with
        | none => exact Screening.toExcept_consValid_eq_error_iff.mpr hrest
        | some error => exact Screening.toExcept_consRejected_eq_error_iff.mpr hrest

end Batch

/-- A batch is screened to the end, with every candidate in one of the two parts and back at its
place when they are put together, exactly when no candidate stops the gate; and if one does, the
fault is that of the first one. -/
theorem screen_completes_iff {schema : Value.Entries} {batch : List Value} :
    ((∃ r, (screen false (.written (.object schema)) batch).toExcept = .ok r ∧
        r.validCount + r.invalidCount = batch.length ∧ r.merged = batch) ↔
      ∀ v ∈ batch, ∀ fault, ¬ Gate.Stops schema v fault) ∧
    ∀ fault, (screen false (.written (.object schema)) batch).toExcept = .error fault ↔
      ∃ before v after, batch = before ++ v :: after ∧
        (∀ w ∈ before, ∀ other, ¬ Gate.Stops schema w other) ∧ Gate.Stops schema v fault := by
  constructor
  · constructor
    · rintro ⟨r, hr, -⟩ v hv
      exact Gate.exists_verdict_iff.mp ((toExcept_screen_eq_ok_iff.mp hr).exists_verdict v hv)
    · intro h
      have hverdicts : ∀ v ∈ batch, ∃ verdict,
          Gate.rejection false (.written (.object schema)) v = .ok verdict :=
        fun v hv => Gate.exists_verdict_iff.mpr (h v hv)
      obtain ⟨r, hr⟩ := Screened.exists_of_forall hverdicts 0
      exact ⟨r, toExcept_screen_eq_ok_iff.mpr hr, hr.length_eq, hr.merged_eq⟩
  · intro fault
    rw [screen, toExcept_screenFrom_eq_error_iff]
    simp only [Gate.exists_verdict_iff, Gate.rejection_eq_error_iff]

/-- A schema with a list among its required names. -/
def listNameSchema : Value :=
  .record [("type", .string "object"), ("required", .list [.list [.string "a"]]),
    ("properties", .record [])]

/-- A candidate of one entry. -/
def plainCandidate : Value := .record [("a", .int 1)]

/-- A list among the required names loses a batch: a text before it and the candidate itself get no
verdict. -/
theorem screen_list_name :
    listNameSchema.isJson = true ∧ (∀ v ∈ [.string "junk", plainCandidate], v.isJson = true) ∧
      (screen false (.written listNameSchema) [.string "junk", plainCandidate]).toExcept =
        .error (.notAKey "list") ∧
      ¬ ∃ r, (screen false (.written listNameSchema) [.string "junk", plainCandidate]).toExcept =
        .ok r := by
  have hfault : (screen false (.written listNameSchema) [.string "junk", plainCandidate]).toExcept =
      .error (.notAKey "list") := rfl
  refine ⟨rfl, by decide, hfault, ?_⟩
  rintro ⟨r, hr⟩
  rw [hfault] at hr
  cases hr

end ExtractionSchema
