import ExtractionSchema.Proofs.Gate.Completion

/-!
# The verdict of the shallow gate

With a written schema, a candidate should pass when it is an object with entries, holds every
required name, and holds under each declared field of a known type a value of that type, or `null`
where the field is not required. The gate follows this rule for every schema that states properties.
A schema without properties is taken to ask for nothing, its required names included, and there the
gate lets through whatever is an object with entries.

* `Gate.Passes` is the rule, told by the names and the fields that a schema states.
* `Gate.rejection_eq_none_iff`: the verdict on a candidate, for schemas with properties and without.
* `screen_valid_iff`: the valid candidates of a batch, and when they are those that pass the rule.
* `screen_required_only`: a candidate that lacks the one name that its schema requires.
-/

namespace ExtractionSchema

open Wire

namespace Gate

/-! ## The rule -/

/-- A value of a type that the gate knows. Truth values are no numbers, and a number without a
fraction is an integer however it is written. -/
inductive OfType : String → Value → Prop
  | string {s : String} : OfType "string" (.string s)
  | number {n : Number} : OfType "number" (.number n)
  | integer {n : Number} {i : Int} (h : n.value? = some (.point i)) : OfType "integer" (.number n)
  | boolean {b : Bool} : OfType "boolean" (.bool b)
  | array {vs : List Value} : OfType "array" (.list vs)
  | object {es : Value.Entries} : OfType "object" (.object es)

/-- The types that the gate knows. -/
def knownTypes : List String := ["string", "number", "integer", "boolean", "array", "object"]

/-- A declared field, if it is there and its node states a known type, is of that type, or it is
`null` and not required. -/
def FieldFits (names : List String) (entries : Value.Entries) (field : Key) (node : Value.Entries) :
    Prop :=
  ∀ type ∈ knownTypes, Value.lookup (.name "type") node = some (.string type) →
    ∀ w, Value.lookup field entries = some w →
      OfType type w ∨ (w = .null ∧ ∀ name ∈ names, field ≠ .name name)

/-- The fields that a schema declares: a key and a node each. -/
abbrev Fields := List (Key × Value.Entries)

/-- A candidate has entries, all required names among them, and its declared fields fit. -/
def Passes (names : List String) (fields : Fields) (v : Value) : Prop :=
  ∃ entries, v = .object entries ∧ entries ≠ [] ∧
    (∀ name ∈ names, ∃ w, Value.lookup (.name name) entries = some w) ∧
    ∀ field ∈ fields, FieldFits names entries field.1 field.2

/-- A schema requires these names, none if it states none, and declares these fields, if it states
properties. -/
structure States (schema : Value.Entries) (names : List String) (fields? : Option Fields) :
    Prop where
  required : Value.lookup (.name "required") schema = some (.list (names.map .string)) ∨
    (Value.lookup (.name "required") schema = none ∧ names = [])
  properties : Value.lookup (.name "properties") schema =
    fields?.map fun fields => .object (fields.map fun field => (field.1, .object field.2))

/-! ## Types of fields -/

theorem lookup_kinds_eq_none_iff {type : String} :
    kinds.lookup type = none ↔ type ∉ knownTypes := by
  rw [List.lookup_eq_none_iff]
  simp [kinds, knownTypes]

/-- The kind under the name of a type admits the values of that type. -/
theorem admits_iff_ofType {type : String} {kind : Kind} (h : kinds.lookup type = some kind)
    {v : Value} : kind.admits v = true ↔ OfType type v := by
  have hmem := mem_kinds_of_lookup h
  simp only [kinds, List.mem_cons, Prod.mk.injEq, List.not_mem_nil, or_false] at hmem
  constructor
  · intro hadmits
    rcases hmem with ⟨rfl, rfl⟩ | ⟨rfl, rfl⟩ | ⟨rfl, rfl⟩ | ⟨rfl, rfl⟩ | ⟨rfl, rfl⟩ | ⟨rfl, rfl⟩
    all_goals
      cases v <;> simp only [Kind.admits, Bool.false_eq_true] at hadmits
    · exact .string
    · exact .number
    · obtain ⟨i, hi⟩ := Number.isIntegral_iff.mp hadmits
      exact .integer hi
    · exact .boolean
    · exact .array
    · exact .object
  · intro hv
    cases hv with
    | integer hi =>
      cases h
      exact Number.isIntegral_iff.mpr ⟨_, hi⟩
    | string | number | boolean | array | object =>
      cases h
      rfl

/-- A field that is named by a text is among the required ones exactly when the text is. -/
theorem any_same_eq_true_iff {names : List String} {field : Key} :
    (names.map Value.string).any (fun name => name.key?.any (·.same field)) = true ↔
      ∃ name ∈ names, field = .name name := by
  simp [Value.key?, Value.same_name, @eq_comm Key field]

/-- What the gate says of a declared field that is there and states a known type. -/
theorem fieldError_eq_ite {required : List Value} {entries node : Value.Entries} {field : Key}
    {type : String} {kind : Kind} {w : Value}
    (htype : Value.lookup (.name "type") node = some (.string type))
    (hkind : kinds.lookup type = some kind) (hw : Value.lookup field entries = some w) :
    fieldError required entries field (.object node) =
      if w = .null ∧ ¬ required.any (fun name => name.key?.any (·.same field)) then none
      else if w ≠ .null ∧ kind.admits w then none
      else some s!"Field \"{field.plain}\" has wrong type: expected {type}, got {w.typeName}" := by
  unfold fieldError
  rw [Value.get?, htype, hw]
  simp only [Value.string?, Option.bind_eq_bind, Option.bind_some, hkind]

/-- The gate has nothing to say of a field that is absent or states no known type. -/
theorem fieldError_eq_none_of_forall {required : List Value} {entries node : Value.Entries}
    {field : Key}
    (h : ∀ type ∈ knownTypes, Value.lookup (.name "type") node = some (.string type) →
      Value.lookup field entries = none) :
    fieldError required entries field (.object node) = none := by
  unfold fieldError
  rw [Value.get?]
  cases hw : Value.lookup field entries with
  | none => rfl
  | some w =>
    cases htype : Value.lookup (.name "type") node with
    | none => rfl
    | some t =>
      cases t with
      | string type =>
        have hunknown : kinds.lookup type = none := by
          rw [lookup_kinds_eq_none_iff]
          intro hknown
          rw [h type hknown htype] at hw
          cases hw
        simp [Value.string?, hunknown]
      | _ => rfl

theorem fieldError_eq_none_iff {names : List String} {entries node : Value.Entries} {field : Key} :
    fieldError (names.map .string) entries field (.object node) = none ↔
      FieldFits names entries field node := by
  by_cases h : ∃ type kind w, kinds.lookup type = some kind ∧
      Value.lookup (.name "type") node = some (.string type) ∧
      Value.lookup field entries = some w
  · obtain ⟨type, kind, w, hkind, htype, hw⟩ := h
    have hknown : type ∈ knownTypes := by
      by_contra hnot
      rw [lookup_kinds_eq_none_iff.mpr hnot] at hkind
      cases hkind
    have hfits : FieldFits names entries field node ↔
        OfType type w ∨ (w = .null ∧ ∀ name ∈ names, field ≠ .name name) := by
      constructor
      · intro hfits
        exact hfits type hknown htype w hw
      · intro hfits other _ hother w' hw'
        rw [htype] at hother
        rw [hw] at hw'
        cases hother
        cases hw'
        exact hfits
    rw [hfits, fieldError_eq_ite htype hkind hw, ← admits_iff_ofType hkind]
    simp only [any_same_eq_true_iff]
    by_cases hnull : w = .null
    · have hadmits := admits_null_of_lookup hkind
      simp [hnull, hadmits]
    · simp [hnull]
  · have hquiet : ∀ type ∈ knownTypes, Value.lookup (.name "type") node = some (.string type) →
        Value.lookup field entries = none := by
      intro type hknown htype
      cases hkind : kinds.lookup type with
      | none => exact absurd hknown (lookup_kinds_eq_none_iff.mp hkind)
      | some kind =>
        by_contra hthere
        obtain ⟨w, hw⟩ := Option.ne_none_iff_exists'.mp hthere
        exact h ⟨type, kind, w, hkind, htype, hw⟩
    refine iff_of_true (fieldError_eq_none_of_forall hquiet) ?_
    intro type hknown htype w hw
    rw [hquiet type hknown htype] at hw
    cases hw

/-! ## Required names -/

/-- Texts can be looked up and told, so the gate finds out whether one of them is missing. -/
theorem missingError_eq_none_iff {names : List String} {entries : Value.Entries}
    (hentries : ∀ e ∈ entries, ∃ s, e.1 = Key.name s) :
    missingError entries (names.map .string) = .ok none ↔
      ∀ name ∈ names, ∃ w, Value.lookup (.name name) entries = some w := by
  induction names with
  | nil => exact iff_of_true rfl (by simp)
  | cons name names ih =>
    rw [List.map_cons, missingError, List.forall_mem_cons, ← ih]
    have hkey := isKeyOf_string hentries name
    cases hw : Value.lookup (.name name) entries with
    | none => simp [unkeyedKind, hkey, hw, Value.isShowable, pure, Except.pure]
    | some w => simp [unkeyedKind, hkey, hw]

end Gate

theorem Value.isNonEmptyObject_iff {v : Value} :
    v.isNonEmptyObject = true ↔ ∃ entries, v = .object entries ∧ entries ≠ [] := by
  unfold isNonEmptyObject
  split
  · simp
  · rename_i hother
    refine iff_of_false (by simp) ?_
    rintro ⟨entries, rfl, hne⟩
    obtain ⟨e, es, rfl⟩ := List.exists_cons_of_ne_nil hne
    exact hother e es rfl

namespace Gate

/-! ## Verdicts -/

section Verdicts

variable {schema : Value.Entries} {names : List String} {fields? : Option Fields}
  (h : States schema names fields?)

include h

theorem States.statedNames_eq : statedNames schema = names.map .string := by
  unfold statedNames Value.getD
  rcases h.required with hlookup | ⟨hlookup, rfl⟩
  all_goals
    rw [hlookup]
    rfl

theorem States.not_stops {v : Value} {fault : GateFault} : ¬ Stops schema v fault := by
  apply not_stops_of_forall
  intro name hname
  rw [h.statedNames_eq] at hname
  obtain ⟨text, -, rfl⟩ := List.mem_map.mp hname
  exact ⟨rfl, rfl⟩

/-- With properties stated, the gate lets a candidate through that passes the rule. -/
theorem rejection_eq_none_iff {fields : Fields} (hfields : fields? = some fields) {v : Value}
    (hv : v.isJson = true) :
    rejection false (.written (.object schema)) v = .ok none ↔ Passes names fields v := by
  have hstated := h.statedNames_eq
  have hproperties := h.properties
  rw [hfields, Option.map_some] at hproperties
  cases hreason : structureError v with
  | some error =>
    rw [rejection_of_structureError hreason]
    refine iff_of_false (by simp) ?_
    rintro ⟨entries, rfl, hne, -⟩
    obtain ⟨e, es, rfl⟩ := List.exists_cons_of_ne_nil hne
    cases hreason
  | none =>
    obtain ⟨entries, rfl, hne⟩ := exists_entries_of_structureError hreason
    have hentries : ∀ e ∈ entries, ∃ s, e.1 = Key.name s :=
      fun e he => (Value.isJson_object.mp hv e he).1
    have hpasses : Passes names fields (.object entries) ↔
        missingError entries (statedNames schema) = .ok none ∧
          ∀ field ∈ fields, fieldError (statedNames schema) entries field.1 (.object field.2) =
            none := by
      rw [hstated, missingError_eq_none_iff hentries]
      simp [Passes, fieldError_eq_none_iff, hne]
    rw [rejection_written schema hne, schemaError_object, hproperties, hpasses]
    cases hmissing : missingError entries (statedNames schema) with
    | error fault => simp [bind, Except.bind]
    | ok error =>
      cases error with
      | some error => simp [bind, Except.bind, pure, Except.pure]
      | none =>
        simp only [bind, Except.bind, pure, Except.pure, Except.ok.injEq, true_and]
        rw [List.findSome?_eq_none_iff, List.forall_mem_map]

omit h in
/-- Without properties, entries are all that the gate asks for. -/
theorem rejection_eq_none_of_unstated
    (hnone : Value.lookup (.name "properties") schema = none) {v : Value} :
    rejection false (.written (.object schema)) v = .ok none ↔ v.isNonEmptyObject = true := by
  cases hreason : structureError v with
  | some error =>
    rw [rejection_of_structureError hreason]
    refine iff_of_false (by simp) ?_
    intro hobject
    obtain ⟨entries, rfl, hne⟩ := Value.isNonEmptyObject_iff.mp hobject
    obtain ⟨e, es, rfl⟩ := List.exists_cons_of_ne_nil hne
    cases hreason
  | none =>
    have hobject := exists_entries_of_structureError hreason
    refine iff_of_true ?_ (Value.isNonEmptyObject_iff.mpr hobject)
    obtain ⟨entries, rfl, hne⟩ := hobject
    rw [rejection_written schema hne, schemaError_object, hnone]

end Verdicts

end Gate

/-! ## Batches -/

open Classical in
/-- The objects with entries are those that pass a rule without fields only where each of them holds
the required names. -/
theorem Gate.filter_isNonEmptyObject_iff {names : List String} {batch : List Value} :
    batch.filter Value.isNonEmptyObject = batch.filter (Gate.Passes names []) ↔
      ∀ entries, entries ≠ [] → .object entries ∈ batch →
        ∀ name ∈ names, ∃ w, Value.lookup (.name name) entries = some w := by
  constructor
  · intro hfilter entries hne hmem
    have hpasses : .object entries ∈ batch.filter (Gate.Passes names []) := by
      rw [← hfilter, List.mem_filter]
      exact ⟨hmem, Value.isNonEmptyObject_iff.mpr ⟨entries, rfl, hne⟩⟩
    obtain ⟨entries', hentries, -, hthere, -⟩ := of_decide_eq_true (List.mem_filter.mp hpasses).2
    cases hentries
    exact hthere
  · intro hthere
    apply List.filter_congr
    intro v hv
    rw [Bool.eq_iff_iff, decide_eq_true_iff, Value.isNonEmptyObject_iff]
    constructor
    · rintro ⟨entries, rfl, hne⟩
      exact ⟨entries, rfl, hne, hthere entries hne hv, by simp⟩
    · rintro ⟨entries, rfl, hne, -⟩
      exact ⟨entries, rfl, hne⟩

open Classical in
/-- With a schema that requires some names and declares some fields, every batch is screened to the
end. The valid candidates are those that pass the rule, if the schema states properties. If it
states none, they are the objects with entries, and these are the ones that pass the rule only where
each of them holds the required names. -/
theorem screen_valid_iff {schema : Value.Entries} {names : List String}
    {fields? : Option Gate.Fields} {batch : List Value} (h : Gate.States schema names fields?)
    (hbatch : ∀ v ∈ batch, v.isJson = true) :
    ∃ r, (screen false (.written (.object schema)) batch).toExcept = .ok r ∧
      (r.valid = batch.filter (Gate.Passes names (fields?.getD [])) ↔
        fields?.isSome ∨ ∀ entries, entries ≠ [] → .object entries ∈ batch →
          ∀ name ∈ names, ∃ w, Value.lookup (.name name) entries = some w) ∧
      (fields? = none → r.valid = batch.filter Value.isNonEmptyObject) := by
  have hverdicts : ∀ v ∈ batch, ∃ verdict,
      Gate.rejection false (.written (.object schema)) v = .ok verdict := by
    intro v _
    exact Gate.exists_verdict_iff.mpr fun fault => h.not_stops
  obtain ⟨r, hscreened⟩ := Screened.exists_of_forall hverdicts 0
  refine ⟨r, toExcept_screen_eq_ok_iff.mpr hscreened, ?_⟩
  cases hfields : fields? with
  | some fields =>
    have hvalid : r.valid = batch.filter (Gate.Passes names fields) := by
      apply hscreened.valid_eq_filter
      intro v hv
      rw [decide_eq_true_iff]
      exact Gate.rejection_eq_none_iff h hfields (hbatch v hv)
    simp [hvalid]
  | none =>
    have hnone : Value.lookup (.name "properties") schema = none := by
      rw [h.properties, hfields]
      rfl
    have hvalid : r.valid = batch.filter Value.isNonEmptyObject := by
      apply hscreened.valid_eq_filter
      intro v _
      exact Gate.rejection_eq_none_of_unstated hnone
    refine ⟨?_, fun _ => hvalid⟩
    rw [hvalid, Option.getD_none, Gate.filter_isNonEmptyObject_iff]
    simp

/-- The fields of a schema that counts something, with a note. -/
def countFields : Gate.Fields :=
  [(.name "count", Value.named [("type", .string "integer")]),
    (.name "note", Value.named [("type", .string "string")])]

/-- A schema that requires the count and leaves the note free. -/
def countSchema : Value.Entries :=
  Value.named [("type", .string "object"), ("required", .strings ["count"]),
    ("properties", .record [("count", .record [("type", .string "integer")]),
      ("note", .record [("type", .string "string")])])]

/-- A whole number that is written as a float, with no note. -/
def wholeCount : Value :=
  .record [("count", .number (.float (.finite (.ofInt 2)))), ("note", .null)]

/-- A valid candidate among a truth value, `null` and a note in place of the count. -/
def countBatch : List Value :=
  [.record [("count", .bool true)], wholeCount, .record [("count", .null)],
    .record [("note", .string "x")]]

open Classical in
theorem screen_valid_iff_count :
    Gate.States countSchema ["count"] (some countFields) ∧ (∀ v ∈ countBatch, v.isJson = true) ∧
      ∃ r, (screen false (.written (.object countSchema)) countBatch).toExcept = .ok r ∧
        r.valid = [wholeCount] ∧
        r.valid = countBatch.filter (Gate.Passes ["count"] countFields) := by
  have hstates : Gate.States countSchema ["count"] (some countFields) := ⟨.inl rfl, rfl⟩
  have hjson : ∀ v ∈ countBatch, v.isJson = true := by decide
  obtain ⟨r, hr, hvalid, -⟩ := screen_valid_iff hstates hjson
  refine ⟨hstates, hjson, r, hr, ?_, hvalid.mpr (.inl rfl)⟩
  cases hr
  rfl

/-- A schema that requires a name and states no properties. -/
def requiringSchema : Value.Entries :=
  Value.named [("type", .string "object"), ("required", .strings ["a"])]

/-- A candidate with another name. -/
def strayCandidate : Value := .record [("b", .int 1)]

/-- A candidate that lacks the required name is let through where no properties are stated. -/
theorem screen_required_only :
    Gate.States requiringSchema ["a"] none ∧ strayCandidate.isJson = true ∧
      ∃ r, (screen false (.written (.object requiringSchema)) [strayCandidate]).toExcept = .ok r ∧
        r.valid = [strayCandidate] ∧ ¬ Gate.Passes ["a"] [] strayCandidate := by
  refine ⟨⟨.inl rfl, rfl⟩, rfl, _, rfl, rfl, ?_⟩
  rintro ⟨entries, hentries, -, hthere, -⟩
  cases hentries
  obtain ⟨w, hw⟩ := hthere "a" List.mem_cons_self
  cases hw

end ExtractionSchema
