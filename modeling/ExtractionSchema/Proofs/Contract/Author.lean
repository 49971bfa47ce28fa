import ExtractionSchema.Contract.Author
import ExtractionSchema.Proofs.Contract.Acceptance
import ExtractionSchema.Proofs.Number.Exact
import ExtractionSchema.Property.Basic

/-!
# When an author schema is accepted

A definition is accepted when it is an object of type `object` whose properties, if it states any,
are an object, when every property is an object with fitting guidance, and when the whole is not too
large. Guidance is looked up key by key, so what is asked of a property depends on nothing but the
values under a few keys.

* `GuidesUnder` says what may stand under which key, and `Guides` that entries follow it.
* `checkAuthorSchema_eq_ok_iff`: a definition passes the check exactly when it is `Authored` and
  within the size limit.
-/

namespace ExtractionSchema

/-! ## Guidance -/

/-- The values that the output of an example may have: all that a document can hold, but `null`. -/
def Value.isOutput : Value → Bool
  | .string _ | .number _ | .bool _ | .object _ | .list _ => true
  | _ => false

/-- An example is an object with a text as its input, and with an output. -/
def IsExample (v : Value) : Prop :=
  ∃ es, v = .object es ∧ (∃ s, Value.lookup (.name "input") es = some (.string s)) ∧
    ∃ w, Value.lookup (.name "output") es = some w ∧ w.isOutput = true

/-- The keys of guidance. -/
inductive GuidanceKey where
  | importance
  | displayName
  | instructions
  | order
  | examples

/-- The key as it is written. -/
def GuidanceKey.name : GuidanceKey → String
  | .importance => "importance"
  | .displayName => "displayName"
  | .instructions => "extractionInstructions"
  | .order => "order"
  | .examples => "examples"

/-- What may stand under the keys of guidance. -/
inductive GuidesUnder : GuidanceKey → Value → Prop
  | importance {level : Importance} : GuidesUnder .importance (.string level.name)
  | displayName {s : String} : GuidesUnder .displayName (.string s)
  | instructions {s : String} : GuidesUnder .instructions (.string s)
  | order {n : Number} {i : Int} (hn : n.toInt? = some i) (hi : 0 ≤ i) :
    GuidesUnder .order (.number n)
  | examples {items : List Value} (h : ∀ item ∈ items, IsExample item) :
    GuidesUnder .examples (.list items)

/-- Whatever stands under a key of guidance may stand there. -/
def Guides (es : Value.Entries) : Prop :=
  ∀ key : GuidanceKey, ∀ w, Value.lookup (.name key.name) es = some w → GuidesUnder key w

/-! ## What the rules of guidance ask -/

theorem kinds_object_eq_nil_iff {v : Value} :
    (Rule.kinds [.object]).violations v = [] ↔ ∃ es, v = .object es := by
  rw [Rule.kinds_eq_nil_iff]
  cases v <;> simp [Kind.admits]

theorem kinds_string_eq_nil_iff {v : Value} :
    (Contract.rules [.kinds [.string]]).violations v = [] ↔ ∃ s, v = .string s := by
  rw [Contract.violations_eq_nil_iff, List.forall_mem_singleton, Rule.kinds_eq_nil_iff]
  cases v <;> simp [Kind.admits]

theorem output_eq_nil_iff {v : Value} :
    (Contract.rules [.kinds [.string, .number, .boolean, .object, .array]]).violations v = [] ↔
      v.isOutput = true := by
  rw [Contract.violations_eq_nil_iff, List.forall_mem_singleton, Rule.kinds_eq_nil_iff]
  cases v <;> simp [Kind.admits, Value.isOutput]

theorem exampleContract_eq_nil_iff {v : Value} :
    exampleContract.violations v = [] ↔ IsExample v := by
  rw [exampleContract, Contract.violations_eq_nil_iff]
  simp only [List.forall_mem_cons, kinds_object_eq_nil_iff, Rule.required_eq_nil_iff,
    Rule.fields_eq_nil_iff, kinds_string_eq_nil_iff, output_eq_nil_iff]
  constructor
  · rintro ⟨⟨es, rfl⟩, hrequired, hfields, -⟩
    obtain ⟨hinput, houtput, -⟩ := hrequired es rfl
    obtain ⟨htext, hkind, -⟩ := hfields es rfl
    obtain ⟨v, hv⟩ := Option.isSome_iff_exists.mp hinput
    obtain ⟨w, hw⟩ := Option.isSome_iff_exists.mp houtput
    obtain ⟨s, rfl⟩ := htext v hv
    exact ⟨es, rfl, ⟨s, hv⟩, w, hw, hkind w hw⟩
  · rintro ⟨es, rfl, ⟨s, hs⟩, w, hw, hkind⟩
    refine ⟨⟨es, rfl⟩, ?_, ?_, by simp⟩
    · rintro _ ⟨rfl⟩
      simp [Value.has, hs, hw]
    · rintro _ ⟨rfl⟩
      simp [hs, hw, hkind]

theorem importance_eq_nil_iff {v : Value} :
    (Contract.rules [.enum [.string "high", .string "medium", .string "low"]]).violations v = [] ↔
      GuidesUnder .importance v := by
  rw [Contract.violations_eq_nil_iff, List.forall_mem_singleton, Rule.enum_eq_nil_iff]
  constructor
  · rintro ⟨w, hw, hequals⟩
    simp only [List.mem_cons, List.not_mem_nil, or_false] at hw
    cases v with
    | string s =>
      rcases hw with rfl | rfl | rfl
      · rw [← of_decide_eq_true hequals]
        exact @GuidesUnder.importance .high
      · rw [← of_decide_eq_true hequals]
        exact @GuidesUnder.importance .medium
      · rw [← of_decide_eq_true hequals]
        exact @GuidesUnder.importance .low
    | _ => rcases hw with rfl | rfl | rfl <;> cases hequals
  · intro hguides
    cases hguides with
    | @importance level =>
      refine ⟨.string level.name, ?_, decide_eq_true rfl⟩
      cases level <;> simp [Importance.name]

theorem order_eq_nil_iff {v : Value} :
    (Contract.rules [.kinds [.integer], .minimum (.int 0)]).violations v = [] ↔
      GuidesUnder .order v := by
  simp only [Contract.violations_eq_nil_iff, List.forall_mem_cons, Rule.kinds_eq_nil_iff,
    Rule.minimum_eq_nil_iff]
  have hsign : ∀ {n : Number} {i : Int}, n.toInt? = some i → (n.lt (.int 0) = false ↔ 0 ≤ i) := by
    intro n i hn
    have hzero : (Number.int 0).value? = some (.point 0) := rfl
    rw [← Bool.not_eq_true, Number.lt_iff, Number.value?_of_toInt? hn, hzero]
    simp only [Option.some.injEq, exists_and_left, exists_eq_left', Line.point_lt_point, Rat.not_lt]
    exact Rat.intCast_nonneg
  constructor
  · rintro ⟨hkind, hmin, -⟩
    cases v with
    | number n =>
      have hintegral : n.isIntegral = true := by simpa [Kind.admits] using hkind
      obtain ⟨i, hn⟩ := Option.isSome_iff_exists.mp hintegral
      exact .order hn ((hsign hn).mp (hmin n rfl))
    | _ => simp [Kind.admits] at hkind
  · intro hguides
    cases hguides with
    | @order n i hn hi =>
      refine ⟨⟨.integer, by simp, ?_⟩, ?_, by simp⟩
      · simp [Kind.admits, Number.isIntegral, hn]
      · rintro _ ⟨rfl⟩
        exact (hsign hn).mpr hi

theorem examples_eq_nil_iff {v : Value} :
    (Contract.rules [.kinds [.array], .items exampleContract]).violations v = [] ↔
      GuidesUnder .examples v := by
  simp only [Contract.violations_eq_nil_iff, List.forall_mem_cons, Rule.kinds_eq_nil_iff,
    Rule.items_eq_nil_iff, exampleContract_eq_nil_iff]
  constructor
  · rintro ⟨hkind, hitems, -⟩
    cases v with
    | list items => exact .examples (hitems items rfl)
    | _ => simp [Kind.admits] at hkind
  · intro hguides
    cases hguides with
    | examples hitems =>
      refine ⟨by simp [Kind.admits], ?_, by simp⟩
      rintro _ ⟨rfl⟩
      exact hitems

theorem text_eq_nil_iff {key : GuidanceKey} (hkey : key = .displayName ∨ key = .instructions)
    {v : Value} :
    (Contract.rules [.kinds [.string]]).violations v = [] ↔ GuidesUnder key v := by
  rw [kinds_string_eq_nil_iff]
  constructor
  · rintro ⟨s, rfl⟩
    rcases hkey with rfl | rfl
    · exact .displayName
    · exact .instructions
  · intro hguides
    rcases hkey with rfl | rfl
    all_goals
      cases hguides
      exact ⟨_, rfl⟩

/-- A property fits exactly when it is an object that follows its guidance. -/
theorem fieldContract_eq_nil_iff {v : Value} :
    fieldContract.violations v = [] ↔ ∃ es, v = .object es ∧ Guides es := by
  rw [fieldContract, Contract.violations_eq_nil_iff]
  simp only [List.forall_mem_cons, kinds_object_eq_nil_iff, Rule.fields_eq_nil_iff]
  constructor
  · rintro ⟨⟨es, rfl⟩, hfields, -⟩
    obtain ⟨h1, h2, h3, h4, h5, -⟩ := hfields es rfl
    refine ⟨es, rfl, ?_⟩
    intro key w hw
    cases key with
    | importance => exact importance_eq_nil_iff.mp (h1 w hw)
    | displayName => exact (text_eq_nil_iff (.inl rfl)).mp (h2 w hw)
    | instructions => exact (text_eq_nil_iff (.inr rfl)).mp (h3 w hw)
    | order => exact order_eq_nil_iff.mp (h4 w hw)
    | examples => exact examples_eq_nil_iff.mp (h5 w hw)
  · rintro ⟨es, rfl, hguides⟩
    refine ⟨⟨es, rfl⟩, ?_, by simp⟩
    rintro _ ⟨rfl⟩
    refine ⟨?_, ?_, ?_, ?_, ?_, by simp⟩
    · intro w hw
      exact importance_eq_nil_iff.mpr (hguides .importance w hw)
    · intro w hw
      exact (text_eq_nil_iff (.inl rfl)).mpr (hguides .displayName w hw)
    · intro w hw
      exact (text_eq_nil_iff (.inr rfl)).mpr (hguides .instructions w hw)
    · intro w hw
      exact order_eq_nil_iff.mpr (hguides .order w hw)
    · intro w hw
      exact examples_eq_nil_iff.mpr (hguides .examples w hw)

/-! ## Definitions -/

/-- A definition states its type as that of objects, its properties are an object, and every
property is an object with fitting guidance. -/
def Authored (definition : Value) : Prop :=
  ∃ es, definition = .object es ∧ Value.lookup (.name "type") es = some (.string "object") ∧
    ∀ v, Value.lookup (.name "properties") es = some v →
      ∃ children, v = .object children ∧
        ∀ child ∈ children, ∃ fields, child.2 = .object fields ∧ Guides fields

theorem violations_eq_nil_iff_authored {definition : Value} :
    outerContract.violations definition = [] ∧ guidanceContract.violations definition = [] ↔
      Authored definition := by
  rw [outerContract, guidanceContract, Contract.violations_eq_nil_iff,
    Contract.violations_eq_nil_iff]
  simp only [List.forall_mem_cons, kinds_object_eq_nil_iff, Rule.required_eq_nil_iff,
    Rule.fields_eq_nil_iff, Contract.violations_eq_nil_iff, Rule.everyField_eq_nil_iff,
    fieldContract_eq_nil_iff, Rule.enum_eq_nil_iff]
  constructor
  · rintro ⟨⟨⟨es, rfl⟩, hrequired, houter, -⟩, -, hguidance, -⟩
    obtain ⟨htype, -⟩ := hrequired es rfl
    obtain ⟨hallowed, -⟩ := houter es rfl
    obtain ⟨hfields, -⟩ := hguidance es rfl
    obtain ⟨type, htype⟩ := Option.isSome_iff_exists.mp htype
    refine ⟨es, rfl, ?_, ?_⟩
    · obtain ⟨⟨w, hw, hequals⟩, -⟩ := hallowed type htype
      rw [List.mem_singleton.mp hw] at hequals
      cases type with
      | string s => rw [htype, ← of_decide_eq_true hequals]
      | _ => cases hequals
    · intro v hv
      obtain ⟨⟨children, rfl⟩, hchildren, -⟩ := hfields v hv
      exact ⟨children, rfl, hchildren children rfl⟩
  · rintro ⟨es, rfl, htype, hproperties⟩
    refine ⟨⟨⟨es, rfl⟩, ?_, ?_, by simp⟩, ⟨es, rfl⟩, ?_, by simp⟩
    · rintro _ ⟨rfl⟩
      simp [Value.has, htype]
    · rintro _ ⟨rfl⟩
      refine ⟨?_, ?_, by simp⟩
      · intro w hw
        rw [htype] at hw
        cases hw
        exact ⟨⟨_, List.mem_singleton_self _, decide_eq_true rfl⟩, by simp⟩
      · intro w hw
        obtain ⟨children, rfl, -⟩ := hproperties w hw
        exact ⟨⟨children, rfl⟩, by simp⟩
    · rintro _ ⟨rfl⟩
      refine ⟨?_, by simp⟩
      intro w hw
      obtain ⟨children, rfl, hchildren⟩ := hproperties w hw
      refine ⟨⟨children, rfl⟩, ?_, by simp⟩
      rintro _ ⟨rfl⟩
      exact hchildren

theorem issuesOf_eq_nil_iff {c : Contract} {definition : Value} :
    issuesOf c definition = [] ↔ c.violations definition = [] := by
  rw [issuesOf, List.map_eq_nil_iff, ← List.length_eq_zero_iff, List.length_mergeSort,
    List.length_eq_zero_iff]

theorem authorIssues_eq_nil_iff {settings : Settings} {definition : Value} :
    authorIssues settings definition = [] ↔
      Authored definition ∧ definition.serializedSize ≤ settings.maxSchemaSize := by
  rw [← violations_eq_nil_iff_authored, ← issuesOf_eq_nil_iff, ← issuesOf_eq_nil_iff]
  simp only [authorIssues, List.append_eq_nil_iff]
  by_cases hsize : settings.maxSchemaSize < definition.serializedSize
  · simp [hsize]
  · have hle : definition.serializedSize ≤ settings.maxSchemaSize := by omega
    by_cases houter : issuesOf outerContract definition = []
    · simp [hsize, hle, houter]
    · simp [houter]

/-- The check has no say of its own on a definition that is missing or empty: it has no type. -/
theorem checkAuthorSchema_eq_ok_iff {settings : Settings} {definition : Value} :
    checkAuthorSchema settings definition = .ok () ↔
      Authored definition ∧ definition.serializedSize ≤ settings.maxSchemaSize := by
  rw [← authorIssues_eq_nil_iff]
  constructor
  · intro h
    unfold checkAuthorSchema at h
    split at h
    · cases h
    · cases h
    · split at h
      · assumption
      · cases h
  · intro h
    obtain ⟨⟨es, rfl, htype, -⟩, -⟩ := authorIssues_eq_nil_iff.mp h
    cases es with
    | nil => cases htype
    | cons e es =>
      unfold checkAuthorSchema
      rw [h]

/-- Nothing stands in the way of telling that nothing is wrong. -/
theorem authorObstacle_eq_none {definition : Value} (h : Authored definition) :
    authorObstacle definition = none := by
  obtain ⟨houter, hguidance⟩ := violations_eq_nil_iff_authored.mpr h
  simp [authorObstacle, Contract.obstacle, houter, hguidance]

end ExtractionSchema
