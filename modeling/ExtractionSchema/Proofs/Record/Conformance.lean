import ExtractionSchema.Proofs.Contract.Acceptance
import ExtractionSchema.Proofs.Value.Equality
import ExtractionSchema.Proofs.Wire.Literals

/-!
# Records that conform to a tree

Whether a record conforms to a tree can be told from the nodes of the tree themselves, without a
contract: a node asks for a value of its type that keeps its constraints and is one of its allowed
values, and its parts ask the same of the parts of the value. A field that is not required may also
be `null`.

* `Wire.Node.Conforms` says this by recursion on the nodes.
* `Wire.Tree.validate_iff_conforms`: validation, acceptance and the search for a first mismatch all
  decide it.
-/

namespace ExtractionSchema

/-! ## Dates and bounds -/

/-- A text of the form of a date: four digits, a hyphen, two digits, a hyphen and two digits. -/
def IsDateForm (s : String) : Prop :=
  ∃ year month day : List Char, year.length = 4 ∧ month.length = 2 ∧ day.length = 2 ∧
    (∀ c ∈ year ++ month ++ day, '0' ≤ c ∧ c ≤ '9') ∧
    s.toList = year ++ '-' :: month ++ '-' :: day

theorem isDateChars_iff {cs : List Char} :
    isDateChars cs = true ↔ ∃ year month day : List Char,
      year.length = 4 ∧ month.length = 2 ∧ day.length = 2 ∧
        (∀ c ∈ year ++ month ++ day, '0' ≤ c ∧ c ≤ '9') ∧
        cs = year ++ '-' :: month ++ '-' :: day := by
  constructor
  · intro hdate
    unfold isDateChars at hdate
    split at hdate
    · rename_i y₁ y₂ y₃ y₄ h₁ m₁ m₂ h₂ d₁ d₂
      rw [Bool.and_eq_true, Bool.and_eq_true, decide_eq_true_eq, decide_eq_true_eq] at hdate
      obtain ⟨⟨hdigits, rfl⟩, rfl⟩ := hdate
      refine ⟨[y₁, y₂, y₃, y₄], [m₁, m₂], [d₁, d₂], rfl, rfl, rfl, ?_, rfl⟩
      intro c hc
      have hdigit := List.all_eq_true.mp hdigits c hc
      simpa [isAsciiDigit] using hdigit
    · cases hdate
  · rintro ⟨year, month, day, hyear, hmonth, hday, hdigits, rfl⟩
    obtain ⟨y₁, y₂, y₃, y₄, rfl⟩ : ∃ a b c d, year = [a, b, c, d] := by
      rcases year with _ | ⟨a, _ | ⟨b, _ | ⟨c, _ | ⟨d, _ | _⟩⟩⟩⟩ <;> simp at hyear
      exact ⟨a, b, c, d, rfl⟩
    obtain ⟨m₁, m₂, rfl⟩ := List.length_eq_two.mp hmonth
    obtain ⟨d₁, d₂, rfl⟩ := List.length_eq_two.mp hday
    have hall : [y₁, y₂, y₃, y₄, m₁, m₂, d₁, d₂].all isAsciiDigit = true := by
      rw [List.all_eq_true]
      intro c hc
      simpa [isAsciiDigit] using hdigits c hc
    simp [isDateChars, hall]

theorem isDateText_iff {s : String} : isDateText s = true ↔ IsDateForm s := isDateChars_iff

/-- Both numbers have values, and that of the first is less. -/
def Number.Below (m n : Number) : Prop := ∃ a b, m.value? = some a ∧ n.value? = some b ∧ a < b

theorem Number.lt_eq_false_iff {m n : Number} : m.lt n = false ↔ ¬ m.Below n := by
  rw [← Bool.not_eq_true, Number.lt_iff]
  rfl

namespace Wire

/-! ## Conformance -/

/-- A value of a primitive type. An integer is a number whose value is an integer. -/
def Primitive.Holds : Primitive → Value → Prop
  | .string, v => ∃ s, v = .string s
  | .number, v => ∃ n, v = .number n
  | .integer, v => ∃ n, v = .number n ∧ ∃ i : Int, n.value? = some (.point i)
  | .boolean, v => ∃ b, v = .bool b

/-- A value that keeps the constraints of a primitive node. Lengths are counted in characters, and
numbers are compared by value. -/
def Bounds.Hold (limits : Bounds) : Primitive → Value → Prop
  | .string, v => ∀ s, v = .string s →
    (limits.format = some dateFormat → IsDateForm s) ∧
      (∀ least ∈ limits.minLength, least ≤ s.toList.length) ∧
      ∀ most ∈ limits.maxLength, s.toList.length ≤ most
  | .number, v | .integer, v => ∀ m, v = .number m →
    (∀ least ∈ limits.minimum, ¬ m.Below least) ∧ ∀ most ∈ limits.maximum, ¬ most.Below m
  | .boolean, _ => True

/-- A value that is alike one of the allowed values, if some are stated. -/
def Presentation.Lists (about : Presentation) (v : Value) : Prop :=
  ∀ allowed ∈ about.enum, ∃ w ∈ allowed, w.Alike v

mutual

/-- Whether a value conforms to a node that does not admit `null` for itself. -/
def Node.Conforms : Node → Value → Prop
  | .primitive about kind limits, v => kind.Holds v ∧ limits.Hold kind v ∧ about.Lists v
  | .array about items, v =>
    (∃ vs, v = .list vs ∧ ∀ w ∈ vs, items.Conforms w) ∧ about.Lists v
  | .object about properties required additional, v =>
    (∃ entries, v = .object entries ∧
      (∀ name ∈ required, ∃ w, Value.lookup (.name name) entries = some w) ∧
      ChildrenConform required properties entries ∧
      (additional = some false → ∀ e ∈ entries, ∃ child ∈ properties, e.1 = .name child.1)) ∧
      about.Lists v
  | .unknown _ _ _, _ => True

/-- Whether the declared entries that are there conform to their nodes; one that is not required
may be `null`. -/
def ChildrenConform (required : List String) : List (String × Node) → Value.Entries → Prop
  | [], _ => True
  | (name, node) :: rest, entries =>
    (∀ w, Value.lookup (.name name) entries = some w →
      node.Conforms w ∨ (name ∉ required ∧ w = .null)) ∧
      ChildrenConform required rest entries

end

/-! ## Rules of a node -/

variable {about : Presentation} {v : Value} {nullable : Bool}

theorem Primitive.admits_iff {kind : Primitive} : kind.kind.admits v = true ↔ kind.Holds v := by
  cases kind with
  | integer =>
    cases v with
    | number n => simp [Primitive.kind, Kind.admits, Primitive.Holds, Number.isIntegral_iff]
    | _ => simp [Primitive.kind, Kind.admits, Primitive.Holds]
  | _ => cases v <;> simp [Primitive.kind, Kind.admits, Primitive.Holds]

theorem kindRule_eq_nil_iff {kind : Kind} :
    (kindRule kind nullable).violations v = [] ↔
      kind.admits v = true ∨ (nullable = true ∧ v = .null) := by
  have hnull : Kind.null.admits v = true ↔ v = .null := by
    cases v <;> simp [Kind.admits]
  rw [kindRule, Rule.kinds_eq_nil_iff]
  cases nullable <;> simp [hnull]

theorem boundRule_eq_nil_iff {α : Type} {rule : α → Rule} {o : Option α} :
    (∀ r ∈ boundRule rule o, r.violations v = []) ↔ ∀ a ∈ o, (rule a).violations v = [] := by
  cases o <;> simp [boundRule]

theorem boundRules_eq_nil_iff {kind : Primitive} {limits : Bounds} :
    (∀ r ∈ boundRules kind limits, r.violations v = []) ↔ limits.Hold kind v := by
  have hdate : (∀ r ∈ (if limits.format = some dateFormat then [Rule.date] else []),
      r.violations v = []) ↔
        (limits.format = some dateFormat → ∀ s, v = .string s → IsDateForm s) := by
    split
    · rename_i hformat
      simp [Rule.date_eq_nil_iff, isDateText_iff, hformat]
    · rename_i hformat
      simp [hformat]
  cases kind with
  | string =>
    simp only [boundRules, List.forall_mem_append, hdate, boundRule_eq_nil_iff,
      Rule.minLength_eq_nil_iff, Rule.maxLength_eq_nil_iff, Bounds.Hold, String.length_toList]
    constructor
    · rintro ⟨⟨hform, hleast⟩, hmost⟩ s rfl
      exact ⟨fun hformat => hform hformat s rfl, fun n hn => hleast n hn s rfl,
        fun n hn => hmost n hn s rfl⟩
    · intro h
      exact ⟨⟨fun hformat s hs => (h s hs).1 hformat, fun n hn s hs => (h s hs).2.1 n hn⟩,
        fun n hn s hs => (h s hs).2.2 n hn⟩
  | number | integer =>
    simp only [boundRules, List.forall_mem_append, boundRule_eq_nil_iff,
      Rule.minimum_eq_nil_iff, Rule.maximum_eq_nil_iff, Number.lt_eq_false_iff, Bounds.Hold]
    constructor
    · rintro ⟨hleast, hmost⟩ m rfl
      exact ⟨fun n hn => hleast n hn m rfl, fun n hn => hmost n hn m rfl⟩
    · intro h
      exact ⟨fun n hn m hm => (h m hm).1 n hn, fun n hn m hm => (h m hm).2 n hn⟩
  | boolean => simp [boundRules, Bounds.Hold]

theorem enumRule_eq_nil_iff (habout : about.HasDistinctKeys) (hv : v.isDocument = true) :
    (∀ r ∈ enumRule about nullable, r.violations v = []) ↔
      about.Lists v ∨ (nullable = true ∧ v = .null) := by
  cases henum : about.enum with
  | none => simp [enumRule, Presentation.Lists, henum]
  | some allowed =>
    have hallowed : (∃ w ∈ allowed, w.equals v = true) ↔ about.Lists v := by
      simp only [Presentation.Lists, henum, Option.mem_def, Option.some.injEq, forall_eq']
      refine exists_congr fun w => and_congr_right fun hw => ?_
      exact Value.equals_iff_alike w v (habout allowed henum w hw) hv
    have hnull : Value.null.equals v = true ↔ v = .null := by
      cases v <;> simp [Value.equals]
    simp only [enumRule, henum, List.forall_mem_singleton, Rule.enum_eq_nil_iff]
    cases nullable with
    | false => simpa using hallowed
    | true =>
      simp only [if_true, List.mem_append, List.mem_singleton, or_and_right, exists_or, hallowed,
        exists_eq_left, hnull, true_and]

theorem entryRules_eq_nil_iff {names required : List String} {additional : Option Bool} :
    (∀ r ∈ entryRules names required additional, r.violations v = []) ↔
      ∀ entries, v = .object entries →
        (∀ name ∈ required, ∃ w, Value.lookup (.name name) entries = some w) ∧
          (additional = some false → ∀ e ∈ entries, ∃ name ∈ names, e.1 = .name name) := by
  have hrequired : (∀ r ∈ (if required.isEmpty then [] else [Rule.required required]),
      r.violations v = []) ↔ ∀ entries, v = .object entries →
        ∀ name ∈ required, ∃ w, Value.lookup (.name name) entries = some w := by
    cases required with
    | nil => simp
    | cons name rest =>
      simp [Rule.required_eq_nil_iff, Value.has, Option.isSome_iff_exists]
  have hclosed : (∀ r ∈ (if additional = some false then [Rule.closed names] else []),
      r.violations v = []) ↔ ∀ entries, v = .object entries →
        additional = some false → ∀ e ∈ entries, ∃ name ∈ names, e.1 = .name name := by
    by_cases hadditional : additional = some false
    · simp only [hadditional, if_true, List.forall_mem_singleton, Rule.closed_eq_nil_iff,
        forall_true_left]
    · simp [hadditional]
  rw [entryRules, List.forall_mem_append, hrequired, hclosed]
  constructor
  · rintro ⟨h1, h2⟩ entries hv
    exact ⟨h1 entries hv, h2 entries hv⟩
  · intro h
    exact ⟨fun entries hv => (h entries hv).1, fun entries hv => (h entries hv).2⟩

/-! ## Contracts of nodes -/

/-- An array node accepts a value that fits its own rules and whose items fit its items. -/
theorem Node.violations_array_eq_nil_iff {items : Node} :
    ((Node.array about items).contract nullable).violations v = [] ↔
      (kindRule .array nullable).violations v = [] ∧
        (∀ vs, v = .list vs → ∀ w ∈ vs, (items.contract false).violations w = []) ∧
        ∀ r ∈ enumRule about nullable, r.violations v = [] := by
  rw [Node.contract, Contract.violations_eq_nil_iff, List.forall_mem_append,
    List.forall_mem_cons, List.forall_mem_singleton, Rule.items_eq_nil_iff, and_assoc]

/-- An object node accepts a value that fits its own rules and whose entries fit its children. -/
theorem Node.violations_object_eq_nil_iff {properties : Properties} {required : List String}
    {additional : Option Bool} :
    ((Node.object about properties required additional).contract nullable).violations v = [] ↔
      (kindRule .object nullable).violations v = [] ∧
        (∀ entries, v = .object entries → ∀ kid ∈ properties, ∀ w,
          Value.lookup (.name kid.1) entries = some w →
            (kid.2.contract (!required.contains kid.1)).violations w = []) ∧
        (∀ r ∈ entryRules (properties.map (·.1)) required additional, r.violations v = []) ∧
        ∀ r ∈ enumRule about nullable, r.violations v = [] := by
  rw [Node.contract, Contract.violations_eq_nil_iff, List.forall_mem_append,
    List.forall_mem_append, List.forall_mem_cons, List.forall_mem_singleton,
    Rule.fields_eq_nil_iff, childContracts_eq_map]
  simp only [List.forall_mem_map, and_assoc]

mutual

/-- The contract of a node is met by the values that conform to the node, and by `null` where it
is admitted. -/
theorem Node.violations_eq_nil_iff : (node : Node) → node.HasDistinctKeys → ∀ (nullable : Bool) (v),
    v.isDocument = true →
      ((node.contract nullable).violations v = [] ↔
        node.Conforms v ∨ (nullable = true ∧ v = .null))
  | .primitive about kind limits, h, nullable, v, hv => by
    rw [Node.contract, Contract.violations_eq_nil_iff, List.forall_mem_append, List.forall_mem_cons,
      kindRule_eq_nil_iff, boundRules_eq_nil_iff, enumRule_eq_nil_iff h.1 hv,
      Primitive.admits_iff, Node.Conforms]
    -- `null` keeps all constraints, so where it is admitted nothing else can be broken
    have hnull : v = .null → limits.Hold kind v := by
      rintro rfl
      cases kind <;> simp [Bounds.Hold]
    tauto
  | .array about items, h, nullable, v, hv => by
    rw [Node.contract, Contract.violations_eq_nil_iff, List.forall_mem_append, List.forall_mem_cons,
      List.forall_mem_singleton, kindRule_eq_nil_iff, Rule.items_eq_nil_iff,
      enumRule_eq_nil_iff h.1 hv, Node.Conforms]
    cases v with
    | list vs =>
      have hvs := Value.isDocument_list.mp hv
      have hitems : (∀ w ∈ vs, (items.contract false).violations w = []) ↔
          ∀ w ∈ vs, items.Conforms w := by
        refine forall_congr' fun w => imp_congr_right fun hw => ?_
        simpa using Node.violations_eq_nil_iff items h.2 false w (hvs w hw)
      simp [Kind.admits, hitems]
    | null =>
      simp only [Kind.admits]
      tauto
    | _ => simp [Kind.admits]
  | .object about properties required additional, h, nullable, v, hv => by
    rw [Node.contract, Contract.violations_eq_nil_iff, List.forall_mem_append,
      List.forall_mem_append, List.forall_mem_cons,
      List.forall_mem_singleton, kindRule_eq_nil_iff, Rule.fields_eq_nil_iff,
      entryRules_eq_nil_iff, enumRule_eq_nil_iff h.1 hv, Node.Conforms]
    cases v with
    | object entries =>
      have hkids := childContracts_eq_nil_iff required properties h.2 entries hv
      have hnames : (∀ e ∈ entries, ∃ name ∈ properties.map (·.1), e.1 = .name name) ↔
          ∀ e ∈ entries, ∃ child ∈ properties, e.1 = .name child.1 := by
        simp only [List.mem_map, exists_exists_and_eq_and]
      simp only [Value.object.injEq, forall_eq', exists_eq_left', hkids, hnames]
      simp only [Kind.admits, reduceCtorEq, and_false, or_false, true_and]
      tauto
    | null =>
      simp only [Kind.admits]
      tauto
    | _ => simp [Kind.admits]
  | .unknown _ _ _, _, nullable, v, _ => by
    simp [Node.contract, Contract.violations_eq_nil_iff, Node.Conforms]

theorem childContracts_eq_nil_iff (required : List String) : (kids : Properties) →
    AllWithin Presentation.HasDistinctKeys (fun _ => True) kids → ∀ entries,
    (Value.object entries).isDocument = true →
      ((∀ child ∈ childContracts required kids, ∀ w,
        Value.lookup (.name child.1) entries = some w → child.2.violations w = []) ↔
        ChildrenConform required kids entries)
  | [], _, entries, _ => by simp [childContracts, ChildrenConform]
  | (name, node) :: rest, h, entries, hentries => by
    have hrest := childContracts_eq_nil_iff required rest h.2 entries hentries
    rw [childContracts, List.forall_mem_cons, hrest, ChildrenConform]
    -- a child admits `null` exactly when its name is not required
    refine and_congr_left fun _ => forall_congr' fun w => imp_congr_right fun hw => ?_
    have hnode := Node.violations_eq_nil_iff node h.1 (!required.contains name) w
      (Value.isDocument_of_lookup hentries hw)
    simpa using hnode

end

/-! ## Validation -/

/-- Validation, acceptance and the search for a first mismatch decide whether a JSON record conforms
to the tree that was read, and nothing stands in the way of telling the mismatches if all integers
can be shown. -/
theorem Tree.validate_iff_conforms {d record : Value} {t : Tree} (hd : d.hasDistinctKeys = true)
    (h : Tree.ofValue d = .ok t) (hrecord : record.isDocument = true) :
    (validate t.contract record = [] ↔ t.root.Conforms record) ∧
      (t.contract.accepts record = true ↔ t.root.Conforms record) ∧
      (firstMismatch t.contract record = none ↔ t.root.Conforms record) ∧
      (d.isShowable = true → record.isShowable = true → record.hasShortLists = true →
        t.contract.obstacle record = none) := by
  have haccepts : t.contract.accepts record = true ↔ t.root.Conforms record := by
    have hroot := Node.violations_eq_nil_iff t.root (Tree.hasDistinctKeys_of_ofValue hd h) false
      record hrecord
    rw [Contract.accepts_iff, Tree.contract]
    simpa using hroot
  refine ⟨validate_eq_nil_iff.trans haccepts, haccepts, firstMismatch_eq_none_iff.trans haccepts,
    fun hshow hrecordShow hlists => ?_⟩
  exact Contract.obstacle_eq_none (Tree.showable_contract hshow h) hrecordShow hlists

/-- A tree of an integer of two allowed values, a date and a list of short texts. -/
def sampleTree : Value :=
  .record [("type", .string "object"),
    ("properties", .record [
      ("count", .record [("type", .string "integer"), ("minimum", .int 1),
        ("enum", .list [.int 1, .string "one"])]),
      ("due", .record [("type", .string "string"), ("format", .string "date")]),
      ("tags", .record [("type", .string "array"),
        ("items", .record [("type", .string "string"), ("maxLength", .int 3)])])]),
    ("required", .strings ["count"]), ("additionalProperties", .bool false)]

/-- A record of the tree, with a number that is written with a point, and a date left open. -/
def sampleRecord : Value :=
  .record [("count", .number (.float (.finite (.ofInt 1)))), ("due", .null),
    ("tags", .list [.string "new"])]

theorem Tree.validate_iff_conforms_sample :
    ∃ t, Tree.ofValue sampleTree = .ok t ∧ t.root.Conforms sampleRecord ∧
      t.contract.obstacle sampleRecord = none := by
  have htree : sampleTree.hasDistinctKeys = true := by rfl
  have hrecord : sampleRecord.isDocument = true := by rfl
  obtain ⟨-, haccepts, -, hobstacle⟩ := Tree.validate_iff_conforms htree rfl hrecord
  have hlists : sampleRecord.hasShortLists = true := by decide +kernel
  exact ⟨_, rfl, haccepts.mp rfl, hobstacle rfl rfl hlists⟩

end Wire

end ExtractionSchema
