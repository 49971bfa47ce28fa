import ExtractionSchema.Proofs.Contract.Acceptance
import ExtractionSchema.Proofs.Text.Quoted
import ExtractionSchema.Proofs.Wire.Names
import ExtractionSchema.Proofs.Wire.Literals

/-!
# Missing fields

The objects within a record are matched to the object nodes within a tree: the record to the root,
the items of a list to the node of its items, and an entry that is there to the child of its name.
An object misses the required names of its node that it has no entry for. Each is reported once,
with the location of the object and a name after it.

* `MissingField.IsOf` says what is missing, by the matching alone, and `Wire.Node.missing` lists it.
* `Wire.Tree.missing_reported_once`: the reports on required fields are those of what is missing.
  The name in a report is the right one unless the quoted form of another missing name, which is
  required before it, occurs in its own.
-/

namespace ExtractionSchema

/-- A required name that an object lacks: where the object stands, the node that it is matched to,
and the place of the name among those that the node requires. -/
structure MissingField where
  location : List Step
  entries : Value.Entries
  node : Wire.Node
  index : Nat
  name : String

namespace Wire

/-- The names that a node requires. -/
def Node.required : Node → List String
  | .object _ _ required _ => required
  | _ => []

/-- The value at the location within a value is matched to a node within a node. -/
inductive Node.Matches : Node → Value → List Step → Node → Value → Prop
  | here {node : Node} {v : Value} : Matches node v [] node v
  | item {about : Presentation} {items node : Node} {vs : List Value} {i : Nat} {w v : Value}
      {location : List Step} (hitem : vs[i]? = some w) (h : items.Matches w location node v) :
      Matches (.array about items) (.list vs) (.item i :: location) node v
  | child {about : Presentation} {kids : Properties} {required : List String} {more : Option Bool}
      {entries : Value.Entries} {name : String} {kid node : Node} {w v : Value}
      {location : List Step} (hkid : (name, kid) ∈ kids)
      (hlookup : Value.lookup (.name name) entries = some w)
      (h : kid.Matches w location node v) :
      Matches (.object about kids required more) (.object entries) (.name name :: location) node v

end Wire

namespace MissingField

/-- The field is one that the record misses. -/
structure IsOf (root : Wire.Node) (record : Value) (f : MissingField) : Prop where
  matched : root.Matches record f.location f.node (.object f.entries)
  required : f.node.required[f.index]? = some f.name
  absent : Value.lookup (.name f.name) f.entries = none

/-- The field seen from outside: one step further away. -/
def under (step : Step) (f : MissingField) : MissingField :=
  { f with location := step :: f.location }

/-- The violation that the field is. -/
def violation (f : MissingField) : Violation :=
  ⟨f.location, .missing f.name f.node.required, .object f.entries⟩

/-- Whether a name is missing and its quoted form occurs in that of the field's own. -/
def seems (f : MissingField) (name : String) : Bool :=
  !Value.has f.entries name && Text.isWithin (Text.quoted name) (Text.quoted f.name)

/-- The name that the report tells: the first required one that seems to be the field's own. -/
def told (f : MissingField) : Option String := f.node.required.find? f.seems

/-- The report of the field. -/
def report (f : MissingField) : Mismatch :=
  ⟨formatPath (f.location ++ (f.told.map Step.name).toList),
    Text.quoted f.name ++ " is a required property", "required", .null⟩

/-- What tells the field from the others that a record misses. -/
def key (f : MissingField) : List Step × Nat := (f.location, f.index)

end MissingField

namespace Wire

/-! ## All missing fields -/

/-- The names that entries lack, with their places. -/
def lacked (entries : Value.Entries) (required : List String) : List (String × Nat) :=
  required.zipIdx.filter fun entry => !Value.has entries entry.1

/-- What the items of a list miss, each with its index. -/
def missingOfItems (find : Value → List MissingField) : Nat → List Value → List MissingField
  | _, [] => []
  | i, v :: vs => (find v).map (MissingField.under (.item i)) ++ missingOfItems find (i + 1) vs

mutual

/-- What a value misses of a node. -/
def Node.missing : Node → Value → List MissingField
  | .array _ items, v =>
    match v with
    | .list vs => missingOfItems items.missing 0 vs
    | _ => []
  | .object about kids required more, v =>
    match v with
    | .object entries =>
      missingOfChildren kids entries ++ (lacked entries required).map fun entry =>
        ⟨[], entries, .object about kids required more, entry.2, entry.1⟩
    | _ => []
  | .primitive _ _ _, _ | .unknown _ _ _, _ => []

/-- What entries that are there miss of the children of their names. -/
def missingOfChildren : List (String × Node) → Value.Entries → List MissingField
  | [], _ => []
  | (name, node) :: rest, entries =>
    (match Value.lookup (.name name) entries with
      | some v => (node.missing v).map (MissingField.under (.name name))
      | none => []) ++ missingOfChildren rest entries

end

end Wire

/-! ## Violations -/

/-- Whether a violation is that of a missing field. -/
def Violation.isMissing (x : Violation) : Bool :=
  match x.breach with
  | .missing _ _ => true
  | _ => false

theorem Violation.isMissing_under (step : Step) (x : Violation) :
    (x.under step).isMissing = x.isMissing := rfl

theorem filter_isMissing_map_under {step : Step} {xs : List Violation} {fs : List MissingField}
    (h : xs.filter Violation.isMissing = fs.map MissingField.violation) :
    (xs.map (Violation.under step)).filter Violation.isMissing =
      (fs.map (MissingField.under step)).map MissingField.violation := by
  have hcomp : Violation.isMissing ∘ Violation.under step = Violation.isMissing :=
    funext (Violation.isMissing_under step)
  rw [List.filter_map, hcomp, h, List.map_map, List.map_map]
  rfl

/-- Whether a rule asks for entries, of the value or of its parts. -/
def Rule.mayMiss : Rule → Bool
  | .required _ | .fields _ | .everyField _ | .items _ => true
  | _ => false

theorem filter_isMissing_violationUnless {holds : Bool} {breach : Breach} {v : Value}
    (h : Violation.isMissing ⟨[], breach, v⟩ = false) :
    (violationUnless holds breach v).filter Violation.isMissing = [] := by
  cases holds <;> simp [violationUnless, h]

theorem Rule.filter_isMissing_eq_nil {r : Rule} (hr : r.mayMiss = false) (v : Value) :
    (r.violations v).filter Violation.isMissing = [] := by
  cases r with
  | kinds _ | enum _ => exact filter_isMissing_violationUnless rfl
  | closed _ | date | minLength _ | maxLength _ | minimum _ | maximum _ =>
    rw [Rule.violations]
    · cases v <;> first | rfl | exact filter_isMissing_violationUnless rfl
    all_goals simp
  | required _ | fields _ | everyField _ | items _ => cases hr

theorem filter_isMissing_violationsOfRules {rs : List Rule} (h : ∀ r ∈ rs, r.mayMiss = false)
    (v : Value) : (violationsOfRules rs v).filter Violation.isMissing = [] := by
  induction rs with
  | nil => rfl
  | cons r rs ih =>
    rw [List.forall_mem_cons] at h
    rw [violationsOfRules, List.filter_append, r.filter_isMissing_eq_nil h.1, ih h.2]
    rfl

namespace Wire

theorem mayMiss_enumRule (about : Presentation) (nullable : Bool) :
    ∀ r ∈ enumRule about nullable, r.mayMiss = false := by
  unfold enumRule
  cases about.enum <;> simp [Rule.mayMiss]

theorem mayMiss_boundRules (kind : Primitive) (limits : Bounds) :
    ∀ r ∈ boundRules kind limits, r.mayMiss = false := by
  have hbound {α : Type} {rule : α → Rule} (h : ∀ a, (rule a).mayMiss = false) (o : Option α) :
      ∀ r ∈ boundRule rule o, r.mayMiss = false := by
    cases o <;> simp [boundRule, h]
  unfold boundRules
  cases kind with
  | string =>
    simp only [List.forall_mem_append]
    refine ⟨⟨?_, hbound (fun _ => rfl) _⟩, hbound (fun _ => rfl) _⟩
    split <;> simp [Rule.mayMiss]
  | number | integer =>
    simp only [List.forall_mem_append]
    exact ⟨hbound (fun _ => rfl) _, hbound (fun _ => rfl) _⟩
  | boolean => simp

/-- The violations of names that are asked for are those of the names that are lacked. -/
theorem violations_required {about : Presentation} {kids : Properties} {required : List String}
    {more : Option Bool} {entries : Value.Entries} :
    (Rule.required required).violations (.object entries) =
      ((lacked entries required).map fun entry =>
        (⟨[], entries, .object about kids required more, entry.2, entry.1⟩ : MissingField)).map
          MissingField.violation := by
  have hnames : (lacked entries required).map Prod.fst =
      required.filter fun name => !Value.has entries name := by
    have hcomp : (fun entry : String × Nat => !Value.has entries entry.1) =
      (fun name => !Value.has entries name) ∘ Prod.fst := rfl
    rw [lacked, hcomp, ← List.filter_map, List.zipIdx_map_fst]
  rw [Rule.violations, Rule.violationsOfWhole, ← hnames, List.map_map, List.map_map]
  · rfl
  all_goals simp

theorem filter_isMissing_entryRules (names required : List String) (additional : Option Bool)
    (v : Value) :
    (violationsOfRules (entryRules names required additional) v).filter Violation.isMissing =
      ((Rule.required required).violations v).filter Violation.isMissing := by
  have hclosed : (violationsOfRules (if additional = some false then [.closed names] else [])
      v).filter Violation.isMissing = [] := by
    apply filter_isMissing_violationsOfRules
    split <;> simp [Rule.mayMiss]
  rw [entryRules, violationsOfRules_append, List.filter_append, hclosed, List.append_nil]
  cases required with
  | nil => cases v <;> rfl
  | cons name required => simp [violationsOfRules]

theorem filter_isMissing_violationsOfItems {check : Value → List Violation}
    {find : Value → List MissingField}
    (h : ∀ v, (check v).filter Violation.isMissing = (find v).map MissingField.violation)
    (i : Nat) (vs : List Value) :
    (violationsOfItems check i vs).filter Violation.isMissing =
      (missingOfItems find i vs).map MissingField.violation := by
  induction vs generalizing i with
  | nil => rfl
  | cons v vs ih =>
    rw [violationsOfItems, missingOfItems, List.filter_append, List.map_append, ih,
      filter_isMissing_map_under (h v)]

mutual

/-- The violations of required names are those of the missing fields, in their order. -/
theorem Node.filter_isMissing_violations : (node : Node) → ∀ (nullable : Bool) (v : Value),
    ((node.contract nullable).violations v).filter Violation.isMissing =
      (node.missing v).map MissingField.violation
  | .primitive about kind limits, nullable, v => by
    rw [Node.contract, Contract.violations, Node.missing, List.map_nil]
    apply filter_isMissing_violationsOfRules
    rw [List.forall_mem_append, List.forall_mem_cons]
    exact ⟨⟨rfl, mayMiss_boundRules kind limits⟩, mayMiss_enumRule about nullable⟩
  | .unknown _ _ _, _, _ => by
    rw [Node.contract, Contract.violations, Node.missing]
    rfl
  | .array about items, nullable, v => by
    have hkind := Rule.filter_isMissing_eq_nil (r := kindRule .array nullable) rfl v
    have henum := filter_isMissing_violationsOfRules (mayMiss_enumRule about nullable) v
    have hitems : ((Rule.items (items.contract false)).violations v).filter Violation.isMissing =
        ((Node.array about items).missing v).map MissingField.violation := by
      cases v with
      | list vs =>
        rw [Node.missing, Rule.violations]
        exact filter_isMissing_violationsOfItems (items.filter_isMissing_violations false) 0 vs
      | _ => rfl
    rw [Node.contract, Contract.violations, violationsOfRules_append]
    simp only [violationsOfRules, List.append_nil, List.filter_append, hkind, henum, hitems,
      List.nil_append]
  | .object about kids required more, nullable, v => by
    have hkind := Rule.filter_isMissing_eq_nil (r := kindRule .object nullable) rfl v
    have henum := filter_isMissing_violationsOfRules (mayMiss_enumRule about nullable) v
    have hparts : ((Rule.fields (childContracts required kids)).violations v).filter
          Violation.isMissing ++
        ((Rule.required required).violations v).filter Violation.isMissing =
          ((Node.object about kids required more).missing v).map MissingField.violation := by
      cases v with
      | object entries =>
        rw [Node.missing, Rule.violations, List.map_append,
          missingOfChildren_violations required kids entries,
          @violations_required about kids required more entries]
        congr 1
        rw [List.filter_eq_self]
        intro x hx
        simp only [List.mem_map] at hx
        obtain ⟨_, -, rfl⟩ := hx
        rfl
      | _ => rfl
    have hentries := filter_isMissing_entryRules (kids.map (·.1)) required more v
    rw [Node.contract, Contract.violations, violationsOfRules_append, violationsOfRules_append]
    simp only [violationsOfRules, List.append_nil, List.filter_append, hkind, henum, hentries,
      List.nil_append]
    exact hparts

theorem missingOfChildren_violations (required : List String) : (kids : List (String × Node)) →
    ∀ entries, (violationsOfChildren (childContracts required kids) entries).filter
        Violation.isMissing = (missingOfChildren kids entries).map MissingField.violation
  | [], _ => rfl
  | (name, node) :: rest, entries => by
    have hrest := missingOfChildren_violations required rest entries
    have hnode := node.filter_isMissing_violations (!required.contains name)
    rw [childContracts, violationsOfChildren, missingOfChildren, List.filter_append,
      List.map_append, hrest]
    congr 1
    cases Value.lookup (.name name) entries with
    | none => rfl
    | some w => exact filter_isMissing_map_under (hnode w)

end

/-! ## Membership -/

section Membership

variable {about : Presentation} {kids : Properties} {required : List String} {more : Option Bool}
  {entries : Value.Entries} {items : Node} {vs : List Value} {f : MissingField}

theorem isOf_array_iff : f.IsOf (.array about items) (.list vs) ↔
    ∃ i w g, vs[i]? = some w ∧ MissingField.IsOf items w g ∧ f = g.under (.item i) := by
  constructor
  · rintro ⟨hmatched, hrequired, habsent⟩
    obtain ⟨location, object, node, index, name⟩ := f
    cases hmatched with
    | item hitem h => exact ⟨_, _, ⟨_, object, node, index, name⟩, hitem,
        ⟨h, hrequired, habsent⟩, rfl⟩
  · rintro ⟨i, w, g, hitem, ⟨hmatched, hrequired, habsent⟩, rfl⟩
    exact ⟨.item hitem hmatched, hrequired, habsent⟩

theorem isOf_object_iff : f.IsOf (.object about kids required more) (.object entries) ↔
    (∃ kid ∈ kids, ∃ w g, Value.lookup (.name kid.1) entries = some w ∧
      MissingField.IsOf kid.2 w g ∧ f = g.under (.name kid.1)) ∨
    ∃ entry ∈ lacked entries required,
      f = ⟨[], entries, .object about kids required more, entry.2, entry.1⟩ := by
  have hlacked (name : String) (index : Nat) : (name, index) ∈ lacked entries required ↔
      required[index]? = some name ∧ Value.lookup (.name name) entries = none := by
    simp [lacked, List.mem_zipIdx_iff_getElem?, Value.has]
  constructor
  · rintro ⟨hmatched, hrequired, habsent⟩
    obtain ⟨location, object, node, index, name⟩ := f
    cases hmatched with
    | here => exact .inr ⟨(name, index), (hlacked name index).mpr ⟨hrequired, habsent⟩, rfl⟩
    | child hkid hlookup h => exact .inl ⟨_, hkid, _, ⟨_, object, node, index, name⟩, hlookup,
        ⟨h, hrequired, habsent⟩, rfl⟩
  · rintro (⟨kid, hkid, w, g, hlookup, ⟨hmatched, hrequired, habsent⟩, rfl⟩ |
      ⟨⟨name, index⟩, hentry, rfl⟩)
    · exact ⟨.child hkid hlookup hmatched, hrequired, habsent⟩
    · obtain ⟨hrequired, habsent⟩ := (hlacked name index).mp hentry
      exact ⟨.here, hrequired, habsent⟩

/-- Without matching parts, only the names of an object node can be missing. -/
theorem not_isOf {node : Node} {v : Value}
    (harray : ∀ about items vs, node = .array about items → v ≠ .list vs)
    (hobject : ∀ about kids required more entries, node = .object about kids required more →
      v ≠ .object entries) : ¬ f.IsOf node v := by
  rintro ⟨hmatched, hrequired, -⟩
  obtain ⟨location, object, inner, index, name⟩ := f
  cases hmatched with
  | here =>
    cases inner with
    | object about kids required more => exact hobject _ _ _ _ _ rfl rfl
    | _ => simp [Node.required] at hrequired
  | item _ _ => exact harray _ _ _ rfl rfl
  | child _ _ _ => exact hobject _ _ _ _ _ rfl rfl

theorem mem_missingOfItems_iff {find : Value → List MissingField} {i : Nat} :
    f ∈ missingOfItems find i vs ↔
      ∃ j w g, vs[j]? = some w ∧ g ∈ find w ∧ f = g.under (.item (i + j)) := by
  induction vs generalizing i with
  | nil => simp [missingOfItems]
  | cons v vs ih =>
    rw [missingOfItems, List.mem_append, ih, List.mem_map]
    constructor
    · rintro (⟨g, hg, rfl⟩ | ⟨j, w, g, hw, hg, rfl⟩)
      · exact ⟨0, v, g, rfl, hg, rfl⟩
      · refine ⟨j + 1, w, g, hw, hg, ?_⟩
        rw [Nat.add_assoc, Nat.add_comm 1 j]
    · rintro ⟨j, w, g, hw, hg, rfl⟩
      cases j with
      | zero =>
        cases hw
        exact .inl ⟨g, hg, rfl⟩
      | succ j =>
        refine .inr ⟨j, w, g, hw, hg, ?_⟩
        rw [Nat.add_assoc, Nat.add_comm 1 j]

theorem mem_missingOfChildren_iff :
    f ∈ missingOfChildren kids entries ↔ ∃ kid ∈ kids, ∃ w g,
      Value.lookup (.name kid.1) entries = some w ∧ g ∈ kid.2.missing w ∧
        f = g.under (.name kid.1) := by
  induction kids with
  | nil => simp [missingOfChildren]
  | cons kid kids ih =>
    obtain ⟨name, node⟩ := kid
    rw [missingOfChildren, List.mem_append, ih, List.exists_mem_cons_iff]
    apply or_congr_left
    cases Value.lookup (.name name) entries with
    | none => simp
    | some w =>
      simp only [List.mem_map, Option.some.injEq, exists_and_left, exists_eq_left', eq_comm]

end Membership

mutual

/-- All that a value misses is listed, and nothing else. -/
theorem Node.mem_missing_iff : (node : Node) → ∀ (v : Value) (f : MissingField),
    f ∈ node.missing v ↔ f.IsOf node v
  | .primitive _ _ _, _, _ | .unknown _ _ _, _, _ =>
    iff_of_false List.not_mem_nil (not_isOf (by simp) (by simp))
  | .array about items, v, f => by
    cases v with
    | list vs =>
      rw [Node.missing, mem_missingOfItems_iff, isOf_array_iff]
      simp only [items.mem_missing_iff, Nat.zero_add]
    | _ => exact iff_of_false List.not_mem_nil (not_isOf (by simp) (by simp))
  | .object about kids required more, v, f => by
    cases v with
    | object entries =>
      have hkids := mem_missing_kids kids
      rw [Node.missing, List.mem_append, mem_missingOfChildren_iff, isOf_object_iff, List.mem_map]
      apply or_congr
      · refine exists_congr fun kid => and_congr_right fun hkid => ?_
        simp only [hkids kid hkid]
      · simp only [eq_comm]
    | _ => exact iff_of_false List.not_mem_nil (not_isOf (by simp) (by simp))

theorem mem_missing_kids : (kids : Properties) → ∀ kid ∈ kids, ∀ (v : Value) (f : MissingField),
    f ∈ kid.2.missing v ↔ f.IsOf kid.2 v
  | [] => by simp
  | (name, node) :: rest => by
    rw [List.forall_mem_cons]
    exact ⟨node.mem_missing_iff, mem_missing_kids rest⟩

end

/-! ## Each field once -/

theorem nodup_key_map_under {step : Step} {fs : List MissingField}
    (h : (fs.map MissingField.key).Nodup) :
    ((fs.map (MissingField.under step)).map MissingField.key).Nodup := by
  have hcomp : MissingField.key ∘ MissingField.under step =
      (fun key : List Step × Nat => (step :: key.1, key.2)) ∘ MissingField.key := rfl
  have hinjective : Function.Injective fun key : List Step × Nat => (step :: key.1, key.2) := by
    rintro ⟨location, i⟩ ⟨location', j⟩ heq
    simpa using heq
  rw [List.map_map, hcomp, ← List.map_map]
  exact h.map hinjective

theorem nodup_missingOfItems {find : Value → List MissingField} {vs : List Value}
    (h : ∀ v, ((find v).map MissingField.key).Nodup) (i : Nat) :
    ((missingOfItems find i vs).map MissingField.key).Nodup := by
  induction vs generalizing i with
  | nil => exact List.nodup_nil
  | cons v vs ih =>
    rw [missingOfItems, List.map_append, List.nodup_append]
    refine ⟨nodup_key_map_under (h v), ih (i + 1), ?_⟩
    intro key hkey key' hkey' heq
    simp only [List.mem_map] at hkey hkey'
    obtain ⟨_, ⟨g, -, rfl⟩, rfl⟩ := hkey
    obtain ⟨f, hf, rfl⟩ := hkey'
    obtain ⟨j, w, g', -, -, rfl⟩ := mem_missingOfItems_iff.mp hf
    -- the first steps are different indexes
    have hstep : Step.item i = Step.item (i + 1 + j) :=
      (List.cons.inj (Prod.mk.inj heq).1).1
    rw [Step.item, Step.item, Step.index.injEq] at hstep
    omega

theorem nodup_lacked (entries : Value.Entries) (required : List String) :
    ((lacked entries required).map Prod.snd).Nodup := by
  have hsub : ((lacked entries required).map Prod.snd).Sublist (required.zipIdx.map Prod.snd) :=
    List.filter_sublist.map Prod.snd
  rw [List.zipIdx_map_snd] at hsub
  exact hsub.nodup List.nodup_range'

mutual

/-- The fields that a value misses differ in their location or their place. -/
theorem Node.nodup_missing : (node : Node) → node.hasDistinctNames = true → ∀ v : Value,
    ((node.missing v).map MissingField.key).Nodup
  | .primitive _ _ _, _, _ | .unknown _ _ _, _, _ => List.nodup_nil
  | .array about items, h, v => by
    cases v with
    | list vs =>
      rw [Node.missing]
      exact nodup_missingOfItems (items.nodup_missing h) 0
    | _ => exact List.nodup_nil
  | .object about kids required more, h, v => by
    cases v with
    | object entries =>
      have hnames := Node.hasDistinctNames_object.mp h
      have hown := (nodup_lacked entries required).map
        (fun i j (heq : ([], i) = (([] : List Step), j)) => (Prod.mk.inj heq).2)
      rw [Node.missing, List.map_append, List.nodup_append]
      refine ⟨nodup_missingOfChildren kids hnames.1 (haveDistinctNames_iff.mpr hnames.2) entries, ?_,
        ?_⟩
      · rw [List.map_map] at hown ⊢
        exact hown
      · intro key hkey key' hkey' heq
        simp only [List.mem_map] at hkey hkey'
        obtain ⟨f, hf, rfl⟩ := hkey
        obtain ⟨_, ⟨_, -, rfl⟩, rfl⟩ := hkey'
        obtain ⟨_, -, _, _, -, -, rfl⟩ := mem_missingOfChildren_iff.mp hf
        cases heq
    | _ => exact List.nodup_nil

theorem nodup_missingOfChildren : (kids : Properties) → (kids.map Prod.fst).Nodup →
    haveDistinctNames kids = true → ∀ entries,
      ((missingOfChildren kids entries).map MissingField.key).Nodup
  | [], _, _, _ => List.nodup_nil
  | (name, node) :: rest, hnames, hkids, entries => by
    rw [List.map_cons, List.nodup_cons] at hnames
    rw [haveDistinctNames, Bool.and_eq_true] at hkids
    have hrest := nodup_missingOfChildren rest hnames.2 hkids.2 entries
    rw [missingOfChildren]
    cases Value.lookup (.name name) entries with
    | none => exact hrest
    | some w =>
      rw [List.map_append, List.nodup_append]
      refine ⟨nodup_key_map_under (node.nodup_missing hkids.1 w), hrest, ?_⟩
      intro key hkey key' hkey' heq
      simp only [List.mem_map] at hkey hkey'
      obtain ⟨_, ⟨g, -, rfl⟩, rfl⟩ := hkey
      obtain ⟨f, hf, rfl⟩ := hkey'
      obtain ⟨kid, hkid, _, _, -, -, rfl⟩ := mem_missingOfChildren_iff.mp hf
      -- the first steps are the names of different children
      have hname : name = kid.1 := Step.name.inj (List.cons.inj (Prod.mk.inj heq).1).1
      exact hnames.1 (List.mem_map.mpr ⟨kid, hkid, hname.symm⟩)

end

end Wire

end ExtractionSchema
