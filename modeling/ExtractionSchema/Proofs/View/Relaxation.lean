import ExtractionSchema.Proofs.Contract.Relaxation
import ExtractionSchema.Proofs.Record.Conformance
import ExtractionSchema.Proofs.View.Shown

/-!
# Views and validation

A view is a schema, too. It leaves out rules of the tree that it shows and adds none, so a record
that the tree accepts is accepted by the tree that is read from a view: what a model is shown never
contradicts what its answer is checked with.

* `Node.entails_shown`: what is shown of a node asks for no more than the node.
* `Node.StatesOnlyShown` says of a node that it states no rule that views leave out.
* `Tree.views_entailed`: validation against the views.
-/

namespace ExtractionSchema.Wire

/-! ## What is shown asks for no more -/

theorem enumRule_shown_subset (guidance : Option Guidance) (isField : Bool) (about : Presentation)
    (nullable : Bool) :
    enumRule (about.shown guidance isField) nullable ⊆ enumRule about nullable := by
  cases isField with
  | false => exact enumRule_subset_of_none rfl nullable
  | true => exact List.Subset.refl _

mutual

/-- What a view shows of a node asks for no more than the node. -/
theorem Node.entails_shown (guidance : Option Guidance) : (node : Node) →
    (isField nullable : Bool) →
      (node.contract nullable).Entails ((node.shown guidance isField).contract nullable)
  | .primitive about kind limits, isField, nullable => by
    rw [Node.shown]
    exact Node.entails_unbounded (fun _ hv => hv)
      (enumRule_shown_subset guidance isField about nullable)
  | .array about items, isField, nullable => by
    have hitems := Node.entails_shown guidance items false false
    rw [Node.shown]
    exact Node.entails_array hitems (enumRule_shown_subset guidance isField about nullable)
  | .object about properties required more, isField, nullable => by
    have hkids := exists_entails_shownAll guidance required properties
    rw [Node.shown]
    exact Node.entails_object hkids (List.Subset.refl required)
      (enumRule_shown_subset guidance isField about nullable)
  | .unknown about type raw, isField, nullable => by
    rw [Node.shown]
    exact Contract.entails_nil _

theorem exists_entails_shownAll (guidance : Option Guidance) (required : List String) :
    (kids : Properties) → ∀ shown ∈ shownAll guidance kids, ∃ kid ∈ kids, kid.1 = shown.1 ∧
      (kid.2.contract (!required.contains kid.1)).Entails
        (shown.2.contract (!required.contains shown.1))
  | [], shown, hshown => by simp [shownAll] at hshown
  | (name, node) :: rest, shown, hshown => by
    rcases List.mem_cons.mp hshown with rfl | hrest
    · have hnode := Node.entails_shown guidance node true (!required.contains name)
      exact ⟨(name, node), List.mem_cons_self, rfl, hnode⟩
    · obtain ⟨kid, hkid, hentails⟩ := exists_entails_shownAll guidance required rest shown hrest
      exact ⟨kid, List.mem_cons_of_mem _ hkid, hentails⟩

end

/-! ## Nodes of which everything is shown -/

mutual

/-- The node states no rule that views leave out: no form of a date, no bound, no closed object, and
allowed values on fields alone. -/
def Node.StatesOnlyShown (isField : Bool) : Node → Prop
  | .primitive about kind limits =>
    ((Node.primitive about kind limits).isDate = false ∧ limits.minLength = none ∧
      limits.maxLength = none ∧ limits.minimum = none ∧ limits.maximum = none) ∧
      (about.enum = none ∨ isField = true)
  | .array about items => items.StatesOnlyShown false ∧ (about.enum = none ∨ isField = true)
  | .object about properties _ more =>
    (more ≠ some false ∧ AllStateOnlyShown properties) ∧ (about.enum = none ∨ isField = true)
  | .unknown _ _ _ => True

/-- None of the fields states a rule that views leave out. -/
def AllStateOnlyShown : Properties → Prop
  | [] => True
  | (_, node) :: rest => node.StatesOnlyShown true ∧ AllStateOnlyShown rest

end

theorem enumRule_shown (guidance : Option Guidance) {isField : Bool} {about : Presentation}
    (h : about.enum = none ∨ isField = true) (nullable : Bool) :
    enumRule (about.shown guidance isField) nullable = enumRule about nullable := by
  rcases h with hnone | rfl
  · have hshown : (about.shown guidance isField).enum = none := by
      simp [Presentation.shown, hnone]
    rw [enumRule_of_none hnone, enumRule_of_none hshown]
  · rfl

mutual

/-- The contract of what is shown is that of the node when the node states nothing else. -/
theorem Node.contract_shown (guidance : Option Guidance) : (node : Node) →
    (isField nullable : Bool) → node.StatesOnlyShown isField →
      (node.shown guidance isField).contract nullable = node.contract nullable
  | .primitive about kind limits, isField, nullable, h => by
    obtain ⟨⟨hdate, hshort, hlong, hleast, hmost⟩, henum⟩ := h
    have hlimits : boundRules kind limits = [] := by
      cases kind with
      | string =>
        have hformat : ¬ limits.format = some dateFormat := of_decide_eq_false hdate
        simp [boundRules, boundRule, hformat, hshort, hlong]
      | number | integer => simp [boundRules, boundRule, hleast, hmost]
      | boolean => rfl
    rw [Node.shown, Node.contract, Node.contract, hlimits, boundRules_unbounded,
      enumRule_shown guidance henum]
  | .array about items, isField, nullable, h => by
    have hitems := Node.contract_shown guidance items false false h.1
    rw [Node.shown, Node.contract, Node.contract, hitems, enumRule_shown guidance h.2]
  | .object about properties required more, isField, nullable, h => by
    have hkids := childContracts_shownAll guidance required properties h.1.2
    have hentries : ∀ names, entryRules names required none = entryRules names required more := by
      intro names
      simp [entryRules, h.1.1]
    rw [Node.shown, Node.contract, Node.contract, hkids, hentries, enumRule_shown guidance h.2,
      map_fst_shownAll]
  | .unknown about type raw, isField, nullable, _ => rfl

theorem childContracts_shownAll (guidance : Option Guidance) (required : List String) :
    (kids : Properties) → AllStateOnlyShown kids →
      childContracts required (shownAll guidance kids) = childContracts required kids
  | [], _ => rfl
  | (name, node) :: rest, h => by
    have hnode := Node.contract_shown guidance node true (!required.contains name) h.1
    have hrest := childContracts_shownAll guidance required rest h.2
    rw [shownAll, childContracts, childContracts, hnode, hrest]

end

/-! ## Validation against views -/

theorem Tree.entails_shown (guidance : Option Guidance) (t : Tree) :
    t.contract.Entails (t.shown guidance).contract := by
  rw [Tree.contract, Tree.contract, Tree.root_shown]
  exact Node.entails_shown guidance t.root false false

theorem Tree.contract_shown (guidance : Option Guidance) {t : Tree}
    (h : t.root.StatesOnlyShown false) : (t.shown guidance).contract = t.contract := by
  rw [Tree.contract, Tree.contract, Tree.root_shown]
  exact Node.contract_shown guidance t.root false false h

/-- A record that a tree accepts is accepted by both views of the tree, and the views have the
contract of the tree when the tree states no rule that views leave out. -/
theorem Tree.views_entailed {d : Value} {t : Tree} (h : Tree.ofValue d = .ok t) (g : Guidance) :
    ∃ outlined guided : Tree, Tree.ofValue t.outline = .ok outlined ∧
      Tree.ofValue (t.guidance g).1 = .ok guided ∧
      (∀ record, validate t.contract record = [] →
        validate outlined.contract record = [] ∧ validate guided.contract record = []) ∧
      (t.root.StatesOnlyShown false →
        outlined.contract = t.contract ∧ guided.contract = t.contract) := by
  have houtline := Tree.ofValue_viewForm h none
  have hguidance := Tree.ofValue_viewForm h (some g)
  rw [← t.outline_eq] at houtline
  rw [← t.guidance_eq g] at hguidance
  refine ⟨t.shown none, t.shown (some g), houtline, hguidance, ?_, ?_⟩
  · intro record hvalid
    exact ⟨(t.entails_shown none).validate hvalid, (t.entails_shown (some g)).validate hvalid⟩
  · intro hshown
    exact ⟨Tree.contract_shown none hshown, Tree.contract_shown (some g) hshown⟩

/-- A document that states its allowed values on fields and no other constraint. -/
def openDocument : Value :=
  .record [("type", .string "object"), ("required", .strings ["state"]), ("properties", .record [
    ("state", .record [("type", .string "string"), ("enum", .list [.string "new", .null]),
      ("extractionInstructions", .string "As stamped.")]),
    ("rows", .record [("type", .string "array"), ("enum", .list [.list []]),
      ("items", .record [("type", .string "object"), ("properties", .record [
        ("seal", .record [("type", .string "signature")])])])])])]

theorem Tree.views_entailed_sample :
    (∃ t outlined : Tree, Tree.ofValue sampleTree = .ok t ∧
      Tree.ofValue t.outline = .ok outlined ∧ validate outlined.contract sampleRecord = []) ∧
    ∃ t guided : Tree, Tree.ofValue openDocument = .ok t ∧
      Tree.ofValue (t.guidance ⟨2, "..."⟩).1 = .ok guided ∧ guided.contract = t.contract := by
  constructor
  · obtain ⟨outlined, guided, houtlined, -, haccepts, -⟩ :=
      Tree.views_entailed (d := sampleTree) rfl ⟨2, "..."⟩
    have hvalid := haccepts sampleRecord (validate_eq_nil_iff.mpr rfl)
    exact ⟨_, outlined, rfl, houtlined, hvalid.1⟩
  · obtain ⟨outlined, guided, -, hguided, -, hsame⟩ :=
      Tree.views_entailed (d := openDocument) rfl ⟨2, "..."⟩
    refine ⟨_, guided, rfl, hguided, (hsame ?_).2⟩
    simp [Tree.root, Node.StatesOnlyShown, AllStateOnlyShown, Node.isDate]

end ExtractionSchema.Wire
