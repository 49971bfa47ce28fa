import ExtractionSchema.Proofs.Wire.Agreement
import ExtractionSchema.Record.Contract
import ExtractionSchema.View

/-!
# Guidance and constraints stay apart

What guides people and models makes no difference for the contract of a tree, and what constrains
records makes none for its views: each use of a tree looks at some keys of its nodes, and trees that
agree under these are used alike.

* `contractKeys` and `viewKeys` are the keys that the uses look at.
* `Node.AgreeApart.contract_eq` and `Node.AgreeApart.view_eq`: nothing else is looked at.
* `Tree.uses_apart` says this for the trees of documents.
-/

namespace ExtractionSchema.Wire

variable {keys : List String}

/-! ## The contract -/

/-- The keys that the contract of a node looks at beside its shape. -/
def contractKeys : List String := "enum" :: "additionalProperties" :: boundsKeys

section Contract

theorem Presentation.AgreeApart.enumRule_eq {about about' : Presentation}
    (h : about.AgreeApart keys about') (henum : "enum" ∉ keys) (nullable : Bool) :
    enumRule about nullable = enumRule about' nullable := by
  rw [enumRule, enumRule, h.enum henum]

theorem Bounds.AgreeApart.eq {limits limits' : Bounds} (h : limits.AgreeApart keys limits')
    (hkeys : ∀ key ∈ boundsKeys, key ∉ keys) : limits = limits' := by
  have hformat := h.format (hkeys _ (by decide))
  have hminLength := h.minLength (hkeys _ (by decide))
  have hmaxLength := h.maxLength (hkeys _ (by decide))
  have hminimum := h.minimum (hkeys _ (by decide))
  have hmaximum := h.maximum (hkeys _ (by decide))
  cases limits
  cases limits'
  rw [Bounds.mk.injEq]
  exact ⟨hformat, hminLength, hmaxLength, hminimum, hmaximum⟩

mutual

/-- Nodes that agree under the keys that a contract looks at have the same contract. -/
theorem Node.AgreeApart.contract_eq (hkeys : ∀ key ∈ contractKeys, key ∉ keys) : (node : Node) →
    {node' : Node} → node.AgreeApart keys node' → (nullable : Bool) →
      node.contract nullable = node'.contract nullable
  | .primitive about kind limits, _, h, nullable => by
    cases h with
    | primitive habout hlimits =>
      have hbounds : ∀ key ∈ boundsKeys, key ∉ keys := fun key hkey =>
        hkeys key (List.mem_cons_of_mem _ (List.mem_cons_of_mem _ hkey))
      rw [Node.contract, Node.contract, hlimits.eq hbounds,
        habout.enumRule_eq (hkeys _ (by decide))]
  | .array about items, _, h, nullable => by
    cases h with
    | array habout hitems =>
      rw [Node.contract, Node.contract, Node.AgreeApart.contract_eq hkeys items hitems,
        habout.enumRule_eq (hkeys _ (by decide))]
  | .object about kids required more, _, h, nullable => by
    cases h with
    | object habout hkids hmore =>
      rw [Node.contract, Node.contract, KidsAgreeApart.childContracts_eq hkeys kids hkids,
        hkids.map_fst, hmore (hkeys _ (by decide)), habout.enumRule_eq (hkeys _ (by decide))]
  | .unknown about type raw, _, h, nullable => by
    cases h
    rfl

theorem KidsAgreeApart.childContracts_eq (hkeys : ∀ key ∈ contractKeys, key ∉ keys) :
    (kids : Properties) → {kids' : Properties} → KidsAgreeApart keys kids kids' →
      {required : List String} → childContracts required kids = childContracts required kids'
  | [], _, h, _ => by
    cases h
    rfl
  | (name, kid) :: kids, _, h, required => by
    cases h with
    | cons hfirst hrest =>
      rw [childContracts, childContracts, Node.AgreeApart.contract_eq hkeys kid hfirst,
        KidsAgreeApart.childContracts_eq hkeys kids hrest]

end

end Contract

/-! ## The views -/

/-- The keys that a view looks at beside the shape: the guidance view shows instructions, too. -/
def viewedKeys (guidance : Option Guidance) : List String :=
  "title" :: "enum" :: (guidance.map fun _ => "extractionInstructions").toList

section Views

variable {guidance : Option Guidance} {about about' : Presentation}

theorem Presentation.AgreeApart.viewHead_eq (h : about.AgreeApart keys about')
    (hkeys : ∀ key ∈ viewedKeys guidance, key ∉ keys) (type : String) :
    viewHead type about = viewHead type about' := by
  rw [viewHead, viewHead, h.title (hkeys _ List.mem_cons_self)]

theorem Presentation.AgreeApart.viewEnum_eq (h : about.AgreeApart keys about')
    (hkeys : ∀ key ∈ viewedKeys guidance, key ∉ keys) : viewEnum about = viewEnum about' := by
  rw [viewEnum, viewEnum, h.enum (hkeys _ (List.mem_cons_of_mem _ List.mem_cons_self))]

theorem Presentation.AgreeApart.shownInstructions_eq (h : about.AgreeApart keys about')
    (hkeys : ∀ key ∈ viewedKeys guidance, key ∉ keys) (path : String) :
    shownInstructions guidance path about = shownInstructions guidance path about' := by
  cases guidance with
  | none => rfl
  | some g =>
    have hkey : "extractionInstructions" ∈ viewedKeys (some g) := by simp [viewedKeys]
    unfold shownInstructions
    rw [h.instructions (hkeys _ hkey)]

mutual

/-- Nodes that agree under the keys that a view looks at have the same view, with the same
truncations. -/
theorem Node.AgreeApart.view_eq (hkeys : ∀ key ∈ viewedKeys guidance, key ∉ keys) :
    (node : Node) → {node' : Node} → node.AgreeApart keys node' → (path : String) →
      node.view guidance path = node'.view guidance path
  | .primitive about kind limits, _, h, path => by
    cases h with
    | primitive habout => rw [Node.view, Node.view, habout.viewHead_eq hkeys]
  | .array about items, _, h, path => by
    cases h with
    | array habout hitems =>
      rw [Node.view, Node.view, Node.AgreeApart.view_eq hkeys items hitems,
        habout.viewHead_eq hkeys]
  | .object about kids required more, _, h, path => by
    cases h with
    | object habout hkids =>
      rw [Node.view, Node.view, KidsAgreeApart.childViews_eq hkeys kids hkids,
        habout.viewHead_eq hkeys]
  | .unknown about type raw, _, h, path => by
    cases h with
    | unknown habout => rw [Node.view, Node.view, habout.viewHead_eq hkeys]

theorem Node.AgreeApart.fieldView_eq (hkeys : ∀ key ∈ viewedKeys guidance, key ∉ keys) :
    (node : Node) → {node' : Node} → node.AgreeApart keys node' → (path : String) →
      node.fieldView guidance path = node'.fieldView guidance path
  | .primitive about kind limits, _, h, path => by
    cases h with
    | primitive habout =>
      rw [Node.fieldView, Node.fieldView, habout.viewHead_eq hkeys, habout.viewEnum_eq hkeys,
        habout.shownInstructions_eq hkeys]
  | .array about items, _, h, path => by
    cases h with
    | array habout hitems =>
      rw [Node.fieldView, Node.fieldView, Node.AgreeApart.view_eq hkeys items hitems,
        habout.viewHead_eq hkeys, habout.viewEnum_eq hkeys, habout.shownInstructions_eq hkeys]
  | .object about kids required more, _, h, path => by
    cases h with
    | object habout hkids =>
      rw [Node.fieldView, Node.fieldView, KidsAgreeApart.childViews_eq hkeys kids hkids,
        habout.viewHead_eq hkeys, habout.viewEnum_eq hkeys, habout.shownInstructions_eq hkeys]
  | .unknown about type raw, _, h, path => by
    cases h with
    | unknown habout =>
      rw [Node.fieldView, Node.fieldView, habout.viewHead_eq hkeys, habout.viewEnum_eq hkeys,
        habout.shownInstructions_eq hkeys]

theorem KidsAgreeApart.childViews_eq (hkeys : ∀ key ∈ viewedKeys guidance, key ∉ keys) :
    (kids : Properties) → {kids' : Properties} → KidsAgreeApart keys kids kids' →
      (childPath : String → String) →
        childViews guidance childPath kids = childViews guidance childPath kids'
  | [], _, h, _ => by
    cases h
    rfl
  | (name, kid) :: kids, _, h, childPath => by
    cases h with
    | cons hfirst hrest =>
      rw [childViews, childViews, Node.AgreeApart.fieldView_eq hkeys kid hfirst,
        KidsAgreeApart.childViews_eq hkeys kids hrest]

end

end Views

/-! ## The uses of a tree -/

/-- The keys that guide people and models, and order the fields for them. -/
def guidingKeys : List String :=
  ["title", "description", "importance", "extractionInstructions", "displayName", "examples",
    "order"]

/-- The keys that guide people alone, and those that constrain records by more than a shape. -/
def unshownKeys : List String :=
  ["description", "importance", "displayName", "examples", "order", "additionalProperties"] ++
    boundsKeys

variable {t t' : Tree}

/-- Trees that agree apart from guidance have the same contract. Trees that agree apart from
constraints and guidance other than titles have the same outline, and if they agree on instructions,
the same guidance view with the same truncations, whatever the limit and the ellipsis. Trees agree
in this way if the documents do that they are read from. -/
theorem Tree.uses_apart :
    (t.root.AgreeApart guidingKeys t'.root → t.contract = t'.contract) ∧
    (t.root.AgreeApart ("extractionInstructions" :: unshownKeys) t'.root →
      t.outline = t'.outline) ∧
    (t.root.AgreeApart unshownKeys t'.root →
      ∀ guidance, t.guidance guidance = t'.guidance guidance) ∧
    ∀ keys d d', Tree.ofValue d = .ok t → Tree.ofValue d' = .ok t' → NodesAgreeApart keys d d' →
      t.root.AgreeApart keys t'.root := by
  refine ⟨fun h => ?_, fun h => ?_, fun h guidance => ?_, fun keys d d' ht ht' h => ?_⟩
  · exact Node.AgreeApart.contract_eq (by decide) _ h false
  · rw [Tree.outline, Tree.outline, Node.AgreeApart.view_eq (by decide) _ h]
  · have hkeys : ∀ key ∈ viewedKeys (some guidance), key ∉ unshownKeys := by
      change ∀ key ∈ ["title", "enum", "extractionInstructions"], key ∉ unshownKeys
      decide
    exact Node.AgreeApart.view_eq hkeys _ h ""
  · exact Tree.agreeApart_of_ofValue h ht ht'

/-- The document of a tree with a note and a stamp of an unknown type. -/
def parcelDocument (title instructions : String) (most codec : Int) : Value :=
  .record [("type", .string "object"), ("properties", .record
    [("note", .record [("type", .string "string"), ("title", .string title),
        ("extractionInstructions", .string instructions), ("maxLength", .int most)]),
      ("stamp", .record [("type", .string "blob"), ("codec", .int codec)])])]

/-- The tree that the document is read as. -/
def parcelTree (title instructions : String) (most codec : Int) : Tree :=
  ⟨none, {}, [("note", .primitive { title := some title, instructions := some instructions }
      .string { maxLength := some most }),
    ("stamp", .unknown {} "blob" [("type", .string "blob"), ("codec", .int codec)])], [], none⟩

theorem ofValue_parcelDocument (title instructions : String) (most codec : Int) :
    Tree.ofValue (parcelDocument title instructions most codec) =
      .ok (parcelTree title instructions most codec) :=
  rfl

theorem parcelDocument_agreeApart {title title' instructions instructions' : String}
    {most most' codec codec' : Int} (htitle : "title" ∉ keys → title = title')
    (hinstructions : "extractionInstructions" ∉ keys → instructions = instructions')
    (hmost : "maxLength" ∉ keys → most = most') :
    NodesAgreeApart keys (parcelDocument title instructions most codec)
      (parcelDocument title' instructions' most' codec') := by
  have hnote : NodesAgreeApart keys
      (.record [("type", .string "string"), ("title", .string title),
        ("extractionInstructions", .string instructions), ("maxLength", .int most)])
      (.record [("type", .string "string"), ("title", .string title'),
        ("extractionInstructions", .string instructions'), ("maxLength", .int most')]) := by
    refine @NodesAgreeApart.primitive _ _ _ .string rfl rfl ?_
    simpa [AgreeUnder, presentationKeys, boundsKeys, Value.getD, Value.lookup, Value.named]
      using ⟨htitle, hinstructions, hmost⟩
  have hstamp : NodesAgreeApart keys (.record [("type", .string "blob"), ("codec", .int codec)])
      (.record [("type", .string "blob"), ("codec", .int codec')]) := by
    refine .unknown rfl rfl rfl (by decide) (by decide) ?_
    simp [AgreeUnder, presentationKeys, Value.getD, Value.lookup, Value.named]
  refine .object rfl rfl ?_ rfl (.cons hnote (.cons hstamp .nil))
  simp [AgreeUnder, presentationKeys, Value.getD, Value.lookup, Value.named]

theorem Tree.uses_apart_parcel :
    (parcelTree "Note" "Copy it." 40 1).contract = (parcelTree "Remark" "As is." 40 1).contract ∧
    (parcelTree "Note" "Copy it." 40 1).outline = (parcelTree "Note" "As is." 80 2).outline ∧
    ∀ guidance, (parcelTree "Note" "Copy it." 40 1).guidance guidance =
      (parcelTree "Note" "Copy it." 80 2).guidance guidance := by
  have hread := ofValue_parcelDocument
  refine ⟨?_, ?_, ?_⟩
  · have hagree := Tree.uses_apart.2.2.2 guidingKeys _ _ (hread "Note" "Copy it." 40 1)
      (hread "Remark" "As is." 40 1)
      (parcelDocument_agreeApart (by decide) (by decide) (by decide))
    exact Tree.uses_apart.1 hagree
  · have hagree := Tree.uses_apart.2.2.2 ("extractionInstructions" :: unshownKeys) _ _
      (hread "Note" "Copy it." 40 1) (hread "Note" "As is." 80 2)
      (parcelDocument_agreeApart (by decide) (by decide) (by decide))
    exact Tree.uses_apart.2.1 hagree
  · have hagree := Tree.uses_apart.2.2.2 unshownKeys _ _ (hread "Note" "Copy it." 40 1)
      (hread "Note" "Copy it." 80 2)
      (parcelDocument_agreeApart (by decide) (by decide) (by decide))
    exact Tree.uses_apart.2.2.1 hagree

end ExtractionSchema.Wire
