import ExtractionSchema.Compilation
import ExtractionSchema.Proofs.Wire.DisplayOrder

/-!
# What a tree is used for

A node of an unknown type keeps all that it was read from, and nothing but the printer looks at it:
the contract, both views, the properties and the prompt of a tree are those of the tree in which
such nodes keep nothing.

* `Node.bare` and `Tree.bare` forget what the nodes of unknown types keep.
* `Tree.contract_bare`, `Tree.outline_bare`, `Tree.guidance_bare`, `Tree.toProperties_bare` and
  `compose_bare` are the uses of a tree.
-/

namespace ExtractionSchema

namespace Wire

mutual

/-- The node, where nodes of unknown types keep nothing. -/
def Node.bare : Node → Node
  | .primitive about kind limits => .primitive about kind limits
  | .array about items => .array about items.bare
  | .object about properties required additional =>
    .object about (bareAll properties) required additional
  | .unknown about type _ => .unknown about type []

/-- The children, where nodes of unknown types keep nothing. -/
def bareAll : Properties → Properties
  | [] => []
  | (name, node) :: rest => (name, node.bare) :: bareAll rest

end

/-- The tree, where nodes of unknown types keep nothing. -/
def Tree.bare (t : Tree) : Tree := { t with properties := bareAll t.properties }

theorem Tree.root_bare (t : Tree) : t.bare.root = t.root.bare := by
  rw [Tree.root, Tree.root, Node.bare]
  rfl

theorem bareAll_eq_map (kids : Properties) :
    bareAll kids = kids.map fun kid => (kid.1, kid.2.bare) := by
  induction kids with
  | nil => rfl
  | cons kid kids ih => rw [bareAll, ih, List.map_cons]

namespace Node

@[simp] theorem about_bare (node : Node) : node.bare.about = node.about := by
  cases node <;> rfl

@[simp] theorem type_bare (node : Node) : node.bare.type = node.type := by
  cases node <;> rfl

@[simp] theorem isDate_bare (node : Node) : node.bare.isDate = node.isDate := by
  cases node <;> rfl

@[simp] theorem isObject_bare (node : Node) : node.bare.isObject = node.isObject := by
  cases node <;> rfl

end Node

theorem orderedProperties_bareAll (kids : Properties) :
    orderedProperties (bareAll kids) = bareAll (orderedProperties kids) := by
  rw [bareAll_eq_map, bareAll_eq_map]
  refine (List.map_mergeSort fun a _ b _ => ?_).symm
  simp

/-! ## The contract -/

mutual

theorem Node.contract_bare : (node : Node) → (nullable : Bool) →
    node.bare.contract nullable = node.contract nullable
  | .primitive about kind limits, nullable => rfl
  | .array about items, nullable => by
    rw [Node.bare, Node.contract, Node.contract, Node.contract_bare items]
  | .object about properties required additional, nullable => by
    have hnames : (bareAll properties).map (·.1) = properties.map (·.1) := by
      rw [bareAll_eq_map, List.map_map]
      rfl
    rw [Node.bare, Node.contract, Node.contract, childContracts_bareAll required properties, hnames]
  | .unknown about type raw, nullable => rfl

theorem childContracts_bareAll (required : List String) : (kids : Properties) →
    childContracts required (bareAll kids) = childContracts required kids
  | [] => rfl
  | (name, node) :: rest => by
    rw [bareAll, childContracts, childContracts, Node.contract_bare node,
      childContracts_bareAll required rest]

end

theorem Tree.contract_bare (t : Tree) : t.bare.contract = t.contract := by
  rw [Tree.contract, Tree.root_bare, Node.contract_bare]
  rfl

/-! ## The views -/

mutual

theorem Node.view_bare (guidance : Option Guidance) : (node : Node) → (path : String) →
    node.bare.view guidance path = node.view guidance path
  | .primitive about kind limits, path => rfl
  | .array about items, path => by
    rw [Node.bare, Node.view, Node.view, Node.view_bare guidance items]
  | .object about properties required additional, path => by
    rw [Node.bare, Node.view, Node.view, childViews_bareAll guidance properties]
  | .unknown about type raw, path => rfl

theorem Node.fieldView_bare (guidance : Option Guidance) : (node : Node) → (path : String) →
    node.bare.fieldView guidance path = node.fieldView guidance path
  | .primitive about kind limits, path => rfl
  | .array about items, path => by
    rw [Node.bare, Node.fieldView, Node.fieldView, Node.view_bare guidance items]
  | .object about properties required additional, path => by
    rw [Node.bare, Node.fieldView, Node.fieldView, childViews_bareAll guidance properties]
  | .unknown about type raw, path => rfl

theorem childViews_bareAll (guidance : Option Guidance) : (kids : Properties) →
    (childPath : String → String) →
    childViews guidance childPath (bareAll kids) = childViews guidance childPath kids
  | [], _ => rfl
  | (name, node) :: rest, childPath => by
    rw [bareAll, childViews, childViews, Node.fieldView_bare guidance node,
      childViews_bareAll guidance rest]

end

theorem Tree.outline_bare (t : Tree) : t.bare.outline = t.outline := by
  rw [Tree.outline, Tree.root_bare, Node.view_bare]
  rfl

theorem Tree.guidance_bare (guidance : Guidance) (t : Tree) :
    t.bare.guidance guidance = t.guidance guidance := by
  rw [Tree.guidance, Tree.root_bare, Node.view_bare]
  rfl

end Wire

open Wire

/-! ## The properties -/

namespace Conversion

theorem itemName_bare (node : Node) : itemName node.bare = itemName node := by
  cases node <;> rfl

theorem typeFields_bare (node : Node) : typeFields node.bare = typeFields node := by
  cases node with
  | array about items =>
    rw [Node.bare, typeFields, typeFields, itemName_bare, Node.isObject_bare]
  | primitive _ _ _ | object _ _ _ _ | unknown _ _ _ => rfl

theorem fields_bare (name : String) (required : Bool) (node : Node) :
    fields name required node.bare = fields name required node := by
  rw [fields, fields, Node.about_bare, typeFields_bare]

theorem nestedProperty_bare (path : Path) (name : String) (required : Bool) (node : Node) :
    nestedProperty path name required node.bare = nestedProperty path name required node := by
  cases node with
  | array about items => cases items <;> rfl
  | primitive _ _ _ | object _ _ _ _ | unknown _ _ _ => rfl

theorem nestedProperties_bareAll (path : Path) (required : List String) (kids : Properties) :
    nestedProperties path required (bareAll kids) = nestedProperties path required kids := by
  induction kids with
  | nil => rfl
  | cons kid kids ih =>
    rw [bareAll, nestedProperties, nestedProperties, nestedProperty_bare, ih]

theorem nestedFields_bare (path : Path) (node : Node) :
    nestedFields path node.bare = nestedFields path node := by
  cases node with
  | array about items =>
    cases items with
    | object _ properties required _ =>
      simp only [Node.bare, nestedFields]
      rw [orderedProperties_bareAll, nestedProperties_bareAll]
    | primitive _ _ _ | array _ _ | unknown _ _ _ => rfl
  | primitive _ _ _ | object _ _ _ _ | unknown _ _ _ => rfl

theorem properties_bareAll (required : List String) (kids : Properties) :
    properties required (bareAll kids) = properties required kids := by
  induction kids with
  | nil => rfl
  | cons kid kids ih =>
    obtain ⟨name, node⟩ := kid
    rw [bareAll, properties, properties, property, property, nestedFields_bare, fields_bare, ih]

end Conversion

theorem Wire.Tree.toProperties_bare (t : Tree) : t.bare.toProperties = t.toProperties := by
  rw [Tree.toProperties, Tree.toProperties, Tree.bare, orderedProperties_bareAll,
    Conversion.properties_bareAll]

/-! ## The prompt -/

theorem Wire.Node.elementProperties?_bare (node : Node) :
    node.bare.elementProperties? = node.elementProperties?.map bareAll := by
  cases node with
  | array about items => cases items <;> rfl
  | primitive _ _ _ | object _ _ _ _ | unknown _ _ _ => rfl

theorem headingLines_bare (name : String) (node : Node) :
    headingLines name node.bare = headingLines name node := by
  rw [headingLines, headingLines, Node.elementProperties?_bare, Option.isSome_map, Node.about_bare]

theorem structureLines_bare (node : Node) : structureLines node.bare = structureLines node := by
  unfold structureLines
  rw [Node.elementProperties?_bare]
  cases node.elementProperties? with
  | none => rfl
  | some kids =>
    simp only [Option.map_some]
    rw [orderedProperties_bareAll, bareAll_eq_map, List.map_map]
    congr 1
    refine List.map_congr_left fun kid _ => ?_
    simp [structureLine]

theorem fieldSection_bare (settings : Settings) (name : String) (node : Node) :
    fieldSection settings name node.bare = fieldSection settings name node := by
  rw [fieldSection, fieldSection, headingLines_bare, structureLines_bare]
  simp only [instructionLines, exampleSection, Node.about_bare]

theorem fieldSections_bareAll (settings : Settings) (kids : Properties) :
    fieldSections settings (bareAll kids) = fieldSections settings kids := by
  induction kids with
  | nil => rfl
  | cons kid kids ih =>
    rw [bareAll, fieldSections, fieldSections, fieldSection_bare, ih]

theorem guidanceLines_bare (settings : Settings) (t : Tree) :
    guidanceLines settings t.bare = guidanceLines settings t := by
  have hguided : (orderedProperties t.bare.properties).filter (fun kid => kid.2.about.isGuided) =
      bareAll ((orderedProperties t.properties).filter fun kid => kid.2.about.isGuided) := by
    rw [Tree.bare, orderedProperties_bareAll, bareAll_eq_map, bareAll_eq_map, List.filter_map]
    congr 2
    funext kid
    simp
  unfold guidanceLines
  rw [hguided]
  cases (orderedProperties t.properties).filter fun kid => kid.2.about.isGuided with
  | nil => rfl
  | cons kid kids =>
    simp only [bareAll]
    rw [← bareAll, fieldSections_bareAll]

theorem compose_bare (settings : Settings) (mode : PromptMode) (instructions : Option String)
    (t : Tree) : compose settings mode instructions t.bare =
      compose settings mode instructions t := by
  have hview : embeddedView settings mode t.bare = embeddedView settings mode t := by
    cases mode with
    | guidance => exact t.guidance_bare _
    | outline => rw [embeddedView, embeddedView, t.outline_bare]
  rw [compose, compose, promptLines, promptLines, hview, guidanceLines_bare]

end ExtractionSchema
