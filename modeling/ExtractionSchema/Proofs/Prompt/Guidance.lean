import ExtractionSchema.Proofs.Prompt.Truncations
import ExtractionSchema.Proofs.Wire.Rearranged

/-!
# Guidance follows the display order

What a prompt says of the fields comes after the block that shows the view: a section for each
top-level field that has instructions or examples, in display order, and nothing but an empty line
if there is no such field. Where the display order leaves no choice, it does not matter in which
order the children of nodes are stored.

* `Wire.Node.Shuffled` relates nodes that differ in the order of children, at any depth.
* `throughBlock` and `afterBlock` are the two parts of a prompt.
* `compose_guidance`: the sections of a prompt, which all shuffled trees share.
-/

namespace ExtractionSchema

namespace Wire

/-! ## Shuffled trees -/

mutual

/-- Nodes that differ in the order in which the children of objects are stored, at any depth. -/
inductive Node.Shuffled : Node → Node → Prop
  | primitive {about : Presentation} {kind : Primitive} {limits : Bounds} :
      Node.Shuffled (.primitive about kind limits) (.primitive about kind limits)
  | array {about : Presentation} {items items' : Node} (hitems : Node.Shuffled items items') :
      Node.Shuffled (.array about items) (.array about items')
  | object {about : Presentation} {kids mid kids' : List (String × Node)} {required : List String}
      {more : Option Bool} (heach : EachShuffled kids mid) (horder : mid.Perm kids') :
      Node.Shuffled (.object about kids required more) (.object about kids' required more)
  | unknown {about : Presentation} {type : String} {raw : List (String × Value)} :
      Node.Shuffled (.unknown about type raw) (.unknown about type raw)

/-- Children under the same names, one by one, each of them shuffled. -/
inductive EachShuffled : List (String × Node) → List (String × Node) → Prop
  | nil : EachShuffled [] []
  | cons {name : String} {kid kid' : Node} {kids kids' : List (String × Node)}
      (hfirst : Node.Shuffled kid kid') (hrest : EachShuffled kids kids') :
      EachShuffled ((name, kid) :: kids) ((name, kid') :: kids')

end

theorem EachShuffled.kidsRelated {kids kids' : Properties} (h : EachShuffled kids kids') :
    KidsRelated Node.Shuffled kids kids' := by
  induction kids generalizing kids' with
  | nil =>
    cases h
    exact .nil
  | cons kid kids ih =>
    cases h with
    | cons hfirst hrest => exact .cons ⟨rfl, hfirst⟩ (ih hrest)

/-- No two children have the same order, and at most one has none. -/
def DistinctOrders (kids : Properties) : Prop :=
  (kids.map fun kid => kid.2.about.order).Nodup

/-- The orders of the fields of a tree are distinct, and so are those of the children of the
elements of each list of objects. -/
structure Tree.HasDistinctOrders (t : Tree) : Prop where
  fields : DistinctOrders t.properties
  elements : ∀ field ∈ t.properties, ∀ kids ∈ field.2.elementProperties?, DistinctOrders kids

namespace Node.Shuffled

variable {node node' : Node}

theorem about_eq (h : node.Shuffled node') : node.about = node'.about := by
  cases h <;> rfl

theorem type_eq (h : node.Shuffled node') : node.type = node'.type := by
  cases h <;> rfl

theorem isDate_eq (h : node.Shuffled node') : node.isDate = node'.isDate := by
  cases h <;> rfl

end Node.Shuffled

/-- Children that are shuffled and put into another order come in the same display order. -/
theorem EachShuffled.orderedProperties {kids mid kids' : Properties} (heach : EachShuffled kids mid)
    (horder : mid.Perm kids') (hdistinct : DistinctOrders kids) :
    KidsRelated Node.Shuffled (orderedProperties kids) (orderedProperties kids') := by
  have hrelated := heach.kidsRelated
  have horders : (kids.map fun kid => kid.2.about.order) = mid.map fun kid => kid.2.about.order :=
    map_eq_map_of_forall₂ hrelated fun hkid => congrArg Presentation.order hkid.2.about_eq
  have hmid : DistinctOrders mid := by
    rw [DistinctOrders, ← horders]
    exact hdistinct
  rw [orderedProperties_of_perm horder.symm hmid]
  exact forall₂_orderedProperties hrelated fun kid kid' hkid =>
    congrArg Presentation.order hkid.2.about_eq

/-- Shuffled lists of objects have the children of their elements in the same display order. -/
theorem Node.Shuffled.elementProperties? {node node' : Node} (h : node.Shuffled node')
    (hdistinct : ∀ kids ∈ node.elementProperties?, DistinctOrders kids) :
    Option.Rel (fun kids kids' => KidsRelated Node.Shuffled (orderedProperties kids)
      (orderedProperties kids')) node.elementProperties? node'.elementProperties? := by
  cases h with
  | array hitems =>
    cases hitems with
    | object heach horder => exact .some (heach.orderedProperties horder (hdistinct _ rfl))
    | primitive | array | unknown => exact .none
  | primitive | object | unknown => exact .none

end Wire

open Wire

/-! ## Sections of shuffled fields -/

section Sections

variable {node node' : Node}

/-- A shuffled field has the same section. -/
theorem fieldSection_shuffled (h : node.Shuffled node')
    (hdistinct : ∀ kids ∈ node.elementProperties?, DistinctOrders kids) (settings : Settings)
    (name : String) : fieldSection settings name node = fieldSection settings name node' := by
  have hrel := h.elementProperties? hdistinct
  have hheading : headingLines name node = headingLines name node' :=
    headingLines_congr hrel (by rw [h.about_eq]) (by rw [h.about_eq])
  have hstructure : structureLines node = structureLines node' := by
    apply structureLines_congr hrel
    intro kids kids' hkids
    refine hkids.imp ?_
    rintro kid kid' ⟨hname, hkid⟩
    rw [structureLine, structureLine, hname, hkid.isDate_eq, hkid.type_eq, hkid.about_eq]
  rw [fieldSection, fieldSection, instructionLines, instructionLines, exampleSection,
    exampleSection, hheading, hstructure, h.about_eq]

/-- Shuffled trees with distinct orders have the same guidance. -/
theorem guidanceLines_shuffled {t t' : Tree} (h : t.root.Shuffled t'.root)
    (hdistinct : t.HasDistinctOrders) (settings : Settings) :
    guidanceLines settings t = guidanceLines settings t' := by
  have hordered : KidsRelated Node.Shuffled (orderedProperties t.properties)
      (orderedProperties t'.properties) := by
    obtain ⟨dialect, about, properties, required, more⟩ := t
    obtain ⟨dialect', about', properties', required', more'⟩ := t'
    cases h with
    | object heach horder => exact heach.orderedProperties horder hdistinct.fields
  have helements : ∀ kid ∈ orderedProperties t.properties, ∀ kids ∈ kid.2.elementProperties?,
      DistinctOrders kids := fun kid hkid =>
    hdistinct.elements kid ((orderedProperties_perm _).mem_iff.mp hkid)
  refine guidanceLines_congr ?_
  generalize orderedProperties t.properties = kids, orderedProperties t'.properties = kids'
    at hordered helements ⊢
  induction hordered with
  | nil => exact .nil
  | @cons kid kid' kids kids' hkid hrest ih =>
    obtain ⟨hfirst, hmore⟩ := List.forall_mem_cons.mp helements
    obtain ⟨name, node⟩ := kid
    obtain ⟨name', node'⟩ := kid'
    obtain ⟨rfl, hnode⟩ : name = name' ∧ node.Shuffled node' := hkid
    have hguided : node.about.isGuided = node'.about.isGuided := by rw [hnode.about_eq]
    exact .cons ⟨hguided, fieldSection_shuffled hnode hfirst settings name⟩ (ih hmore)

end Sections

/-! ## Views of shuffled trees -/

/-- A view can be written if what is shown of the node itself can be, and so can its parts. -/
theorem obstacle_viewFields {about : Presentation} {type : String}
    {parts : List (String × Value)} :
    (Value.record (about.viewFields type parts)).obstacle = none ↔
      (Value.record (about.viewFields type [])).obstacle = none ∧
        ∀ part ∈ parts, part.2.obstacle = none := by
  rw [Value.obstacle_record_eq_none, Value.obstacle_record_eq_none]
  simp only [Presentation.viewFields, List.mem_append, List.not_mem_nil, or_false]
  constructor
  · intro h
    refine ⟨fun field hfield => h field ?_, fun part hpart => h part (.inl (.inr hpart))⟩
    rcases hfield with hfield | hfield
    · exact .inl (.inl hfield)
    · exact .inr hfield
  · rintro ⟨hfields, hparts⟩ field ((hfield | hfield) | hfield)
    · exact hfields field (.inl hfield)
    · exact hparts field hfield
    · exact hfields field (.inr hfield)

section Views

variable (guidance : Option Guidance)

theorem obstacle_shown_object {isField : Bool} {about : Presentation} {kids : Properties}
    {required : List String} {more : Option Bool} :
    ((Node.object about kids required more).shown guidance isField).viewForm.obstacle = none ↔
      (Value.record ((about.shown guidance isField).viewFields objectType [])).obstacle = none ∧
        (Value.strings required).obstacle = none ∧
        ∀ kid ∈ kids, (kid.2.shown guidance true).viewForm.obstacle = none := by
  have hchildren : (Value.record (viewForms (shownAll guidance kids))).obstacle = none ↔
      ∀ kid ∈ kids, (kid.2.shown guidance true).viewForm.obstacle = none := by
    rw [Value.obstacle_record_eq_none, viewForms_eq_map, shownAll_eq_map, List.map_map,
      List.forall_mem_map]
    rfl
  rw [Node.shown, Node.viewForm, obstacle_viewFields, viewMembers, List.forall_mem_cons,
    List.forall_mem_singleton, hchildren]

mutual

/-- The view of a shuffled node can be written as well. -/
theorem Wire.Node.Shuffled.obstacle_shown : {node node' : Node} → node.Shuffled node' →
    (isField : Bool) → (node.shown guidance isField).viewForm.obstacle = none →
    (node'.shown guidance isField).viewForm.obstacle = none
  | _, _, .primitive, _, h | _, _, .unknown, _, h => h
  | _, _, .array hitems, isField, h => by
    rw [Node.shown, Node.viewForm, obstacle_viewFields] at h ⊢
    obtain ⟨habout, hparts⟩ := h
    rw [List.forall_mem_singleton] at hparts ⊢
    exact ⟨habout, hitems.obstacle_shown false hparts⟩
  | _, _, .object heach horder, isField, h => by
    rw [obstacle_shown_object] at h ⊢
    obtain ⟨habout, hrequired, hkids⟩ := h
    have hmid := heach.obstacle_shown hkids
    exact ⟨habout, hrequired, fun kid hkid => hmid kid (horder.mem_iff.mpr hkid)⟩

theorem Wire.EachShuffled.obstacle_shown : {kids kids' : Properties} → EachShuffled kids kids' →
    (∀ kid ∈ kids, (kid.2.shown guidance true).viewForm.obstacle = none) →
    ∀ kid ∈ kids', (kid.2.shown guidance true).viewForm.obstacle = none
  | _, _, .nil, h => h
  | _, _, .cons hfirst hrest, h => by
    rw [List.forall_mem_cons] at h ⊢
    exact ⟨hfirst.obstacle_shown true h.1, hrest.obstacle_shown h.2⟩

end

end Views

theorem obstacle_embeddedView_shuffled {t t' : Tree} (h : t.root.Shuffled t'.root)
    {settings : Settings} {mode : PromptMode}
    (hview : (embeddedView settings mode t).1.obstacle = none) :
    (embeddedView settings mode t').1.obstacle = none := by
  cases mode with
  | guidance =>
    rw [embeddedView, Tree.guidance_eq] at hview ⊢
    exact h.obstacle_shown _ false hview
  | outline =>
    rw [embeddedView, Tree.outline_eq] at hview ⊢
    exact h.obstacle_shown _ false hview

/-! ## The two parts of a prompt -/

/-- A prompt through the end of the block that shows the view. -/
def throughBlock (settings : Settings) (mode : PromptMode) (instructions : Option String)
    (t : Tree) : String :=
  "\n".intercalate ((generalLines settings instructions).1 ++
    ["# Data Structure", "Extract data according to the following JSON schema structure:",
      "```json", (embeddedView settings mode t).1.indentedJson, "```"])

/-- A prompt after that block: the sections of fields, or an empty line if there are none. -/
def afterBlock : List (List String) → String
  | [] => "\n"
  | sections => "\n" ++ "\n".intercalate
      (["", "# Field-Specific Extraction Guidance", ""] ++ sections.flatMap (· ++ [""]))

theorem afterBlock_eq (sections : List (List String)) :
    afterBlock sections = "\n" ++ "\n".intercalate ("" :: guidanceOf sections) := by
  cases sections <;> rfl

theorem promptText_guidanceOf (settings : Settings) (mode : PromptMode)
    (instructions : Option String) (t : Tree) (sections : List (List String)) :
    promptText (generalLines settings instructions).1
        (embeddedView settings mode t).1.indentedJson (guidanceOf sections) =
      throughBlock settings mode instructions t ++ afterBlock sections := by
  generalize hgeneral : (generalLines settings instructions).1 = general
  generalize hshown : (embeddedView settings mode t).1.indentedJson = shown
  have hlines : general ++ viewLines shown ++ guidanceOf sections =
      (general ++ ["# Data Structure",
        "Extract data according to the following JSON schema structure:",
        "```json", shown, "```"]) ++ ("" :: guidanceOf sections) := by
    simp [viewLines]
  rw [promptText, hlines, String.intercalate_append_of_ne_nil (by simp) (by simp), throughBlock,
    hgeneral, hshown, afterBlock_eq, String.append_assoc]

/-- A prompt that is composed has, after the block that shows the view, one section for each
top-level field with instructions or examples, in display order, and nothing but an empty line if
there is no such field. If the orders of the fields are distinct, and those of the children of the
elements of lists of objects are, all this is the same in the prompt for a tree whose children are
stored in another order, which is composed as well. -/
theorem compose_guidance {settings : Settings} {mode : PromptMode} {instructions : Option String}
    {t : Tree} {p : String} (h : (compose settings mode instructions t).result = .ok p) :
    ∃ sections, List.Forall₂
        (fun field lines => (fieldSection settings field.1 field.2).result = .ok lines)
        ((orderedProperties t.properties).filter fun field => field.2.about.isGuided) sections ∧
      p = throughBlock settings mode instructions t ++ afterBlock sections ∧
      ∀ t', t.root.Shuffled t'.root → t.HasDistinctOrders →
        (compose settings mode instructions t').result =
          .ok (throughBlock settings mode instructions t' ++ afterBlock sections) := by
  obtain ⟨hview, guidance, hguidance, rfl⟩ := compose_eq_ok_iff.mp h
  obtain ⟨sections, hsections, rfl⟩ := exists_sections_of_guidanceLines hguidance
  refine ⟨sections, hsections, promptText_guidanceOf settings mode instructions t sections, ?_⟩
  intro t' hshuffled hdistinct
  rw [guidanceLines_shuffled hshuffled hdistinct] at hguidance
  refine compose_eq_ok_iff.mpr ⟨obstacle_embeddedView_shuffled hshuffled hview, _, hguidance, ?_⟩
  rw [promptText_guidanceOf]

/-- Columns of the lines of an invoice. -/
def lineColumns : Properties :=
  [("net", .primitive { order := some 4 } .number {}),
    ("article", .primitive { order := some (-1) } .string {})]

/-- Fields of an invoice: the lines, a list of objects, with instructions, the number with an
example, and the buyer with neither. -/
def invoiceFields (columns : Properties) : Properties :=
  [("lines", .array { instructions := some "One for each line.", order := some 2 }
      (.object {} columns [] none)),
    ("number", .primitive { examples := some [[("input", .string "No. 7"),
      ("output", .string "7")]], order := some 0 } .string {}),
    ("buyer", .primitive { order := some 1 } .string {})]

/-- An invoice. -/
def invoiceTree : Tree := ⟨none, {}, invoiceFields lineColumns, ["number"], none⟩

/-- An invoice of which the fields and the columns of the lines are stored the other way round. -/
def turnedTree : Tree :=
  { invoiceTree with properties := (invoiceFields lineColumns.reverse).reverse }

theorem shuffled_turnedTree : invoiceTree.root.Shuffled turnedTree.root := by
  have hcolumns : EachShuffled lineColumns lineColumns := .cons .primitive (.cons .primitive .nil)
  have hlines : (Node.object {} lineColumns [] none).Shuffled
      (.object {} lineColumns.reverse [] none) := .object hcolumns (List.reverse_perm _).symm
  have hfields : EachShuffled (invoiceFields lineColumns) (invoiceFields lineColumns.reverse) :=
    .cons (.array hlines) (.cons .primitive (.cons .primitive .nil))
  exact .object hfields (List.reverse_perm _).symm

theorem hasDistinctOrders_invoiceTree : invoiceTree.HasDistinctOrders := by
  have hcolumns : DistinctOrders lineColumns := by
    unfold DistinctOrders
    decide
  constructor
  · unfold DistinctOrders
    decide
  · simp [invoiceTree, invoiceFields, Node.elementProperties?, hcolumns]

theorem exists_guidanceLines_invoiceTree :
    ∃ lines, (guidanceLines .standard invoiceTree).result = .ok lines := by
  -- the lines come last
  have hperm : ((invoiceFields lineColumns).take 1 ++ (invoiceFields lineColumns).drop 1).Perm
      ((invoiceFields lineColumns).drop 1 ++ (invoiceFields lineColumns).take 1) :=
    List.perm_append_comm
  rw [List.take_append_drop] at hperm
  have hordered : orderedProperties invoiceTree.properties =
      (invoiceFields lineColumns).drop 1 ++ (invoiceFields lineColumns).take 1 := by
    rw [invoiceTree, orderedProperties_of_perm hperm (by decide)]
    exact orderedProperties_of_pairwise (by simp [invoiceFields, comesBefore, Node.about])
  rw [guidanceLines, hordered]
  exact ⟨_, rfl⟩

/-- An invoice has the same guidance when its fields and the columns of its lines are stored the
other way round. -/
theorem compose_guidance_invoice :
    invoiceTree.root.Shuffled turnedTree.root ∧ invoiceTree.HasDistinctOrders ∧
    ∃ p sections, (compose .standard .guidance none invoiceTree).result = .ok p ∧
      p = throughBlock .standard .guidance none invoiceTree ++ afterBlock sections ∧
      (compose .standard .guidance none turnedTree).result =
        .ok (throughBlock .standard .guidance none turnedTree ++ afterBlock sections) := by
  obtain ⟨lines, hlines⟩ := exists_guidanceLines_invoiceTree
  have hview : (embeddedView .standard .guidance invoiceTree).1.obstacle = none := by
    decide +kernel
  have hcompose : (compose .standard .guidance none invoiceTree).result = .ok _ :=
    compose_eq_ok_iff.mpr ⟨hview, lines, hlines, rfl⟩
  obtain ⟨sections, -, hp, hturned⟩ := compose_guidance hcompose
  exact ⟨shuffled_turnedTree, hasDistinctOrders_invoiceTree, _, sections, hcompose, hp,
    hturned _ shuffled_turnedTree hasDistinctOrders_invoiceTree⟩

end ExtractionSchema
