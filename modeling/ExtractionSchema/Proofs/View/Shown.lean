import ExtractionSchema.Proofs.Wire.NormalForm
import ExtractionSchema.View

/-!
# Reading views

A view is itself a document that holds a tree, and it is read as the tree of which it shows
everything: each node with its title, a field also with the instructions that are shown and with
its allowed values, and nothing else.

* `Node.shown` is the node that the view of a node is read as, and `Node.viewForm` the layout in
  which such a node is written; `Node.view_eq` and `Node.fieldView_eq` say that a view is that.
* `Tree.ofValue_viewForm`: the view of a tree that was read is read as the tree that it shows.
-/

namespace ExtractionSchema.Wire

/-! ## What a view shows -/

/-- The instructions that a view shows of a field. -/
def shownText (guidance : Option Guidance) (instructions : Option String) : Option String :=
  match guidance, instructions with
  | some g, some s => if s = "" then none else some (Text.capped g.limit g.ellipsis s)
  | _, _ => none

/-- How a node is presented in a view, as a field or as another node. -/
def Presentation.shown (guidance : Option Guidance) (isField : Bool) (about : Presentation) :
    Presentation where
  title := about.title
  instructions := if isField then shownText guidance about.instructions else none
  enum := if isField then about.enum else none

/-- The fields of the view of a node around those that show its parts. -/
def Presentation.viewFields (about : Presentation) (type : String)
    (parts : List (String × Value)) : List (String × Value) :=
  viewHead type about ++ whenStated "extractionInstructions" .string about.instructions ++ parts ++
    viewEnum about

mutual

/-- The node that the view of a node is read as. -/
def Node.shown (guidance : Option Guidance) (isField : Bool) : Node → Node
  | .primitive about kind _ => .primitive (about.shown guidance isField) kind {}
  | .array about items => .array (about.shown guidance isField) (items.shown guidance false)
  | .object about properties required _ =>
    .object (about.shown guidance isField) (shownAll guidance properties) required none
  | .unknown about type _ =>
    .unknown (about.shown guidance isField) type
      ((about.shown guidance isField).viewFields type [])

/-- The nodes that the views of fields are read as. -/
def shownAll (guidance : Option Guidance) : Properties → Properties
  | [] => []
  | (name, node) :: rest => (name, node.shown guidance true) :: shownAll guidance rest

end

mutual

/-- A node written in the layout of views. -/
def Node.viewForm : Node → Value
  | .primitive about kind _ => .record (about.viewFields kind.name [])
  | .array about items => .record (about.viewFields arrayType [("items", items.viewForm)])
  | .object about properties required _ =>
    .record (about.viewFields objectType (viewMembers required (viewForms properties)))
  | .unknown about type _ => .record (about.viewFields type [])

/-- Children written in the layout of views. -/
def viewForms : Properties → List (String × Value)
  | [] => []
  | (name, node) :: rest => (name, node.viewForm) :: viewForms rest

end

/-! ## Views as written nodes -/

theorem shownAll_eq_map (guidance : Option Guidance) (kids : Properties) :
    shownAll guidance kids = kids.map fun kid => (kid.1, kid.2.shown guidance true) := by
  induction kids with
  | nil => rfl
  | cons kid kids ih => rw [shownAll, ih, List.map_cons]

theorem viewForms_eq_map (kids : Properties) :
    viewForms kids = kids.map fun kid => (kid.1, kid.2.viewForm) := by
  induction kids with
  | nil => rfl
  | cons kid kids ih => rw [viewForms, ih, List.map_cons]

theorem map_fst_shownAll (guidance : Option Guidance) (kids : Properties) :
    (shownAll guidance kids).map Prod.fst = kids.map Prod.fst := by
  rw [shownAll_eq_map, List.map_map]
  rfl

theorem map_fst_viewForms (kids : Properties) :
    (viewForms kids).map Prod.fst = kids.map Prod.fst := by
  rw [viewForms_eq_map, List.map_map]
  rfl

theorem shownInstructions_eq (guidance : Option Guidance) (path : String)
    (about : Presentation) : (shownInstructions guidance path about).1 =
      whenStated "extractionInstructions" .string (shownText guidance about.instructions) := by
  unfold shownInstructions shownText
  cases guidance with
  | none => rfl
  | some g =>
    cases about.instructions with
    | none => rfl
    | some s => by_cases hempty : s = "" <;> simp [hempty, whenStated, cap]

/-- A node that is no field shows its title around its parts. -/
theorem Presentation.viewFields_shown_element (guidance : Option Guidance)
    (about : Presentation) (type : String) (parts : List (String × Value)) :
    (about.shown guidance false).viewFields type parts = viewHead type about ++ parts := by
  simp [Presentation.viewFields, Presentation.shown, viewHead, viewEnum, whenStated]

/-- A field shows its title and its instructions before its parts, and its allowed values after
them. -/
theorem Presentation.viewFields_shown_field (guidance : Option Guidance) (path : String)
    (about : Presentation) (type : String) (parts : List (String × Value)) :
    (about.shown guidance true).viewFields type parts =
      viewHead type about ++ (shownInstructions guidance path about).1 ++ parts ++
        viewEnum about := by
  rw [shownInstructions_eq]
  rfl

mutual

/-- The view of the root or of an element writes the node that it shows. -/
theorem Node.view_eq (guidance : Option Guidance) : (node : Node) → (path : String) →
    (node.view guidance path).1 = (node.shown guidance false).viewForm
  | .primitive about kind _, _ => by
    rw [Node.view, Node.shown, Node.viewForm, about.viewFields_shown_element, List.append_nil]
  | .array about items, path => by
    rw [Node.view, Node.shown, Node.viewForm, about.viewFields_shown_element,
      ← Node.view_eq guidance items (itemPath path)]
  | .object about properties required _, path => by
    rw [Node.view, Node.shown, Node.viewForm, about.viewFields_shown_element,
      ← childViews_eq guidance properties (childPath path)]
  | .unknown about type _, _ => by
    rw [Node.view, Node.shown, Node.viewForm, about.viewFields_shown_element, List.append_nil]

/-- The view of a field writes the node that it shows. -/
theorem Node.fieldView_eq (guidance : Option Guidance) : (node : Node) → (path : String) →
    (node.fieldView guidance path).1 = (node.shown guidance true).viewForm
  | .primitive about kind _, path => by
    rw [Node.fieldView, Node.shown, Node.viewForm, about.viewFields_shown_field guidance path,
      List.append_nil]
  | .array about items, path => by
    rw [Node.fieldView, Node.shown, Node.viewForm, about.viewFields_shown_field guidance path,
      ← Node.view_eq guidance items (itemPath path)]
  | .object about properties required _, path => by
    rw [Node.fieldView, Node.shown, Node.viewForm, about.viewFields_shown_field guidance path,
      ← childViews_eq guidance properties (fieldPath path)]
  | .unknown about type _, path => by
    rw [Node.fieldView, Node.shown, Node.viewForm, about.viewFields_shown_field guidance path,
      List.append_nil]

/-- The views of fields write the nodes that they show. -/
theorem childViews_eq (guidance : Option Guidance) : (kids : Properties) →
    (childPath : String → String) →
    (childViews guidance childPath kids).1 = viewForms (shownAll guidance kids)
  | [], _ => rfl
  | (name, node) :: rest, childPath => by
    rw [childViews, shownAll, viewForms, ← Node.fieldView_eq guidance node (childPath name),
      ← childViews_eq guidance rest childPath]

end

theorem Tree.outline_eq (t : Tree) : t.outline = (t.root.shown none false).viewForm :=
  Node.view_eq none t.root ""

theorem Tree.guidance_eq (guidance : Guidance) (t : Tree) :
    (t.guidance guidance).1 = (t.root.shown (some guidance) false).viewForm :=
  Node.view_eq (some guidance) t.root ""

/-! ## Reading what a view shows -/

@[simp] theorem Node.type_shown (guidance : Option Guidance) (isField : Bool) (node : Node) :
    (node.shown guidance isField).type = node.type := by
  cases node <;> rfl

@[simp] theorem Node.isObject_shown (guidance : Option Guidance) (isField : Bool) (node : Node) :
    (node.shown guidance isField).isObject = node.isObject := by
  cases node <;> rfl

section Fields

variable {guidance : Option Guidance} {isField : Bool} {about : Presentation} {type : String}
  {parts : List (String × Value)}

theorem lookup_viewFields {key : String} (htype : key ≠ "type") (hkey : key ∉ presentationKeys) :
    Value.lookup (.name key) (Value.named (about.viewFields type parts)) =
      Value.lookup (.name key) (Value.named parts) := by
  have hnot : key ≠ "title" ∧ key ≠ "extractionInstructions" ∧ key ≠ "enum" := by
    simp only [presentationKeys, List.mem_cons, not_or] at hkey
    exact ⟨hkey.1, hkey.2.2.2.1, hkey.2.2.2.2.2.2.1⟩
  simp [Presentation.viewFields, viewHead, viewEnum, Value.lookup_append, lookup_whenStated,
    Value.lookup, Ne.symm htype, hnot]

theorem getD_type_viewFields :
    Value.getD (Value.named (about.viewFields type parts)) "type" = .string type := rfl

/-- A view tells how the node that it shows is presented. -/
theorem presentation_viewFields
    (hparts : ∀ name ∈ parts.map Prod.fst, name ∉ presentationKeys) :
    presentation (Value.named ((about.shown guidance isField).viewFields type parts)) =
      .ok (about.shown guidance isField) := by
  refine presentation_of_getD fun key hkey => ?_
  have hpart : Value.lookup (.name key) (Value.named parts) = none :=
    Value.lookup_named_eq_none fun hmem => hparts key hmem hkey
  simp only [Value.getD, Presentation.viewFields, viewHead, viewEnum, Presentation.fields,
    Value.named_append, Value.named_cons, Value.lookup_append, lookup_whenStated, Value.lookup,
    hpart]
  revert key
  simp [presentationKeys, Presentation.shown]

end Fields

/-- The node comes back from the layout of views. -/
def Node.ReadsBack (node : Node) : Prop := ∀ path, readNode path node.viewForm = .ok node

theorem Node.viewForm_eq_object (node : Node) : ∃ entries, node.viewForm = .object entries ∧
    Value.getD entries "type" = .string node.type ∧
      (node.isObject = true → Value.has entries "properties" = true) := by
  cases node with
  | primitive about kind limits => exact ⟨_, rfl, rfl, fun h => absurd h Bool.false_ne_true⟩
  | array about items => exact ⟨_, rfl, rfl, fun h => absurd h Bool.false_ne_true⟩
  | object about properties required additional =>
    refine ⟨_, rfl, rfl, fun _ => ?_⟩
    rw [Value.has, lookup_viewFields (by decide) (by decide)]
    rfl
  | unknown about type raw => exact ⟨_, rfl, rfl, fun h => absurd h Bool.false_ne_true⟩

section ReadsBack

variable {guidance : Option Guidance} {isField : Bool} {about : Presentation}

theorem Node.readsBack_primitive (kind : Primitive) :
    (Node.primitive (about.shown guidance isField) kind {}).ReadsBack := by
  intro path
  refine readNode_of_bounds (typeName_of_getD getD_type_viewFields kind.name_ne_empty)
    (presentation_viewFields (by simp)) (bounds_of_getD fun key hkey => ?_)
  have hnot : key ≠ "type" ∧ key ∉ presentationKeys := by
    revert key
    decide
  rw [Value.getD, lookup_viewFields hnot.1 hnot.2]
  rfl

theorem Node.readsBack_array {items : Node} (hitems : items.ReadsBack)
    (hobject : items.type = objectType → items.isObject = true) :
    (Node.array (about.shown guidance isField) items).ReadsBack := by
  intro path
  have hlookup : Value.lookup (.name "items") (Value.named
      ((about.shown guidance isField).viewFields arrayType [("items", items.viewForm)])) =
        some items.viewForm := by
    rw [lookup_viewFields (by decide) (by decide)]
    rfl
  have hcheck : checkItems path (Value.named
      ((about.shown guidance isField).viewFields arrayType [("items", items.viewForm)])) =
        .ok () := by
    obtain ⟨entries, hform, htype, hprops⟩ := items.viewForm_eq_object
    unfold checkItems
    rw [Value.getD, hlookup, hform]
    simp only [Option.getD_some, htype, Value.string.injEq]
    exact if_neg fun h => h.2 (hprops (hobject h.1))
  have hparts : ∀ name ∈ [("items", items.viewForm)].map Prod.fst, name ∉ presentationKeys := by
    simp
    decide
  exact readNode_array (typeName_of_getD getD_type_viewFields (by decide)) hcheck hlookup
    (hitems _) (presentation_viewFields hparts)

theorem Node.readsBack_unknown {type : String} (hempty : type ≠ "")
    (hname : Primitive.ofName? type = none) (harray : type ≠ arrayType)
    (hobject : type ≠ objectType) : (Node.unknown (about.shown guidance isField) type
      ((about.shown guidance isField).viewFields type [])).ReadsBack := fun _ =>
  readNode_unknown (typeName_of_getD getD_type_viewFields hempty) hname harray hobject
    (presentation_viewFields (by simp)) (namedEntries_named _)

/-! ## Objects -/

variable {kids : Properties} {required : List String}

theorem readChildren_viewForms (h : ∀ kid ∈ kids, kid.2.ReadsBack) (path : Path) :
    readChildren path (Value.named (viewForms kids)) =
      .ok (kids.map fun kid => (.name kid.1, kid.2)) := by
  induction kids with
  | nil => rfl
  | cons kid kids ih =>
    obtain ⟨name, node⟩ := kid
    rw [List.forall_mem_cons] at h
    have hhead := h.1 (path ++ [.child (Key.name name).plain])
    have hshow : (Key.name name).isShowable = true := rfl
    rw [viewForms, Value.named_cons, readChildren]
    simp only [hshow, hhead, ih h.2]
    rfl

/-- The entries of the view of an object, after those that tell what it is. -/
abbrev viewEntries (about : Presentation) (required : List String) (kids : Properties) :
    Value.Entries :=
  Value.named (about.viewFields objectType (viewMembers required (viewForms kids)))

theorem getD_properties_viewEntries :
    Value.getD (viewEntries about required kids) "properties" = .record (viewForms kids) := by
  rw [Value.getD, lookup_viewFields (by decide) (by decide)]
  rfl

theorem requiredList_viewEntries (path : Path) :
    requiredList path (viewEntries about required kids) = .ok (required.map .string) := by
  rw [requiredList, Value.getD, lookup_viewFields (by decide) (by decide)]
  cases required <;> rfl

theorem checkProperties_viewEntries (path : Path) :
    checkProperties path (viewEntries about required kids) = .ok () := by
  rw [checkProperties, getD_properties_viewEntries]
  rfl

theorem readProperties_viewEntries (h : ∀ kid ∈ kids, kid.2.ReadsBack) (path : Path) :
    readProperties path (viewEntries about required kids) =
      .ok (kids.map fun kid => (.name kid.1, kid.2)) := by
  rw [readProperties_eq, getD_properties_viewEntries]
  exact readChildren_viewForms h path

theorem presentation_viewEntries :
    presentation (viewEntries (about.shown guidance isField) required kids) =
      .ok (about.shown guidance isField) :=
  presentation_viewFields (by simp [viewMembers, presentationKeys])

theorem additional_viewEntries : additional (viewEntries about required kids) = .ok none := by
  rw [additional, detail, Value.getD, lookup_viewFields (by decide) (by decide)]
  rfl

theorem Node.readsBack_object (h : ∀ kid ∈ kids, kid.2.ReadsBack) :
    (Node.object (about.shown guidance isField) kids required none).ReadsBack := fun path =>
  readNode_object (typeName_of_getD getD_type_viewFields (by decide))
    (checkProperties_viewEntries path) (requiredList_viewEntries path)
    (readProperties_viewEntries h path) presentation_viewEntries (childNames_names kids)
    (requiredNames_strings required) additional_viewEntries

end ReadsBack

/-! ## Nodes that were read -/

/-- Fields are shown as fields that are read again when that holds of the children that they
stand for. -/
theorem readsBack_of_childNames {guidance : Option Guidance} {children : List (Key × Node)}
    {kids : Properties} (hkids : childNames children = .ok kids)
    (h : ∀ child ∈ children, (child.2.shown guidance true).ReadsBack) :
    ∀ kid ∈ shownAll guidance kids, kid.2.ReadsBack := by
  intro shown hshown
  rw [shownAll_eq_map, List.mem_map] at hshown
  obtain ⟨kid, hkid, rfl⟩ := hshown
  obtain ⟨child, hchild, heq⟩ := mem_of_childNames hkids kid hkid
  rw [← heq]
  exact h child hchild

mutual

/-- What a view shows of a node that was read is read again. -/
theorem Reads.readsBack_shown (guidance : Option Guidance) : {v : Value} → {node : Node} →
    Reads v node → (isField : Bool) → (node.shown guidance isField).ReadsBack
  | _, _, .primitive _ _ _, _ => Node.readsBack_primitive _
  | _, _, .array _ _ _ hitems, _ => by
    refine Node.readsBack_array (hitems.readsBack_shown guidance false) fun htype => ?_
    rw [Node.type_shown] at htype
    rw [Node.isObject_shown]
    exact hitems.hidesNoObject.isObject htype
  | _, _, .object _ _ hchildren hkids _ _, _ =>
    Node.readsBack_object (readsBack_of_childNames hkids (hchildren.readsBack_shown guidance))
  | _, _, .unknown _ hempty hname harray hobject _ _, _ =>
    Node.readsBack_unknown hempty hname harray hobject

theorem ReadsAll.readsBack_shown (guidance : Option Guidance) : {es : Value.Entries} →
    {children : List (Key × Node)} → ReadsAll es children →
      ∀ child ∈ children, (child.2.shown guidance true).ReadsBack
  | _, _, .nil => by simp
  | _, _, .cons hfirst hrest => by
    rw [List.forall_mem_cons]
    exact ⟨hfirst.readsBack_shown guidance true, hrest.readsBack_shown guidance⟩

end

/-- The tree that a view of a tree shows. -/
def Tree.shown (guidance : Option Guidance) (t : Tree) : Tree where
  dialect := none
  about := t.about.shown guidance false
  properties := shownAll guidance t.properties
  required := t.required
  additional := none

theorem Tree.root_shown (guidance : Option Guidance) (t : Tree) :
    (t.shown guidance).root = t.root.shown guidance false := by
  rw [Tree.root, Tree.root, Node.shown]
  rfl

/-- The fields of a tree that was read are shown as fields that are read again. -/
theorem Tree.readsBack_shownAll {d : Value} {t : Tree} (h : Tree.ofValue d = .ok t)
    (guidance : Option Guidance) : ∀ kid ∈ shownAll guidance t.properties, kid.2.ReadsBack := by
  have hreads := Tree.reads_of_ofValue h
  rw [Tree.root] at hreads
  cases hreads with
  | object _ _ hchildren hkids _ _ =>
    exact readsBack_of_childNames hkids (hchildren.readsBack_shown guidance)

/-- The view of a tree that was read is read as the tree that it shows. -/
theorem Tree.ofValue_viewForm {d : Value} {t : Tree} (h : Tree.ofValue d = .ok t)
    (guidance : Option Guidance) :
    Tree.ofValue (t.root.shown guidance false).viewForm = .ok (t.shown guidance) := by
  let entries := viewEntries (t.about.shown guidance false) t.required
    (shownAll guidance t.properties)
  have hform : (t.root.shown guidance false).viewForm = .object entries := by
    rw [Tree.root, Node.shown, Node.viewForm]
    rfl
  have hdialect : detail "$schema" "schema_uri" Reading.text entries = .ok none := by
    rw [detail, Value.getD, lookup_viewFields (by decide) (by decide)]
    rfl
  have hentries : Tree.ofEntries entries = .ok (t.shown guidance) :=
    Tree.ofEntries_eq_ok (checkProperties_viewEntries []) (requiredList_viewEntries [])
      (readProperties_viewEntries (Tree.readsBack_shownAll h guidance) []) presentation_viewEntries
      (childNames_names _) (requiredNames_strings _) additional_viewEntries hdialect
  rw [hform, Tree.ofValue]
  exact (if_pos getD_type_viewFields).trans hentries

end ExtractionSchema.Wire
