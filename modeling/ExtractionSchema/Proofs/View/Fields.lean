import ExtractionSchema.Proofs.View.Shown
import ExtractionSchema.Proofs.Wire.Contents

/-!
# The fields of a tree and what is cut from them

The fields of a tree are its named nodes, each with the path that leads to it: a field stands
before the fields within it, `[]` marks the elements of an array, and elements are no fields
themselves. The guidance view goes through the fields in this order, and cuts instructions that are
too long.

* `Node.fields` lists the fields within a node, and `cutBeyond` says what is cut from a text.
* `Tree.truncations_guidance`: the view makes one truncation for each text that is too long.
* `Tree.instructions_guidance`: all instructions that the view shows are short enough.
-/

namespace ExtractionSchema

/-- The truncation of a text that is longer than a limit. -/
def cutBeyond (site : CutSite) (limit : Nat) : Option String → Option Truncation
  | some s => if limit < s.length then some ⟨site, s.length, limit⟩ else none
  | none => none

theorem filterMap_cons_toList {α β : Type} (f : α → Option β) (a : α) (as : List α) :
    (a :: as).filterMap f = (f a).toList ++ as.filterMap f := by
  cases h : f a <;> simp [h]

namespace Wire

/-! ## Fields -/

/-- The path of a field in what stands at a place; at the root it is the name. -/
def pathIn (place : Option String) (name : String) : String :=
  match place with
  | some path => path ++ "." ++ name
  | none => name

mutual

/-- The fields within a node at a place, with their paths. -/
def Node.fields (place : Option String) : Node → List (String × Node)
  | .object _ properties _ _ => fieldsAmong place properties
  | .array _ items => items.fields (some (place.getD "" ++ "[]"))
  | .primitive _ _ _ | .unknown _ _ _ => []

/-- Fields and the fields within them, with their paths. -/
def fieldsAmong (place : Option String) : List (String × Node) → List (String × Node)
  | [] => []
  | (name, node) :: rest =>
    (pathIn place name, node) :: (node.fields (some (pathIn place name)) ++ fieldsAmong place rest)

end

/-- What a view cuts from a field. -/
def viewCut (limit : Nat) (field : String × Node) : Option Truncation :=
  cutBeyond (.view field.1) limit field.2.about.instructions

/-- What the guidance view of a tree cuts. -/
def Tree.viewCuts (t : Tree) (limit : Nat) : List Truncation :=
  (t.root.fields none).filterMap (viewCut limit)

/-! ## Truncations of views -/

section Cuts

variable {limit : Nat} {ellipsis : String}

theorem cap_cuts (site : CutSite) (ellipsis s : String) :
    (cap site limit ellipsis s).2 = (cutBeyond site limit (some s)).toList := by
  by_cases h : limit < s.length
  · simp [cap, Text.exceeds, cutBeyond, h]
  · simp [cap, Text.exceeds, cutBeyond, h]

theorem shownInstructions_cuts (path : String) (about : Presentation) :
    (shownInstructions (some ⟨limit, ellipsis⟩) path about).2 =
      (cutBeyond (.view path) limit about.instructions).toList := by
  unfold shownInstructions
  cases about.instructions with
  | none => rfl
  | some s =>
    by_cases hempty : s = ""
    · simp [hempty, cutBeyond]
    · simp only [hempty, if_false]
      exact cap_cuts _ _ _

mutual

/-- The view of the root or of an element cuts what is too long in the fields within it. -/
theorem Node.view_cuts : (node : Node) → (place : Option String) →
    (∀ path, place = some path → path ≠ "") →
      (node.view (some ⟨limit, ellipsis⟩) (place.getD "")).2 =
        (node.fields place).filterMap (viewCut limit)
  | .primitive _ _ _, _, _ | .unknown _ _ _, _, _ => rfl
  | .array about items, place, _ => by
    rw [Node.view, Node.fields]
    exact Node.view_cuts items (some (place.getD "" ++ "[]")) fun path hpath => by
      cases hpath
      simp
  | .object about kids required more, place, hplace => by
    rw [Node.view, Node.fields]
    exact childViews_cuts kids place (childPath (place.getD "")) fun name => by
      cases place with
      | none => rfl
      | some path => simp [childPath, pathIn, hplace path rfl]

/-- The view of a field cuts what is too long in it and in the fields within it. -/
theorem Node.fieldView_cuts : (node : Node) → (path : String) →
    (node.fieldView (some ⟨limit, ellipsis⟩) path).2 =
      ((path, node) :: node.fields (some path)).filterMap (viewCut limit)
  | .primitive about _ _, path | .unknown about _ _, path => by
    rw [Node.fieldView, Node.fields, filterMap_cons_toList, viewCut, shownInstructions_cuts]
    exact (List.append_nil _).symm
  | .array about items, path => by
    have hitems := Node.view_cuts items (some (path ++ "[]")) fun path hpath => by
      cases hpath
      simp
    rw [Node.fieldView, Node.fields, filterMap_cons_toList]
    exact congrArg₂ (· ++ ·) (shownInstructions_cuts path about) hitems
  | .object about kids required more, path => by
    have hkids := childViews_cuts kids (some path) (fieldPath path) fun _ => rfl
    rw [Node.fieldView, Node.fields, filterMap_cons_toList]
    exact congrArg₂ (· ++ ·) (shownInstructions_cuts path about) hkids

theorem childViews_cuts : (kids : List (String × Node)) → (place : Option String) →
    (path : String → String) → (∀ name, path name = pathIn place name) →
      (childViews (some ⟨limit, ellipsis⟩) path kids).2 =
        (fieldsAmong place kids).filterMap (viewCut limit)
  | [], _, _, _ => rfl
  | (name, node) :: rest, place, path, hpath => by
    have hfield := Node.fieldView_cuts node (path name)
    have hrest := childViews_cuts rest place path hpath
    rw [childViews, fieldsAmong, ← hpath name, ← List.cons_append, List.filterMap_append, ← hfield,
      ← hrest]

end

/-- The guidance view makes one truncation for each field whose instructions are too long, in the
order of the fields. -/
theorem Tree.truncations_guidance (t : Tree) :
    (t.guidance ⟨limit, ellipsis⟩).2 = t.viewCuts limit :=
  Node.view_cuts t.root none fun _ hpath => by cases hpath

end Cuts

/-! ## What views show -/

/-- Within the view of a tree, a value shows a node: the view itself, the items of what shows a
node, or one of its children. -/
inductive ShowsNode : Value → Value → Prop
  | here {view : Value} : ShowsNode view view
  | items {es : Value.Entries} {shown v : Value}
      (hitems : Value.lookup (.name "items") es = some shown) (h : ShowsNode shown v) :
      ShowsNode (.object es) v
  | child {es kids : Value.Entries} {kid : Key × Value} {v : Value}
      (hkids : Value.lookup (.name "properties") es = some (.object kids)) (hkid : kid ∈ kids)
      (h : ShowsNode kid.2 v) : ShowsNode (.object es) v

/-- All instructions that a view shows are texts within a bound. -/
def InstructionsWithin (bound : Nat) (view : Value) : Prop :=
  ∀ v, ShowsNode view v → ∀ w, v.get? "extractionInstructions" = some w →
    ∃ s : String, w = .string s ∧ s.length ≤ bound

/-- The instructions of a presentation are within a bound. -/
def Presentation.IsWithin (bound : Nat) (about : Presentation) : Prop :=
  ∀ s, about.instructions = some s → s.length ≤ bound

section Shown

variable {es : Value.Entries} {node : Node}

theorem Node.get?_instructions_viewForm (node : Node) :
    node.viewForm.get? "extractionInstructions" = node.about.instructions.map .string := by
  cases node <;>
    simp [viewForm, about, Value.record, Value.get?, Presentation.viewFields, viewHead, viewEnum,
      viewMembers, Value.lookup_append, lookup_whenStated, Value.lookup]

theorem Node.exists_items (hview : node.viewForm = .object es) {v : Value}
    (h : Value.lookup (.name "items") es = some v) :
    ∃ about items, node = .array about items ∧ v = items.viewForm := by
  cases node with
  | array about items =>
    rw [viewForm, Value.record, Value.object.injEq] at hview
    rw [← hview, lookup_viewFields (by decide) (by decide)] at h
    exact ⟨about, items, rfl, (Option.some.inj h).symm⟩
  | primitive | object | unknown =>
    rw [viewForm, Value.record, Value.object.injEq] at hview
    rw [← hview, lookup_viewFields (by decide) (by decide)] at h
    cases h

theorem Node.exists_kids (hview : node.viewForm = .object es) {kids : Value.Entries}
    (h : Value.lookup (.name "properties") es = some (.object kids)) :
    ∃ about properties required more, node = .object about properties required more ∧
      kids = Value.named (viewForms properties) := by
  cases node with
  | object about properties required more =>
    rw [viewForm, Value.record, Value.object.injEq] at hview
    rw [← hview, lookup_viewFields (by decide) (by decide)] at h
    have hkids : Value.record (viewForms properties) = .object kids := Option.some.inj h
    exact ⟨about, properties, required, more, rfl, (Value.object.inj hkids).symm⟩
  | primitive | array | unknown =>
    rw [viewForm, Value.record, Value.object.injEq] at hview
    rw [← hview, lookup_viewFields (by decide) (by decide)] at h
    cases h

/-- A node with instructions within a bound shows only such instructions. -/
theorem Node.instructionsWithin_viewForm {bound : Nat}
    (h : node.All (Presentation.IsWithin bound) fun _ => True) :
    InstructionsWithin bound node.viewForm := by
  intro v hv w hw
  generalize hview : node.viewForm = view at hv
  induction hv generalizing node with
  | here =>
    rw [← hview, Node.get?_instructions_viewForm, Option.map_eq_some_iff] at hw
    obtain ⟨s, hs, rfl⟩ := hw
    exact ⟨s, rfl, h.about s hs⟩
  | items hitems _ ih =>
    obtain ⟨about, items, rfl, rfl⟩ := Node.exists_items hview hitems
    exact ih h.2 hw rfl
  | child hkids hkid _ ih =>
    obtain ⟨about, properties, required, more, rfl, rfl⟩ := Node.exists_kids hview hkids
    rw [viewForms_eq_map] at hkid
    obtain ⟨field, hfield, rfl⟩ := List.mem_map.mp hkid
    obtain ⟨child, hchild, rfl⟩ := List.mem_map.mp hfield
    exact ih (allWithin_iff.mp h.2 child hchild) hw rfl

end Shown

mutual

/-- What holds of every presentation that is shown holds within every node that is shown. -/
theorem Node.all_shown {guidance : Option Guidance} {A : Presentation → Prop}
    (hA : ∀ (about : Presentation) isField, A (about.shown guidance isField)) :
    (node : Node) → (isField : Bool) → (node.shown guidance isField).All A fun _ => True
  | .primitive about _ _, isField => ⟨hA about isField, trivial⟩
  | .array about items, isField => ⟨hA about isField, Node.all_shown hA items false⟩
  | .object about properties _ _, isField => ⟨hA about isField, allWithin_shownAll hA properties⟩
  | .unknown about _ _, isField => hA about isField

theorem allWithin_shownAll {guidance : Option Guidance} {A : Presentation → Prop}
    (hA : ∀ (about : Presentation) isField, A (about.shown guidance isField)) :
    (kids : Properties) → AllWithin A (fun _ => True) (shownAll guidance kids)
  | [] => trivial
  | (_, node) :: rest => ⟨Node.all_shown hA node true, allWithin_shownAll hA rest⟩

end

/-- Instructions that are shown are cut to the limit. -/
theorem Presentation.isWithin_shown (limit : Nat) (ellipsis : String) (about : Presentation)
    (isField : Bool) :
    (about.shown (some ⟨limit, ellipsis⟩) isField).IsWithin (limit + ellipsis.length) := by
  intro s hs
  cases isField with
  | false => cases hs
  | true =>
    have htext : shownText (some ⟨limit, ellipsis⟩) about.instructions = some s := hs
    unfold shownText at htext
    cases hinstructions : about.instructions with
    | none => simp [hinstructions] at htext
    | some full =>
      by_cases hempty : full = ""
      · simp [hinstructions, hempty] at htext
      · simp only [hinstructions, hempty, if_false, Option.some.injEq] at htext
        rw [← htext]
        exact Text.capped_length_le

theorem Tree.instructions_guidance (t : Tree) (limit : Nat) (ellipsis : String) :
    InstructionsWithin (limit + ellipsis.length) (t.guidance ⟨limit, ellipsis⟩).1 := by
  rw [Tree.guidance_eq]
  apply Node.instructionsWithin_viewForm
  exact Node.all_shown (Presentation.isWithin_shown limit ellipsis) t.root false

/-- The outline shows no instructions at all. -/
theorem Tree.instructions_outline (t : Tree) : InstructionsWithin 0 t.outline := by
  rw [Tree.outline_eq]
  apply Node.instructionsWithin_viewForm
  refine Node.all_shown (fun about isField s hs => ?_) t.root false
  cases isField <;> cases hs

end Wire

end ExtractionSchema
