import ExtractionSchema.Proofs.Value.Entries
import ExtractionSchema.Proofs.Wire.Reads

/-!
# The grammar of wire trees

What a document must look like to be read as a tree, said of the document alone: which kinds of
values may stand in it under which names. An object node states properties and required names, an
array node states its items, and every node may state how it is presented. Wherever a document
leaves the grammar, one of its parts breaks a rule of its own, at a place of the document.

* `IsNode` and `IsRoot` are the documents of nodes and of trees.
* `IsBrokenAt` and `IsRootBrokenAt` are the places at which a document breaks a rule. A document
  of the grammar is broken nowhere (`IsBrokenAt.not_isNode`, `IsRootBrokenAt.not_isRoot`).
-/

namespace ExtractionSchema.Wire

/-! ## Kinds of values -/

def IsText (v : Value) : Prop := ∃ s, v = .string s

def IsMapping (v : Value) : Prop := ∃ es, v = .object es

def IsList (v : Value) : Prop := ∃ vs, v = .list vs

def IsListOf (kind : Value → Prop) (v : Value) : Prop := ∃ vs, v = .list vs ∧ ∀ w ∈ vs, kind w

/-- Whether a reader of single fields takes the value. -/
def IsTaken {α : Type} (read : Value → Checked α) (v : Value) : Prop := ∃ a, read v = .ok a

/-- Nothing but `null` stands under the name, or a value of the kind. -/
def MayState (entries : Value.Entries) (name : String) (kind : Value → Prop) : Prop :=
  Value.getD entries name = .null ∨ kind (Value.getD entries name)

/-- What stands under the name counts as nothing, or is of the kind. -/
def StatesIfAny (entries : Value.Entries) (name : String) (kind : Value → Prop) : Prop :=
  (Value.getD entries name).truthy = false ∨ kind (Value.getD entries name)

/-! ## Fields of nodes -/

/-- What a node of any type may state. -/
structure HasPresentation (entries : Value.Entries) : Prop where
  title : MayState entries "title" IsText
  description : MayState entries "description" IsText
  importance : MayState entries "importance" IsText
  instructions : MayState entries "extractionInstructions" IsText
  displayName : MayState entries "displayName" IsText
  examples : MayState entries "examples" (IsListOf IsMapping)
  enum : MayState entries "enum" IsList
  order : MayState entries "order" (IsTaken Reading.integer)

/-- What a primitive node may state besides. -/
structure HasBounds (entries : Value.Entries) : Prop where
  format : MayState entries "format" IsText
  minLength : MayState entries "minLength" (IsTaken Reading.integer)
  maxLength : MayState entries "maxLength" (IsTaken Reading.integer)
  minimum : MayState entries "minimum" (IsTaken Reading.number)
  maximum : MayState entries "maximum" (IsTaken Reading.number)

/-- What an object node may state besides. -/
structure HasMembers (entries : Value.Entries) : Prop where
  properties : StatesIfAny entries "properties" IsMapping
  required : StatesIfAny entries "required" (IsListOf IsText)
  additional : MayState entries "additionalProperties" (IsTaken Reading.flag)

/-- A list of objects says so in its items, and which properties they have. -/
def StatesNested (v : Value) : Prop :=
  v.get? "type" = some (.string objectType) → (v.get? "properties").isSome

/-! ## Nodes and roots -/

/-- The value is a node, and so are those within it. -/
inductive IsNode : Value → Prop
  | primitive {entries : Value.Entries} {kind : Primitive}
      (htype : Value.getD entries "type" = .string kind.name) (habout : HasPresentation entries)
      (hbounds : HasBounds entries) : IsNode (.object entries)
  | array {entries : Value.Entries} {v : Value}
      (htype : Value.getD entries "type" = .string arrayType) (habout : HasPresentation entries)
      (hlookup : Value.lookup (.name "items") entries = some v) (hnested : StatesNested v)
      (hitems : IsNode v) : IsNode (.object entries)
  | object {entries : Value.Entries} (htype : Value.getD entries "type" = .string objectType)
      (habout : HasPresentation entries) (hmembers : HasMembers entries)
      (hchildren : ∀ e ∈ members entries, IsNode e.2) : IsNode (.object entries)
  | unknown {entries : Value.Entries} {type : String}
      (htype : Value.getD entries "type" = .string type) (hempty : type ≠ "")
      (hname : Primitive.ofName? type = none) (harray : type ≠ arrayType)
      (hobject : type ≠ objectType) (habout : HasPresentation entries) : IsNode (.object entries)

/-- The value is the root of a tree: an object node that may state a dialect. -/
inductive IsRoot : Value → Prop
  | intro {entries : Value.Entries} (htype : Value.getD entries "type" = .string objectType)
      (habout : HasPresentation entries) (hmembers : HasMembers entries)
      (hchildren : ∀ e ∈ members entries, IsNode e.2)
      (hdialect : MayState entries "$schema" IsText) : IsRoot (.object entries)

/-! ## Places that break a rule -/

/-- The value breaks a rule of nodes itself, with what it states at the place. -/
inductive BreaksRule : Value → Path → Prop
  | notObject {v : Value} (h : ¬ IsMapping v) : BreaksRule v []
  | noType {entries : Value.Entries}
      (h : ∀ type, Value.getD entries "type" = .string type → type = "") :
      BreaksRule (.object entries) []
  | about {entries : Value.Entries} (h : ¬ HasPresentation entries) :
      BreaksRule (.object entries) []
  | bounds {entries : Value.Entries} {kind : Primitive}
      (htype : Value.getD entries "type" = .string kind.name) (h : ¬ HasBounds entries) :
      BreaksRule (.object entries) []
  | noItems {entries : Value.Entries} (htype : Value.getD entries "type" = .string arrayType)
      (h : Value.getD entries "items" = .null) : BreaksRule (.object entries) []
  | noProperties {entries : Value.Entries} {v : Value}
      (htype : Value.getD entries "type" = .string arrayType)
      (hlookup : Value.lookup (.name "items") entries = some v) (h : ¬ StatesNested v) :
      BreaksRule (.object entries) [.items]
  | properties {entries : Value.Entries} (htype : Value.getD entries "type" = .string objectType)
      (h : ¬ StatesIfAny entries "properties" IsMapping) :
      BreaksRule (.object entries) [.properties]
  | required {entries : Value.Entries} (htype : Value.getD entries "type" = .string objectType)
      (h : ¬ StatesIfAny entries "required" IsList) : BreaksRule (.object entries) [.required]
  | requiredNames {entries : Value.Entries}
      (htype : Value.getD entries "type" = .string objectType)
      (h : ¬ StatesIfAny entries "required" (IsListOf IsText)) : BreaksRule (.object entries) []
  | additional {entries : Value.Entries} (htype : Value.getD entries "type" = .string objectType)
      (h : ¬ MayState entries "additionalProperties" (IsTaken Reading.flag)) :
      BreaksRule (.object entries) []

/-- A part of the value breaks a rule, at the place as seen from the value. -/
inductive IsBrokenAt : Value → Path → Prop
  | here {v : Value} {place : Path} (h : BreaksRule v place) : IsBrokenAt v place
  | items {entries : Value.Entries} {v : Value} {place : Path}
      (htype : Value.getD entries "type" = .string arrayType)
      (hlookup : Value.lookup (.name "items") entries = some v) (h : IsBrokenAt v place) :
      IsBrokenAt (.object entries) (.items :: place)
  | child {entries : Value.Entries} {name : String} {v : Value} {place : Path}
      (htype : Value.getD entries "type" = .string objectType)
      (hmem : (.name name, v) ∈ members entries) (h : IsBrokenAt v place) :
      IsBrokenAt (.object entries) (.child name :: place)

/-- The root breaks a rule of roots, or a part of it breaks one of nodes. -/
inductive IsRootBrokenAt : Value → Path → Prop
  | notObject {v : Value} (h : ¬ IsMapping v) : IsRootBrokenAt v []
  | type {entries : Value.Entries} (h : Value.getD entries "type" ≠ .string objectType) :
      IsRootBrokenAt (.object entries) []
  | dialect {entries : Value.Entries} (h : ¬ MayState entries "$schema" IsText) :
      IsRootBrokenAt (.object entries) []
  | node {entries : Value.Entries} {place : Path}
      (htype : Value.getD entries "type" = .string objectType)
      (h : IsBrokenAt (.object entries) place) : IsRootBrokenAt (.object entries) place

section Soundness

variable {v : Value} {entries : Value.Entries}

theorem IsNode.isMapping (h : IsNode v) : IsMapping v := by
  cases h <;> exact ⟨_, rfl⟩

theorem IsNode.hasPresentation (h : IsNode (.object entries)) : HasPresentation entries := by
  cases h <;> assumption

theorem IsNode.exists_type (h : IsNode (.object entries)) :
    ∃ type, Value.getD entries "type" = .string type ∧ type ≠ "" := by
  cases h with
  | primitive htype => exact ⟨_, htype, Primitive.name_ne_empty _⟩
  | array htype => exact ⟨_, htype, by decide⟩
  | object htype => exact ⟨_, htype, by decide⟩
  | unknown htype hempty => exact ⟨_, htype, hempty⟩

theorem Primitive.name_ne {type : String} (h : ofName? type = none) (kind : Primitive) :
    kind.name ≠ type := by
  rintro rfl
  rw [ofName?_name] at h
  cases h

theorem IsNode.hasBounds {kind : Primitive} (h : IsNode (.object entries))
    (htype : Value.getD entries "type" = .string kind.name) : HasBounds entries := by
  cases h with
  | primitive _ _ hbounds => exact hbounds
  | array htype' =>
    exact absurd (Value.string.inj (htype.symm.trans htype')) (Primitive.name_ne rfl kind)
  | object htype' =>
    exact absurd (Value.string.inj (htype.symm.trans htype')) (Primitive.name_ne rfl kind)
  | unknown htype' _ hname =>
    exact absurd (Value.string.inj (htype.symm.trans htype')) (Primitive.name_ne hname kind)

theorem IsNode.array_items (h : IsNode (.object entries))
    (htype : Value.getD entries "type" = .string arrayType) :
    ∃ v, Value.lookup (.name "items") entries = some v ∧ StatesNested v ∧ IsNode v := by
  cases h with
  | primitive htype' =>
    exact absurd (Value.string.inj (htype'.symm.trans htype)) (Primitive.name_ne rfl _)
  | array _ _ hlookup hnested hitems => exact ⟨_, hlookup, hnested, hitems⟩
  | object htype' => exact absurd (Value.string.inj (htype'.symm.trans htype)) (by decide)
  | unknown htype' _ _ harray => exact absurd (Value.string.inj (htype'.symm.trans htype)) harray

theorem IsNode.object_members (h : IsNode (.object entries))
    (htype : Value.getD entries "type" = .string objectType) :
    HasMembers entries ∧ ∀ e ∈ members entries, IsNode e.2 := by
  cases h with
  | primitive htype' =>
    exact absurd (Value.string.inj (htype'.symm.trans htype)) (Primitive.name_ne rfl _)
  | array htype' => exact absurd (Value.string.inj (htype'.symm.trans htype)) (by decide)
  | object _ _ hmembers hchildren => exact ⟨hmembers, hchildren⟩
  | unknown htype' _ _ _ hobject =>
    exact absurd (Value.string.inj (htype'.symm.trans htype)) hobject

/-- A list of texts is a list. -/
theorem StatesIfAny.isList {name : String} {kind : Value → Prop}
    (h : StatesIfAny entries name (IsListOf kind)) : StatesIfAny entries name IsList :=
  h.imp id fun ⟨vs, hvs, _⟩ => ⟨vs, hvs⟩

theorem BreaksRule.not_isNode {place : Path} (h : BreaksRule v place) : ¬ IsNode v := by
  intro hnode
  cases h with
  | notObject h => exact h hnode.isMapping
  | noType h =>
    obtain ⟨type, htype, hne⟩ := hnode.exists_type
    exact hne (h type htype)
  | about h => exact h hnode.hasPresentation
  | bounds htype h => exact h (hnode.hasBounds htype)
  | noItems htype h =>
    obtain ⟨v, hlookup, -, hitems⟩ := hnode.array_items htype
    obtain ⟨es, rfl⟩ := hitems.isMapping
    rw [Value.getD, hlookup] at h
    cases h
  | noProperties htype hlookup h =>
    obtain ⟨w, hw, hnested, -⟩ := hnode.array_items htype
    rw [hlookup, Option.some.injEq] at hw
    rw [hw] at h
    exact h hnested
  | properties htype h => exact h (hnode.object_members htype).1.properties
  | required htype h => exact h (hnode.object_members htype).1.required.isList
  | requiredNames htype h => exact h (hnode.object_members htype).1.required
  | additional htype h => exact h (hnode.object_members htype).1.additional

theorem IsBrokenAt.not_isNode {place : Path} (h : IsBrokenAt v place) : ¬ IsNode v := by
  induction h with
  | here h => exact h.not_isNode
  | items htype hlookup _ ih =>
    intro hnode
    obtain ⟨w, hw, -, hitems⟩ := hnode.array_items htype
    rw [hlookup, Option.some.injEq] at hw
    exact ih (hw ▸ hitems)
  | child htype hmem _ ih =>
    intro hnode
    exact ih ((hnode.object_members htype).2 _ hmem)

theorem IsRoot.isNode (h : IsRoot v) : IsNode v := by
  obtain ⟨htype, habout, hmembers, hchildren, -⟩ := h
  exact .object htype habout hmembers hchildren

theorem IsRootBrokenAt.not_isRoot {place : Path} (h : IsRootBrokenAt v place) : ¬ IsRoot v := by
  intro hroot
  cases h with
  | notObject h => exact h hroot.isNode.isMapping
  | type h =>
    obtain ⟨htype⟩ := hroot
    exact h htype
  | dialect h =>
    obtain ⟨_, _, _, _, hdialect⟩ := hroot
    exact h hdialect
  | node _ h => exact h.not_isNode hroot.isNode

end Soundness

end ExtractionSchema.Wire
