import ExtractionSchema.Proofs.Conversion.StandsFor

/-!
# Property lists come back from their trees

The node of a field stands for it, whatever its shape: a date is told by its format, a type without
a node of its own by the node's type, and a list of objects by its elements.

* `Shape.standsFor_node`: the node of a field stands for it.
* `Property.toProperties_ofProperties`: the properties of the tree of a property list that was read
  are that list, in its order.
-/

namespace ExtractionSchema

open Conversion

/-! ## The nodes that fields become -/

theorem ScalarItem.typeFields_array (about : Wire.Presentation) (item : ScalarItem) :
    Conversion.typeFields (.array about item.node) = SimpleShape.typeFields (.list item) := by
  cases item <;> rfl

theorem SimpleShape.standsFor_node (about : Wire.Presentation) (shape : SimpleShape) :
    StandsForSimple about shape (shape.node about) := by
  cases shape with
  | list item => exact ⟨rfl, ScalarItem.typeFields_array about item⟩
  | plain type =>
    unfold SimpleShape.node
    dsimp only
    split
    · rename_i hdate
      subst hdate
      exact ⟨rfl, rfl⟩
    · split
      · rename_i kind hkind
        rw [← Wire.Primitive.name_of_ofName? hkind]
        refine ⟨rfl, ?_⟩
        cases kind <;> rfl
      · exact ⟨rfl, rfl⟩

section Children

variable {α : Type} {info : α → FieldInfo} {stands : Wire.Presentation → α → Wire.Node → Prop}
  {node : Wire.Presentation → α → Wire.Node} {ps : List α}

theorem standFrom_childrenFrom {i : Nat}
    (h : ∀ about, ∀ p ∈ ps, stands about p (node about p)) :
    StandFrom info stands i ps (childrenFrom info node i ps) := by
  induction ps generalizing i with
  | nil => exact .nil
  | cons p ps ih =>
    have htail : ∀ about, ∀ q ∈ ps, stands about q (node about q) :=
      fun about q hq => h about q (List.mem_cons_of_mem _ hq)
    exact .cons (h _ p List.mem_cons_self) (ih htail)

/-- Children made from fields stand for them. -/
theorem standForAll_childrenFrom (h : ∀ about, ∀ p ∈ ps, stands about p (node about p)) :
    StandForAll info stands ps (childrenFrom info node 0 ps) (requiredOf info ps) :=
  ⟨⟨_, List.Perm.refl _, standFrom_childrenFrom h⟩, List.Perm.refl _⟩

end Children

/-- The node of a field stands for it. -/
theorem Shape.standsFor_node (about : Wire.Presentation) (shape : Shape) :
    StandsFor about shape (shape.node about) := by
  cases shape with
  | simple shape => exact SimpleShape.standsFor_node about shape
  | objects fs =>
    refine ⟨_, _, _, _, rfl, ?_⟩
    exact standForAll_childrenFrom fun about (f : NestedProperty) _ => f.shape.standsFor_node about

/-- The children of the tree of a property list stand for the properties. -/
theorem Wire.Tree.standForAll_ofProperties (ps : List Property) :
    StandForAll Property.info (fun about p => StandsFor about p.shape) ps
      (Wire.Tree.ofProperties ps).properties (Wire.Tree.ofProperties ps).required :=
  standForAll_childrenFrom fun about (p : Property) _ => p.shape.standsFor_node about

/-! ## The round trip -/

/-- The properties of the tree of a property list that was read are that list, in its order. -/
theorem Property.toProperties_ofProperties {v : Value} {ps : List Property}
    (h : Property.listOfValue v = .ok ps) : (Wire.Tree.ofProperties ps).toProperties = .ok ps := by
  have hps := Property.listOfValue_wellFormed h
  exact Wire.Tree.toProperties_of_standForAll hps (Wire.Tree.standForAll_ofProperties ps)

/-- A document of three fields: a required date, a field of a type of its own, and a list of
objects. -/
def sampleDocument : Value :=
  .list [
    .record [("name", .string "due"), ("type", .string "date"), ("required", .bool true),
      ("priority", .string "high"),
      ("examples", .list [.record [("input", .string "by May 1"),
        ("output", .record [("day", .int 1), ("notes", .list [.null])])]])],
    .record [("name", .string "kind"), ("type", .string "object"), ("title", .string "Kind")],
    .record [("name", .string "rows"), ("type", .string "list"),
      ("fields", .list [
        .record [("name", .string "paid"), ("type", .string "date"), ("required", .bool true)],
        .record [("name", .string "tags"), ("type", .string "list")]])]]

/-- The property list of the document. -/
def sampleProperties : List Property := [
  { info := { name := "due", title := "due", description := "", importance := some .high,
              required := true, instructions := none,
              examples := some [⟨"", "by May 1",
                .record [("day", .int 1), ("notes", .list [.null])]⟩] },
    shape := .simple (.plain "date") },
  { info := { name := "kind", title := "Kind", description := "", importance := none,
              required := false, instructions := none, examples := none },
    shape := .simple (.plain "object") },
  { info := { name := "rows", title := "rows", description := "", importance := none,
              required := false, instructions := none, examples := none },
    shape := .objects [
      { info := { name := "paid", title := "paid", description := "", importance := none,
                  required := true, instructions := none, examples := none },
        shape := .plain "date" },
      { info := { name := "tags", title := "tags", description := "", importance := none,
                  required := false, instructions := none, examples := none },
        shape := .list .string }] }]

theorem Property.listOfValue_sample :
    Property.listOfValue sampleDocument = .ok sampleProperties := by
  rfl

theorem Property.toProperties_ofProperties_sample :
    Property.listOfValue sampleDocument = .ok sampleProperties ∧
      (Wire.Tree.ofProperties sampleProperties).toProperties = .ok sampleProperties :=
  ⟨Property.listOfValue_sample, Property.toProperties_ofProperties Property.listOfValue_sample⟩

end ExtractionSchema
