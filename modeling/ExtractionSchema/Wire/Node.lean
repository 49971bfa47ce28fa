import ExtractionSchema.Value.Basic

/-!
# Wire trees

The nested form in which a schema is stored and compiled. A node is a primitive, an array, an
object, or a node of an unknown type, which keeps everything it was read from. Every node carries
how it is presented to people and models. The root of a tree is an object node that may name its
schema dialect.

* `orderedProperties` puts the children of a node in display order: by their `order`, those
  without one last, and in their stored order where that leaves a choice.
-/

namespace ExtractionSchema.Wire

/-- The dialect that trees made from property lists name. -/
def dialect : String := "https://json-schema.org/draft/2020-12/schema"

/-- The types of primitive nodes. -/
inductive Primitive where
  | string
  | number
  | integer
  | boolean
deriving DecidableEq

namespace Primitive

/-- The types of primitive nodes by name. -/
def names : List (String × Primitive) :=
  [("string", .string), ("number", .number), ("integer", .integer), ("boolean", .boolean)]

/-- The name of a primitive type. -/
def name : Primitive → String
  | .string => "string"
  | .number => "number"
  | .integer => "integer"
  | .boolean => "boolean"

/-- The primitive type of a name. -/
def ofName? (name : String) : Option Primitive := names.lookup name

theorem ofName?_name (kind : Primitive) : ofName? kind.name = some kind := by
  cases kind <;> rfl

theorem name_of_ofName? {name : String} {kind : Primitive} (h : ofName? name = some kind) :
    kind.name = name := by
  obtain ⟨before, after, hnames, -⟩ := List.lookup_eq_some_iff.mp h
  have hmem : (name, kind) ∈ names := by
    rw [hnames]
    simp
  simp only [names, List.mem_cons, Prod.mk.injEq, List.not_mem_nil, or_false] at hmem
  rcases hmem with ⟨rfl, rfl⟩ | ⟨rfl, rfl⟩ | ⟨rfl, rfl⟩ | ⟨rfl, rfl⟩ <;> rfl

theorem name_ne_empty (kind : Primitive) : kind.name ≠ "" := by
  cases kind <;> decide

end Primitive

/-- The type name of object nodes. -/
def objectType : String := "object"

/-- The type name of array nodes. -/
def arrayType : String := "array"

/-- The format of dates. -/
def dateFormat : String := "date"

/-- An example as a node carries it: the entries of an object. -/
abbrev ExampleEntries := List (String × Value)

/-- How a node is presented: texts for people and models, examples, allowed values, and its place
among its siblings. -/
structure Presentation where
  title : Option String := none
  description : Option String := none
  importance : Option String := none
  instructions : Option String := none
  displayName : Option String := none
  examples : Option (List ExampleEntries) := none
  enum : Option (List Value) := none
  order : Option Int := none
deriving DecidableEq

/-- The constraints of a primitive node. -/
structure Bounds where
  format : Option String := none
  minLength : Option Int := none
  maxLength : Option Int := none
  minimum : Option Number := none
  maximum : Option Number := none
deriving DecidableEq

/-- A node of a wire tree. -/
inductive Node where
  | primitive (about : Presentation) (kind : Primitive) (bounds : Bounds)
  | array (about : Presentation) (items : Node)
  | object (about : Presentation) (properties : List (String × Node)) (required : List String)
      (additional : Option Bool)
  | unknown (about : Presentation) (type : String) (raw : List (String × Value))

/-- The named children of an object node. -/
abbrev Properties := List (String × Node)

/-- A wire tree: its root is an object node. -/
structure Tree where
  dialect : Option String
  about : Presentation
  properties : Properties
  required : List String
  additional : Option Bool

namespace Node

instance : Inhabited Node := ⟨.primitive {} .string {}⟩

/-- How the node is presented. -/
def about : Node → Presentation
  | .primitive about _ _ | .array about _ | .object about _ _ _ | .unknown about _ _ => about

/-- The type name of the node. -/
def type : Node → String
  | .primitive _ kind _ => kind.name
  | .array _ _ => arrayType
  | .object _ _ _ _ => objectType
  | .unknown _ type _ => type

/-- Whether the node is a text in the form of a date. -/
def isDate : Node → Bool
  | .primitive _ .string bounds => bounds.format = some dateFormat
  | _ => false

/-- Whether the node is an object. -/
def isObject : Node → Bool
  | .object _ _ _ _ => true
  | _ => false

end Node

/-- The root as a node. -/
def Tree.root (t : Tree) : Node := .object t.about t.properties t.required t.additional

/-! ## Display order -/

/-- Whether a child of the first order comes no later than one of the second. -/
def comesBefore : Option Int → Option Int → Bool
  | some i, some j => i ≤ j
  | some _, none => true
  | none, some _ => false
  | none, none => true

/-- The children in display order. -/
def orderedProperties (properties : Properties) : Properties :=
  properties.mergeSort fun a b => comesBefore a.2.about.order b.2.about.order

end ExtractionSchema.Wire
