import ExtractionSchema.Property.Reader
import ExtractionSchema.Wire.Reader

/-!
# Property lists and wire trees

A property list and a wire tree say the same in two forms. A date becomes a text node of date
format, a list an array, a list of objects an array of object nodes, and a type without a node of
its own a node of that unknown type. The place in the list becomes the `order` of the node, and
the names of required fields move to the parent.

* `Wire.Tree.ofProperties` makes the tree of a property list.
* `Wire.Tree.toProperties` reads the properties off a tree, in display order, and
  `Property.listOfTree` off a document that holds one.
-/

namespace ExtractionSchema

/-! ## From properties to nodes -/

/-- The entries of an example in a node. -/
def Example.entries (e : Example) : Wire.ExampleEntries :=
  [("id", .string e.id), ("input", .string e.input), ("output", e.output)]

/-- How the node of the field at a place in its list is presented. -/
def FieldInfo.presentation (info : FieldInfo) (order : Nat) : Wire.Presentation where
  title := some info.title
  description := some info.description
  importance := info.importance.map Importance.name
  instructions := info.instructions
  displayName := some info.title
  examples := info.examples.map (·.map Example.entries)
  order := some order

/-- The node of a date. -/
def dateNode (about : Wire.Presentation) : Wire.Node :=
  .primitive about .string { format := some Wire.dateFormat }

/-- The node of an element of a list of scalars. -/
def ScalarItem.node : ScalarItem → Wire.Node
  | .string => .primitive {} .string {}
  | .number => .primitive {} .number {}
  | .boolean => .primitive {} .boolean {}
  | .date => dateNode {}

/-- The node of a field of a simple shape. -/
def SimpleShape.node (about : Wire.Presentation) : SimpleShape → Wire.Node
  | .list item => .array about item.node
  | .plain type =>
    if type = dateType then dateNode about
    else
      match Wire.Primitive.ofName? type with
      | some kind => .primitive about kind {}
      | none => .unknown about type []

/-- The children that a list of fields becomes, where `node` makes the node of a field at a place
in the list. -/
def childrenFrom {α : Type} (info : α → FieldInfo) (node : Wire.Presentation → α → Wire.Node) :
    Nat → List α → Wire.Properties
  | _, [] => []
  | i, p :: ps =>
    ((info p).name, node ((info p).presentation i) p) :: childrenFrom info node (i + 1) ps

/-- The names of the required fields. -/
def requiredOf {α : Type} (info : α → FieldInfo) (ps : List α) : List String :=
  (ps.filter fun p => (info p).required).map fun p => (info p).name

/-- The children of an element of a list of objects. -/
def nestedChildren (fields : List NestedProperty) : Wire.Properties :=
  childrenFrom NestedProperty.info (fun about f => f.shape.node about) 0 fields

/-- The node of a field. -/
def Shape.node (about : Wire.Presentation) : Shape → Wire.Node
  | .simple shape => shape.node about
  | .objects fields =>
    .array about
      (.object {} (nestedChildren fields) (requiredOf NestedProperty.info fields) none)

/-- The title of trees made from property lists. -/
def rootTitle : String := "Extraction Schema"

/-- The description of trees made from property lists. -/
def rootDescription : String := "Schema for extracting structured data from documents"

/-- The wire tree of a property list. -/
def Wire.Tree.ofProperties (ps : List Property) : Wire.Tree where
  dialect := some Wire.dialect
  about := { title := some rootTitle, description := some rootDescription }
  properties := childrenFrom Property.info (fun about p => p.shape.node about) 0 ps
  required := requiredOf Property.info ps
  additional := none

/-! ## From nodes to properties -/

/-- Why a tree has no property list. -/
inductive ConversionFault where
  | malformed (m : Wire.Malformed)
  | refused (refusal : Refusal)

namespace Conversion

open Wire (Node)

/-- A text, where another one stands for none or an empty one. -/
def textOr (default : String) : Option String → String
  | some s => if s = "" then default else s
  | none => default

/-- A value that may be missing. -/
def orNull {α : Type} (write : α → Value) : Option α → Value
  | some a => write a
  | none => .null

/-- The element type that the items of an array stand for. -/
def itemName : Node → String
  | .object _ _ _ _ => "object"
  | .primitive about kind bounds =>
    if (Node.primitive about kind bounds).isDate then "date"
    else if kind = .integer then "number"
    else kind.name
  | _ => "string"

/-- The fields of a property that tell its type. -/
def typeFields : Node → List (String × Value)
  | .array _ items =>
    [("type", .string listType), ("item_type", .string (itemName items))] ++
      (if items.isObject then [("fields", .list [])] else [])
  | node => [("type", .string (if node.isDate then dateType else node.type))]

/-- The fields of the property that a node stands for. The nested fields of a list of objects are
read apart; an empty list stands for them. -/
def fields (name : String) (required : Bool) (node : Node) : Value :=
  .record ([
    ("name", .string name),
    ("title", .string (textOr name node.about.title)),
    ("description", .string (node.about.description.getD "")),
    ("importance", orNull .string node.about.importance),
    ("required", .bool required),
    ("extraction_instructions", orNull .string node.about.instructions),
    ("examples", orNull (fun es => .list (es.map Value.record)) node.about.examples)] ++
    typeFields node)

/-- The nested property that a node stands for. A list of objects stands for none. -/
def nestedProperty (path : Wire.Path) (name : String) (required : Bool) (node : Node) :
    Except ConversionFault NestedProperty :=
  match node with
  | .array _ (.object _ _ _ _) => .error (.malformed ⟨path, .nestedObjectList⟩)
  | node =>
    match (Reading.nestedProperty (fields name required node)).orRefuse "NestedProperty" with
    | .ok p => .ok p
    | .error refusal => .error (.refused refusal)

/-- The nested properties of children that are in display order. -/
def nestedProperties (path : Wire.Path) (required : List String) :
    Wire.Properties → Except ConversionFault (List NestedProperty)
  | [] => .ok []
  | (name, node) :: rest => do
    let p ← nestedProperty (path ++ [.items, .child name]) name (required.contains name) node
    let ps ← nestedProperties path required rest
    return p :: ps

/-- The nested fields that a node stands for, if it stands for a list of objects. -/
def nestedFields (path : Wire.Path) : Node → Except ConversionFault (Option (List NestedProperty))
  | .array _ (.object _ properties required _) =>
    some <$> nestedProperties path required (Wire.orderedProperties properties)
  | _ => .ok none

/-- The property that a node stands for. -/
def property (name : String) (required : Bool) (node : Node) :
    Except ConversionFault Property := do
  let nested ← nestedFields [.child name] node
  match (Reading.propertyWith (fun _ => .ok nested) (fields name required node)).orRefuse
      "Property" with
  | .ok p => .ok p
  | .error refusal => .error (.refused refusal)

/-- The properties of children that are in display order. -/
def properties (required : List String) :
    Wire.Properties → Except ConversionFault (List Property)
  | [] => .ok []
  | (name, node) :: rest => do
    let p ← property name (required.contains name) node
    let ps ← properties required rest
    return p :: ps

end Conversion

/-- The property list of a tree, in display order. -/
def Wire.Tree.toProperties (t : Wire.Tree) : Except ConversionFault (List Property) :=
  Conversion.properties t.required (Wire.orderedProperties t.properties)

/-- The property list of a document that holds a tree. -/
def Property.listOfTree (v : Value) : Except ConversionFault (List Property) :=
  match Wire.Tree.ofValue v with
  | .ok t => t.toProperties
  | .error m => .error (.malformed m)

end ExtractionSchema
