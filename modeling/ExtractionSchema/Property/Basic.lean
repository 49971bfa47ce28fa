import ExtractionSchema.Value.Basic

/-!
# Properties

A property is one field to extract, as an author edits it: a name, how the field is presented and
explained, and its shape. A shape is a type other than a list, a list of scalars, or a list of
objects with nested properties; nested properties hold no lists of objects, so objects nest one
level deep.

* `findDuplicates` gives the names that occur more than once.
-/

namespace ExtractionSchema

/-- How important a field is. -/
inductive Importance where
  | high
  | medium
  | low
deriving DecidableEq

/-- The importances by name. -/
def Importance.names : List (String × Importance) :=
  [("high", .high), ("medium", .medium), ("low", .low)]

/-- The name of an importance. -/
def Importance.name : Importance → String
  | .high => "high"
  | .medium => "medium"
  | .low => "low"

/-- An example of a source text and the value to extract from it. -/
structure Example where
  id : String
  input : String
  output : Value
deriving DecidableEq

/-- The element types of a list of scalars. -/
inductive ScalarItem where
  | string
  | number
  | boolean
  | date
deriving DecidableEq

/-- The scalar element types by name. -/
def ScalarItem.names : List (String × ScalarItem) :=
  [("string", .string), ("number", .number), ("boolean", .boolean), ("date", .date)]

/-- The name of a scalar element type. -/
def ScalarItem.name : ScalarItem → String
  | .string => "string"
  | .number => "number"
  | .boolean => "boolean"
  | .date => "date"

/-- The element types of a list. -/
inductive ItemType where
  | scalar (item : ScalarItem)
  | object
deriving DecidableEq

/-- The element types by name. -/
def ItemType.names : List (String × ItemType) :=
  ScalarItem.names.map (fun (name, item) => (name, .scalar item)) ++ [("object", .object)]

/-- The name of an element type. -/
def ItemType.name : ItemType → String
  | .scalar item => item.name
  | .object => "object"

/-- The shape of a field without nested fields: a type that is not `list`, or a list of scalars. -/
inductive SimpleShape where
  | plain (type : String)
  | list (item : ScalarItem)
deriving DecidableEq

/-- What a field is called, how it is explained, and whether it must be there. -/
structure FieldInfo where
  name : String
  title : String
  description : String
  importance : Option Importance
  required : Bool
  instructions : Option String
  examples : Option (List Example)
deriving DecidableEq

/-- A field of a list of objects. -/
structure NestedProperty where
  info : FieldInfo
  shape : SimpleShape
deriving DecidableEq

/-- The shape of a field: a simple one, or a list of objects with nested fields. -/
inductive Shape where
  | simple (shape : SimpleShape)
  | objects (fields : List NestedProperty)
deriving DecidableEq

/-- A field to extract. -/
structure Property where
  info : FieldInfo
  shape : Shape
deriving DecidableEq

/-- The name of the type of lists. -/
def listType : String := "list"

/-- The name of the type of dates. -/
def dateType : String := "date"

namespace SimpleShape

/-- The type that a property of this shape states. -/
def type : SimpleShape → String
  | .plain type => type
  | .list _ => listType

/-- The element type of a list. -/
def item? : SimpleShape → Option ScalarItem
  | .plain _ => none
  | .list item => some item

end SimpleShape

namespace Shape

/-- The type that a property of this shape states. -/
def type : Shape → String
  | .simple shape => shape.type
  | .objects _ => listType

/-- The element type of a list. -/
def item? : Shape → Option ItemType
  | .simple shape => shape.item?.map .scalar
  | .objects _ => some .object

/-- The nested fields of a list of objects. -/
def fields? : Shape → Option (List NestedProperty)
  | .simple _ => none
  | .objects fields => some fields

end Shape

namespace Property

/-- The importance, where medium stands for none stated. -/
def priority (p : Property) : Importance := p.info.importance.getD .medium

/-- Whether the field is a list of objects. -/
def isObjectList (p : Property) : Bool := p.shape.fields?.isSome

/-- The name of a property. -/
def name (p : Property) : String := p.info.name

end Property

/-- The name of a nested property. -/
def NestedProperty.name (p : NestedProperty) : String := p.info.name

/-! ## Duplicate names -/

/-- Goes through names, with those already seen and the duplicates found so far. -/
def findDuplicatesFrom (seen found : List String) : List String → List String
  | [] => found
  | name :: names =>
    let found := if seen.contains name && !found.contains name then found ++ [name] else found
    findDuplicatesFrom (name :: seen) found names

/-- The names that occur more than once, in the order of their second occurrences. -/
def findDuplicates (names : List String) : List String := findDuplicatesFrom [] [] names

end ExtractionSchema
