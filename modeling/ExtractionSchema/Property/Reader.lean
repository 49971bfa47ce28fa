import ExtractionSchema.Property.Basic
import ExtractionSchema.Reading.Coercion

/-!
# Reading properties

A property is read from an object with its fields. Field by field comes first; if all fields fit,
the shape is checked: only lists have an element type, a list states one or takes text (or objects,
if it has nested fields), and a list of objects has nested fields with distinct names. The title
defaults to the name.

* `Property.ofValue` reads one property and `Property.listOfValue` a list of them, whose names must
  be distinct.
-/

namespace ExtractionSchema

/-- What is wrong with the shape of a property. -/
inductive ShapeFault where
  | noFields (name : String)
  | duplicateFields (name : String) (duplicates : List String)
  | fieldsOfScalars (name : String)
  | notAList (name : String)
deriving DecidableEq

/-- What a message says about a shape. -/
def ShapeFault.message : ShapeFault → String
  | .noFields name => s!"List property '{name}' of objects must have at least one field"
  | .duplicateFields name duplicates =>
    s!"List property '{name}' has duplicate field names: " ++ ", ".intercalate duplicates
  | .fieldsOfScalars name => s!"Only object lists may define fields (property '{name}')"
  | .notAList name =>
    s!"itemType and fields are only valid on list properties (property '{name}')"

/-- The fields of a property as they were read, before its shape is checked. -/
structure Draft (ι : Type) where
  name : String
  type : String
  title : Option String
  description : String
  importance : Option Importance
  required : Bool
  instructions : Option String
  examples : Option (List Example)
  item : Option ι

namespace Draft

variable {ι : Type}

/-- The title, where the name stands for none or an empty one. -/
def displayTitle (d : Draft ι) : String :=
  match d.title with
  | some title => if title = "" then d.name else title
  | none => d.name

/-- What the draft says apart from the shape. -/
def info (d : Draft ι) : FieldInfo where
  name := d.name
  title := d.displayTitle
  description := d.description
  importance := d.importance
  required := d.required
  instructions := d.instructions
  examples := d.examples

/-- The shape of a nested field. -/
def nestedShape (d : Draft ScalarItem) : Except ShapeFault SimpleShape :=
  if d.type = listType then .ok (.list (d.item.getD .string))
  else if d.item.isSome then .error (.notAList d.name)
  else .ok (.plain d.type)

/-- The shape of a list of objects. -/
def objectsShape (d : Draft ι) (fields : Option (List NestedProperty)) :
    Except ShapeFault Shape :=
  match fields.getD [] with
  | [] => .error (.noFields d.name)
  | f :: fs =>
    match findDuplicates ((f :: fs).map NestedProperty.name) with
    | [] => .ok (.objects (f :: fs))
    | duplicates => .error (.duplicateFields d.name duplicates)

/-- The shape of a top-level field. -/
def shape (d : Draft ItemType) (fields : Option (List NestedProperty)) :
    Except ShapeFault Shape :=
  if d.type = listType then
    match d.item.getD (if fields.isNone then .scalar .string else .object) with
    | .object => d.objectsShape fields
    | .scalar item =>
      if fields.isSome then .error (.fieldsOfScalars d.name) else .ok (.simple (.list item))
  else if d.item.isSome || fields.isSome then .error (.notAList d.name)
  else .ok (.simple (.plain d.type))

end Draft

namespace Reading

/-- Reads a text that is not empty. -/
def nonEmptyText (v : Value) : Checked String :=
  (text v).andThen fun s => if s = "" then .fail (.stringTooShort 1) v else .ok s

/-- Reads an example. -/
def propertyExample (v : Value) : Checked Example :=
  (entriesOf "PropertyExample" v).andThen fun entries =>
    Example.mk
      <$> field ["id"] "" text entries
      <*> required "input" text entries
      <*> required "output" .ok entries

/-- Reads the fields that nested and top-level properties share. -/
def draft {ι : Type} (items : List (String × ι)) (entries : Value.Entries) : Checked (Draft ι) :=
  Draft.mk
    <$> required "name" nonEmptyText entries
    <*> required "type" text entries
    <*> field ["title"] none (optional text) entries
    <*> field ["description"] "" text entries
    <*> field ["importance", "priority"] none (optional (choice Importance.names)) entries
    <*> field ["required"] false flag entries
    <*> field ["extractionInstructions", "extraction_instructions"] none (optional text) entries
    <*> field ["examples"] none (optional (list propertyExample)) entries
    <*> field ["itemType", "item_type"] none (optional (choice items)) entries

/-- Takes a result, or the fault of the whole record that prevents it. -/
def checkedBy {α : Type} (v : Value) : Except ShapeFault α → Checked α
  | .ok a => .ok a
  | .error fault => .fail (.rule fault.message) v

/-- Whether a value is an object that states nested fields. -/
def statesFields (v : Value) : Bool :=
  match v.get? "fields" with
  | none | some .null => false
  | some _ => true

/-- Reads a nested property. One that states nested fields of its own is refused as a whole. -/
def nestedProperty (v : Value) : Checked NestedProperty :=
  if statesFields v then
    let name := (v.get? "name").getD .null
    .fail (.rule
      (if name.isShowable then
        s!"Field '{name.plain}': object lists may only be nested one level deep"
      else Obstacle.digits.message)) v
  else
    (entriesOf "NestedProperty" v).andThen fun entries =>
      (draft ScalarItem.names entries).andThen fun d =>
        NestedProperty.mk d.info <$> checkedBy v d.nestedShape

/-- Reads a top-level property; `nested` reads its nested fields. -/
def propertyWith (nested : Value.Entries → Checked (Option (List NestedProperty))) (v : Value) :
    Checked Property :=
  (entriesOf "Property" v).andThen fun entries =>
    (Prod.mk <$> draft ItemType.names entries <*> nested entries).andThen fun (d, fields) =>
      Property.mk d.info <$> checkedBy v (d.shape fields)

/-- Reads a top-level property. -/
def property : Value → Checked Property :=
  propertyWith (field ["fields"] none (optional (list nestedProperty)))

end Reading

/-- Why a value is no property list. -/
inductive PropertyListFault where
  | notAList
  | refused (refusal : Refusal)
  | duplicates (names : List String)

namespace Property

/-- Reads one property. -/
def ofValue (v : Value) : Except Refusal Property := (Reading.property v).orRefuse "Property"

/-- Reads properties one after the other, up to the first that is refused. -/
def ofValues : List Value → Except Refusal (List Property)
  | [] => .ok []
  | v :: vs => do
    let p ← ofValue v
    let ps ← ofValues vs
    return p :: ps

/-- Reads a property list, whose names must be distinct. -/
def listOfValue : Value → Except PropertyListFault (List Property)
  | .list items =>
    match ofValues items with
    | .error refusal => .error (.refused refusal)
    | .ok ps =>
      match findDuplicates (ps.map Property.name) with
      | [] => .ok ps
      | names => .error (.duplicates names)
  | _ => .error .notAList

end Property

end ExtractionSchema
