import ExtractionSchema.Reading.Coercion
import ExtractionSchema.Wire.Node

/-!
# Reading wire trees

A tree is read from an object from the root down. The first broken node ends the reading: a node
that is no object or has no type, an array without items, an object whose properties are no object
or whose required names are no list. After its children are read, the other fields of a node are
read together, and all that do not fit are reported with the node.

* `Tree.ofValue` reads a tree.
-/

namespace ExtractionSchema.Wire

/-- A step from a node to a part of it. -/
inductive PathStep where
  | properties
  | required
  | child (name : String)
  | items
deriving DecidableEq

/-- The place of a node in its document, from the root on. -/
abbrev Path := List PathStep

/-- The step as text. -/
def PathStep.text : PathStep → String
  | .properties => ".properties"
  | .required => ".required"
  | .child name => ".properties." ++ name
  | .items => ".items"

/-- The place as text. -/
def pathText (path : Path) : String := "$" ++ String.join (path.map PathStep.text)

/-- What is broken at a node. -/
inductive Defect where
  | rootNotObject
  | rootType (type : Value)
  | notObject
  | noType
  | noItems
  | noProperties
  | propertiesNotObject
  | requiredNotList
  | nestedObjectList
  | refused (refusal : Refusal)
  /-- The place or the defect of a node cannot be told. -/
  | untold (obstacle : Obstacle)

/-- What a message says about a defect. -/
def Defect.message : Defect → String
  | .rootNotObject => "schema root must be a mapping"
  | .rootType type => "schema root must be an object node, got " ++ type.literal
  | .notObject => "node must be a mapping"
  | .noType => "node is missing 'type'"
  | .noItems => "array node is missing 'items'"
  | .noProperties => "object list is missing nested 'properties'"
  | .propertiesNotObject => "properties must be a mapping"
  | .requiredNotList => "required must be a list of names"
  | .nestedObjectList => "object lists may only be nested one level deep"
  | .refused refusal => refusal.report
  | .untold obstacle => obstacle.message

/-- A broken node and its place. -/
structure Malformed where
  path : Path
  defect : Defect

/-- The message about a broken node. -/
def Malformed.message (m : Malformed) : String :=
  match m.defect with
  | .untold obstacle => obstacle.message
  | defect => s!"Malformed wire node at '{pathText m.path}': " ++ defect.message

/-! ## Fields of nodes -/

/-- Reads the field of a key, `null` if it is not there; faults name it by `name`. -/
def detail {α : Type} (key name : String) (read : Value → Checked α)
    (entries : Value.Entries) : Checked (Option α) :=
  (Reading.optional read (Value.getD entries key)).under (.name name)

/-- The step to an entry in the report of a fault: a key that is an integer of 64 bits, or a truth
value as the integer it counts as, is an index; any other key that is no name is shown as a literal
if it can be. -/
def reportedStep : Key → Step
  | .name s => .name s
  | .bool b => .index (if b then 1 else 0)
  | .number (.int i) =>
    if Int64.minValue.toInt ≤ i ∧ i ≤ Int64.maxValue.toInt then .index i
    else .name (Value.int i).shownLiteral
  | k => .name k.literal

/-- Reads entries whose keys must be names. -/
def namedEntries {α : Type} : List (Key × α) → Checked (List (String × α))
  | [] => .ok []
  | (k, a) :: es =>
    let name := ((Reading.text k.value).under (.name "[key]")).under (reportedStep k)
    (fun name rest => (name, a) :: rest) <$> name <*> namedEntries es

/-- Reads an example: an object whose keys are names. -/
def exampleEntries : Value → Checked ExampleEntries
  | .object entries => namedEntries entries
  | v => .fail .dictType v

/-- Reads how a node is presented. -/
def presentation (entries : Value.Entries) : Checked Presentation :=
  Presentation.mk
    <$> detail "title" "title" Reading.text entries
    <*> detail "description" "description" Reading.text entries
    <*> detail "importance" "importance" Reading.text entries
    <*> detail "extractionInstructions" "extraction_instructions" Reading.text entries
    <*> detail "displayName" "display_name" Reading.text entries
    <*> detail "examples" "examples" (Reading.list exampleEntries) entries
    <*> detail "enum" "enum" (Reading.list .ok) entries
    <*> detail "order" "order" Reading.integer entries

/-- Reads the constraints of a primitive node. -/
def bounds (entries : Value.Entries) : Checked Bounds :=
  Bounds.mk
    <$> detail "format" "format" Reading.text entries
    <*> detail "minLength" "min_length" Reading.integer entries
    <*> detail "maxLength" "max_length" Reading.integer entries
    <*> detail "minimum" "minimum" Reading.number entries
    <*> detail "maximum" "maximum" Reading.number entries

/-- Reads whether undeclared entries are allowed. -/
def additional (entries : Value.Entries) : Checked (Option Bool) :=
  detail "additionalProperties" "additional_properties" Reading.flag entries

/-- Reads the names of required children. -/
def requiredNames (names : List Value) : Checked (List String) :=
  (Checked.each Reading.text names).under (.name "required")

/-- Reads the names of children. -/
def childNames (children : List (Key × Node)) : Checked Properties :=
  (namedEntries children).under (.name "properties")

/-- The result of reading a node's fields, or the broken node. -/
def orMalformed {α : Type} (path : Path) (model : String) (x : Checked α) : Except Malformed α :=
  match x with
  | .ok a => .ok a
  | .faulty faults => .error ⟨path, .refused ⟨model, faults⟩⟩

/-- Reads the fields of a primitive node. -/
def finishPrimitive (path : Path) (kind : Primitive) (entries : Value.Entries) :
    Except Malformed Node :=
  orMalformed path "PrimitiveNode" <|
    (fun about bounds => .primitive about kind bounds)
      <$> presentation entries <*> bounds entries

/-- Reads the fields of an array node with known items. -/
def finishArray (path : Path) (items : Node) (entries : Value.Entries) : Except Malformed Node :=
  orMalformed path "ArrayNode" <| (fun about => .array about items) <$> presentation entries

/-- Reads the fields of an object node with known children. -/
def finishObject (path : Path) (children : List (Key × Node)) (names : List Value)
    (entries : Value.Entries) : Except Malformed Node :=
  orMalformed path "ObjectNode" <|
    Node.object <$> presentation entries <*> childNames children <*> requiredNames names
      <*> additional entries

/-- Reads the fields of a node of an unknown type. -/
def finishUnknown (path : Path) (type : String) (entries : Value.Entries) :
    Except Malformed Node :=
  orMalformed path "OpaqueNode" <|
    (fun about raw => .unknown about type raw)
      <$> presentation entries <*> (namedEntries entries).under (.name "raw")

/-- Reads the fields of a root with known children. -/
def finishRoot (children : List (Key × Node)) (names : List Value) (entries : Value.Entries) :
    Except Malformed Tree :=
  orMalformed [] "WireTree" <|
    (fun about properties required additional dialect =>
        ⟨dialect, about, properties, required, additional⟩)
      <$> presentation entries <*> childNames children <*> requiredNames names
      <*> additional entries <*> detail "$schema" "schema_uri" Reading.text entries

/-! ## Parts of nodes -/

/-- The required names that a node states; whatever counts as nothing states none. -/
def requiredList (path : Path) (entries : Value.Entries) : Except Malformed (List Value) :=
  let v := Value.getD entries "required"
  if !v.truthy then .ok []
  else
    match v with
    | .list names => .ok names
    | _ => .error ⟨path ++ [.required], .requiredNotList⟩

/-- Checks that the properties that a node states are an object, or count as nothing. -/
def checkProperties (path : Path) (entries : Value.Entries) : Except Malformed Unit :=
  match Value.getD entries "properties" with
  | .object _ => .ok ()
  | v => if v.truthy then .error ⟨path ++ [.properties], .propertiesNotObject⟩ else .ok ()

/-- Checks the items that an array node states: there are some, and a list of objects states its
properties. -/
def checkItems (path : Path) (entries : Value.Entries) : Except Malformed Unit :=
  match Value.getD entries "items" with
  | .null => .error ⟨path, .noItems⟩
  | .object items =>
    if Value.getD items "type" = .string objectType ∧ ¬ Value.has items "properties" then
      .error ⟨path ++ [.items], .noProperties⟩
    else .ok ()
  | _ => .ok ()

/-- The type that a node states. -/
def typeName (path : Path) (entries : Value.Entries) : Except Malformed String :=
  match Value.getD entries "type" with
  | .string "" => .error ⟨path, .noType⟩
  | .string type => .ok type
  | _ => .error ⟨path, .noType⟩

/-! ## Nodes -/

mutual

/-- Reads a node. -/
def readNode (path : Path) : Value → Except Malformed Node
  | .object entries => do
    let type ← typeName path entries
    match Primitive.ofName? type with
    | some kind => finishPrimitive path kind entries
    | none =>
      if type = arrayType then
        checkItems path entries
        finishArray path (← readItems (path ++ [.items]) entries) entries
      else if type = objectType then
        checkProperties path entries
        let names ← requiredList path entries
        finishObject path (← readProperties path entries) names entries
      else finishUnknown path type entries
  | _ => .error ⟨path, .notObject⟩

/-- Reads the node under `items`. -/
def readItems (path : Path) : List (Key × Value) → Except Malformed Node
  | [] => .error ⟨path, .notObject⟩
  | (k, v) :: es => if k = .name "items" then readNode path v else readItems path es

/-- Reads the nodes under `properties`. -/
def readProperties (path : Path) : List (Key × Value) → Except Malformed (List (Key × Node))
  | [] => .ok []
  | (k, v) :: es => if k = .name "properties" then readMembers path v else readProperties path es

/-- Reads the entries of an object as nodes; anything else has none. -/
def readMembers (path : Path) : Value → Except Malformed (List (Key × Node))
  | .object entries => readChildren path entries
  | _ => .ok []

/-- Reads entries as nodes, one after the other. -/
def readChildren (path : Path) : List (Key × Value) → Except Malformed (List (Key × Node))
  | [] => .ok []
  | (k, v) :: es => do
    if !k.isShowable then throw ⟨path, .untold .digits⟩
    let node ← readNode (path ++ [.child k.plain]) v
    let rest ← readChildren path es
    return (k, node) :: rest

end

/-- Reads a tree from the entries of its root. -/
def Tree.ofEntries (entries : Value.Entries) : Except Malformed Tree := do
  checkProperties [] entries
  let names ← requiredList [] entries
  finishRoot (← readProperties [] entries) names entries

/-- Reads a tree. -/
def Tree.ofValue : Value → Except Malformed Tree
  | .object entries =>
    let type := Value.getD entries "type"
    if type = .string objectType then Tree.ofEntries entries
    else .error ⟨[], if type.isShowable then .rootType type else .untold .digits⟩
  | _ => .error ⟨[], .rootNotObject⟩

end ExtractionSchema.Wire
