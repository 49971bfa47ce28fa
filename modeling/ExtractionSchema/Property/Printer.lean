import ExtractionSchema.Property.Basic
import ExtractionSchema.Text.Decoding
import ExtractionSchema.Value.Json.Printer

/-!
# Writing properties

A property is written as an object with its stated fields, in a fixed order; what is not stated is
left out, and so is the output of an example when it is `null`. The outputs of examples are written
as JSON values: dates, moments and bytes become texts, sets and pairs become lists, keys become
names, and a number that is not finite becomes `null`. Of keys with the same name the last value
counts, at the place of the first. Bytes that are no text, and a list or an object within itself,
stand in the way.

* `Property.toValue` writes a property, and `Property.listToValue?` a list of them.
-/

namespace ExtractionSchema

/-- The text that stands for a value that only YAML can write. Bytes that are no UTF-8 text have
none, and an empty text stands for them. -/
def Foreign.interchange : Foreign → String
  | .date d => d.text
  | .moment t => t.interchangeText
  | .bytes content => (String.fromUTF8? ⟨content.toArray⟩).getD ""

/-- The value that stands for a number. -/
def Number.interchange : Number → Value
  | .float (.nan _) | .float (.infinity _) => .null
  | n => .number n

namespace Key

/-- Whether a key is a name. -/
def isName : Key → Bool
  | .name _ => true
  | _ => false

/-- The name that stands for a key. -/
def interchange : Key → String
  | .name s => s
  | .null => "None"
  | .bool b => if b then "true" else "false"
  | .number n => if n.interchange = .null then "None" else n.literal
  | .foreign x => x.interchange

/-- The value that stands for a key as the member of a set. -/
def member : Key → Value
  | .name s => .string s
  | .null => .null
  | .bool b => .bool b
  | .number n => n.interchange
  | .foreign x => .string x.interchange

end Key

namespace Value

mutual

/-- The JSON value that stands for a value. -/
def interchange : Value → Value
  | .number n => n.interchange
  | .list items => .list (interchangeAll items)
  | .object entries =>
    let es := interchangeEntries entries
    .object (if entries.all (·.1.isName) then es else es.foldl (fun done (k, v) => put k v done) [])
  | .foreign x => .string x.interchange
  | .set members => .list (members.map Key.member)
  | .pair first second => .list [first.interchange, second.interchange]
  | v => v

/-- The JSON values that stand for the items of a list. -/
def interchangeAll : List Value → List Value
  | [] => []
  | v :: vs => v.interchange :: interchangeAll vs

/-- The JSON entries that stand for entries. -/
def interchangeEntries : List (Key × Value) → List (Key × Value)
  | [] => []
  | (k, v) :: es => (.name k.interchange, v.interchange) :: interchangeEntries es

end

end Value

/-! ## Obstacles -/

/-- The obstacle to a text for a value that only YAML can write. -/
def Foreign.interchangeObstacle : Foreign → Option Obstacle
  | .bytes content => (Text.undecodable content).map fun (byte, index) => .undecodable byte index
  | .date _ | .moment _ => none

/-- The obstacle to a name for a key. -/
def Key.interchangeObstacle : Key → Option Obstacle
  | .foreign x => x.interchangeObstacle
  | _ => none

namespace Value

mutual

/-- The first obstacle to a JSON value for a value. -/
def interchangeObstacle : Value → Option Obstacle
  | .list items => interchangeObstacleIn items
  | .object entries => interchangeObstacleInEntries entries
  | .foreign x => x.interchangeObstacle
  | .set members => members.findSome? Key.interchangeObstacle
  | .pair first second => first.interchangeObstacle <|> second.interchangeObstacle
  | .enclosing _ => some .repeated
  | .null | .bool _ | .number _ | .string _ => none

/-- The first obstacle in a list. -/
def interchangeObstacleIn : List Value → Option Obstacle
  | [] => none
  | v :: vs => v.interchangeObstacle <|> interchangeObstacleIn vs

/-- The first obstacle in entries. -/
def interchangeObstacleInEntries : List (Key × Value) → Option Obstacle
  | [] => none
  | (k, v) :: es =>
    k.interchangeObstacle <|> v.interchangeObstacle <|> interchangeObstacleInEntries es

end

end Value

/-- The first obstacle to writing the examples of a field. -/
def FieldInfo.obstacle (info : FieldInfo) : Option Obstacle :=
  (info.examples.getD []).findSome? fun e => e.output.interchangeObstacle

/-- The first obstacle to writing a property. -/
def Property.obstacle (p : Property) : Option Obstacle :=
  p.info.obstacle <|> (p.shape.fields?.getD []).findSome? fun f => f.info.obstacle

/-! ## Written forms -/

/-- A field that is written only if it is stated. -/
def stated (name : String) : Option Value → List (String × Value)
  | some v => [(name, v)]
  | none => []

/-- The written form of an example. -/
def Example.toValue (e : Example) : Value :=
  .record ([("id", .string e.id), ("input", .string e.input)] ++
    stated "output" (if e.output = .null then none else some e.output.interchange))

/-- The stated fields of a property, with its type and its element type and nested fields. -/
def FieldInfo.fields (info : FieldInfo) (type : String) (shape : List (String × Value)) :
    List (String × Value) :=
  [("name", .string info.name), ("type", .string type), ("title", .string info.title),
    ("description", .string info.description)] ++
    stated "importance" (info.importance.map fun i => .string i.name) ++
    [("required", .bool info.required)] ++
    stated "extractionInstructions" (info.instructions.map .string) ++
    stated "examples" (info.examples.map fun es => .list (es.map Example.toValue)) ++
    shape

/-- The written form of a nested property. -/
def NestedProperty.toValue (p : NestedProperty) : Value :=
  .record (p.info.fields p.shape.type
    (stated "itemType" (p.shape.item?.map fun i => .string i.name)))

/-- The written form of a property. -/
def Property.toValue (p : Property) : Value :=
  .record (p.info.fields p.shape.type
    (stated "itemType" (p.shape.item?.map fun i => .string i.name) ++
      stated "fields" (p.shape.fields?.map fun fs => .list (fs.map NestedProperty.toValue))))

/-- The written form of a property list, or what stands in its way. -/
def Property.listToValue? (ps : List Property) : Except Obstacle Value :=
  match ps.findSome? Property.obstacle with
  | some obstacle => .error obstacle
  | none => .ok (.list (ps.map Property.toValue))

end ExtractionSchema
