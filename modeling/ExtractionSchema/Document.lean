import ExtractionSchema.Failure
import ExtractionSchema.Property.Printer
import ExtractionSchema.Yaml.Document

/-!
# Documents

A document is the text of a file, in JSON or in YAML, as the file's name tells. Documents hold wire
schemas, property lists, lists of agents and results, and settings; some kinds may stand under a
name of their own in an object.

* `Document.read` reads the value that a document holds.
* `Document.definition`, `Document.properties` and `Document.settings` take that value for what was
  asked for.
-/

namespace ExtractionSchema.Document

/-! ## Texts -/

/-- The languages of documents. -/
inductive Format where
  | json
  | yaml
deriving DecidableEq

/-- The part of a file's name from its last point on. A point that starts or ends the name starts
no suffix. -/
def suffix (fileName : String) : String :=
  let reversed := fileName.toList.reverse.takeWhile (· ≠ '/')
  let after := reversed.takeWhile (· ≠ '.')
  if after.isEmpty || reversed.length ≤ after.length + 1 then ""
  else String.ofList ('.' :: after.reverse)

/-- The format that a file's name tells: YAML for two suffixes, in any case, else JSON. -/
def format (fileName : String) : Format :=
  if [".yaml", ".yml"].contains ((suffix fileName).map Char.toLower) then .yaml else .json

/-- The characters with every line break written as one line feed. -/
def unifyBreaks : List Char → List Char
  | '\r' :: '\n' :: cs => '\n' :: unifyBreaks cs
  | '\r' :: cs => '\n' :: unifyBreaks cs
  | c :: cs => c :: unifyBreaks cs
  | [] => []

/-- The text of a file as it is read. -/
def readText (content : String) : String := String.ofList (unifyBreaks content.toList)

/-- Reads a text in a format. -/
def parse (format : Format) (text : String) : Except Failure Value :=
  match format with
  | .json => orFail .json (Json.read text)
  | .yaml => orFail .yaml (Yaml.read text)

/-- Reads the value of a file with a name and a content. -/
def read (fileName content : String) : Except Failure Value :=
  parse (format fileName) (readText content)

/-! ## Contents -/

/-- Whether a value looks like a property list: every item is an object with a name. -/
def isPropertyList : Value → Bool
  | .list items => items.all fun item => (item.get? "name").isSome
  | _ => false

/-- The value under a name of an object that has the name; any other value itself. -/
def unwrap (name : String) (v : Value) : Value := (v.get? name).getD v

/-- Reads a property list. -/
def propertyList (v : Value) : Except Failure (List Property) :=
  orFail PropertyListFault.failure (Property.listOfValue v)

/-- The wire schema of a property list. The outputs of examples are copied, so none may stand within
itself. -/
def convertedDefinition (v : Value) : Except Failure Value := do
  let ps ← propertyList v
  if ps.any fun p => p.obstacle = some .repeated then throw (.unwritable .repeated)
  return (Wire.Tree.ofProperties ps).toValue

/-- The wire schema that a value holds. A property list, by itself or as the properties of an
object, is converted. -/
def definition (v : Value) : Except Failure Value :=
  if isPropertyList v then convertedDefinition v
  else
    match v with
    | .object entries =>
      let properties := Value.getD entries "properties"
      if isPropertyList properties then convertedDefinition properties else .ok v
    | _ => .error .notASchema

/-- The property list that a value holds. -/
def properties (v : Value) : Except Failure (List Property) := propertyList (unwrap "properties" v)

/-- The wire schema of the property list that a value holds. -/
def propertiesDefinition (v : Value) : Except Failure Value :=
  convertedDefinition (unwrap "properties" v)

/-- The candidates that a value holds. -/
def results (v : Value) : Except Failure (List Value) :=
  match unwrap "results" v with
  | .list items => .ok items
  | _ => .error .resultsNotAList

/-- The settings that a text writes; a text that writes nothing leaves all of them as they are. -/
def settings (content : String) : Except Failure Settings := do
  let v ← parse .yaml (readText content)
  match if v.truthy then v else .object [] with
  | .object entries => orFail .refused (Settings.ofValue (.object entries))
  | _ => .error .settingsNotMapping

/-- The prompt mode that a value names; `null` names that of the settings. -/
def promptMode (settings : Settings) (v : Value) : Except Failure PromptMode :=
  match v with
  | .null => .ok settings.promptMode
  | v =>
    match v.string?.bind fun s => PromptMode.names.lookup s with
    | some mode => .ok mode
    | none => .error (.noPromptMode v)

end ExtractionSchema.Document
