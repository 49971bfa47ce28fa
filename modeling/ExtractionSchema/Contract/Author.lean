import ExtractionSchema.Contract.Violation
import ExtractionSchema.Settings

/-!
# The contract of author schemas

Before a schema is compiled, its outer shape is checked: it is an object of type `object`, and its
properties, if any, are an object. If that holds, the guidance of every top-level field is checked
too. A schema must not be larger than the settings allow.

* `authorIssues` gives everything that is wrong with a definition, and `collectAuthorIssues` what
  stands in the way of telling it, if anything does.
-/

namespace ExtractionSchema

/-- Something wrong with a schema definition: where, and what. -/
structure Issue where
  path : String
  message : String
deriving DecidableEq

namespace Issue

/-- The written form of an issue. -/
def text (i : Issue) : String := (if i.path = "" then "/" else i.path) ++ ": " ++ i.message

/-- The written form of all issues of a definition. -/
def summary (issues : List Issue) : String :=
  let details := "; ".intercalate (issues.map text)
  "Invalid author schema: " ++ (if details = "" then "Invalid schema" else details)

end Issue

/-- The outer shape of a definition. -/
def outerContract : Contract :=
  .rules [
    .kinds [.object],
    .required ["type"],
    .fields [
      ("type", .rules [.enum [.string "object"]]),
      ("properties", .rules [.kinds [.object]])]]

/-- An example of a field. -/
def exampleContract : Contract :=
  .rules [
    .kinds [.object],
    .required ["input", "output"],
    .fields [
      ("input", .rules [.kinds [.string]]),
      ("output", .rules [.kinds [.string, .number, .boolean, .object, .array]])]]

/-- The guidance of a top-level field. -/
def fieldContract : Contract :=
  .rules [
    .kinds [.object],
    .fields [
      ("importance", .rules [.enum [.string "high", .string "medium", .string "low"]]),
      ("displayName", .rules [.kinds [.string]]),
      ("extractionInstructions", .rules [.kinds [.string]]),
      ("order", .rules [.kinds [.integer], .minimum (.int 0)]),
      ("examples", .rules [.kinds [.array], .items exampleContract])]]

/-- The guidance of a definition. -/
def guidanceContract : Contract :=
  .rules [
    .kinds [.object],
    .fields [("properties", .rules [.kinds [.object], .everyField fieldContract])]]

/-- Whether a list of texts comes no later than another one, text by text. -/
def textsLe : List String → List String → Bool
  | [], _ => true
  | _ :: _, [] => false
  | s :: ss, t :: ts => if s = t then textsLe ss ts else decide (s < t)

/-- The issue that a violation is. -/
def Violation.issue (v : Violation) : Issue :=
  ⟨"/" ++ "/".intercalate (v.location.map Step.text), v.message⟩

/-- The violations of a contract as issues, in the order of their locations. -/
def issuesOf (c : Contract) (definition : Value) : List Issue :=
  ((c.violations definition).mergeSort fun v w =>
    textsLe (v.location.map Step.text) (w.location.map Step.text)).map Violation.issue

/-- What stands in the way of telling what is wrong with a definition, if anything. -/
def authorObstacle (definition : Value) : Option Obstacle :=
  if definition.isShowable then none
  else
    (outerContract.obstacle definition).or
      (if outerContract.accepts definition then guidanceContract.obstacle definition else none)

/-- Everything that is wrong with a definition. The size is measured in characters of its ASCII
JSON text. -/
def authorIssues (settings : Settings) (definition : Value) : List Issue :=
  let outer := issuesOf outerContract definition
  let issues := if outer.isEmpty then issuesOf guidanceContract definition else outer
  let size := definition.serializedSize
  issues ++
    if settings.maxSchemaSize < size then
      [⟨"", s!"schema is {size} bytes, exceeding the {settings.maxSchemaSize} byte limit"⟩]
    else []

/-- Collects everything that is wrong with a definition, unless something stands in the way of
telling it. -/
def collectAuthorIssues (settings : Settings) (definition : Value) :
    Except Obstacle (List Issue) :=
  match authorObstacle definition with
  | some obstacle => .error obstacle
  | none => .ok (authorIssues settings definition)

/-- Checks a definition: one that is missing or empty has a single issue. -/
def checkAuthorSchema (settings : Settings) (definition : Value) : Except (List Issue) Unit :=
  match definition with
  | .null | .object [] => .error [⟨"", "schema definition is required and cannot be empty"⟩]
  | _ =>
    match authorIssues settings definition with
    | [] => .ok ()
    | issues => .error issues

end ExtractionSchema
