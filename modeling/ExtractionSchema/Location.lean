import ExtractionSchema.Value.Literal

/-!
# Locations

A location inside a document is a list of steps: names of entries and indexes of items. Its path
writes the names with points between them and the indexes in brackets (`lines[0].sku`).
-/

namespace ExtractionSchema

/-- A step into a document. A truth value used as a key is an index, like the integer it counts
as. -/
inductive Step where
  | index (i : Int)
  | flag (b : Bool)
  | name (s : String)
deriving DecidableEq

namespace Step

/-- The step to the item of a list. -/
def item (i : Nat) : Step := .index i

/-- The step that a value names. -/
def ofValue : Value → Step
  | .number (.int i) => .index i
  | .bool b => .flag b
  | v => .name v.plain

/-- The step to the entry of a key. -/
def ofKey : Key → Step
  | .number (.int i) => .index i
  | .bool b => .flag b
  | k => .name k.plain

/-- Whether a step can be written. -/
def isShowable : Step → Bool
  | .index i => !hasTooManyDigits i
  | _ => true

/-- The step as text. -/
def text : Step → String
  | .index i => toString i
  | .flag b => boolLiteral b
  | .name s => s

end Step

/-- A path with one more step. The first name stands without a point before it. -/
def extendPath (path : String) : Step → String
  | .name s => if path = "" then s else path ++ "." ++ s
  | step => path ++ "[" ++ step.text ++ "]"

/-- The path of a location. -/
def formatPath (steps : List Step) : String := steps.foldl extendPath ""

end ExtractionSchema
