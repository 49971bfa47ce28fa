import ExtractionSchema.Log
import ExtractionSchema.Wire.Printer

/-!
# Views for models

Two reduced forms of a wire tree are shown to models. The outline keeps the shape alone: types,
titles, required names, items and allowed values. The guidance view adds the extraction
instructions of the fields, cut to a limit. A field is a named child; the elements of arrays and
the root are no fields and show neither instructions nor allowed values.

* `Wire.Tree.outline` and `Wire.Tree.guidance` are the views; the latter comes with its truncations.
-/

namespace ExtractionSchema

/-- How instructions are shown: with a limit and an ellipsis. -/
structure Guidance where
  limit : Int
  ellipsis : String

namespace Wire

/-- The instructions that a field shows, under its path. -/
def shownInstructions (guidance : Option Guidance) (path : String) (about : Presentation) :
    List (String × Value) × List Truncation :=
  match guidance, about.instructions with
  | some g, some s =>
    if s = "" then ([], [])
    else
      let (shown, cuts) := cap (.view path) g.limit g.ellipsis s
      ([("extractionInstructions", .string shown)], cuts)
  | _, _ => ([], [])

/-- The path of the elements of an array. -/
def itemPath (path : String) : String := path ++ "[]"

/-- The path of a child; at the root it is the name. -/
def childPath (path name : String) : String := if path = "" then name else path ++ "." ++ name

/-- The path of a child of a field. -/
def fieldPath (path name : String) : String := path ++ "." ++ name

/-- The fields with which every view starts. -/
def viewHead (type : String) (about : Presentation) : List (String × Value) :=
  ("type", .string type) :: whenStated "title" .string about.title

/-- The allowed values that a field shows. -/
def viewEnum (about : Presentation) : List (String × Value) :=
  whenStated "enum" .list about.enum

/-- The fields that show required names and children. -/
def viewMembers (required : List String) (children : List (String × Value)) :
    List (String × Value) :=
  [("required", .strings required), ("properties", .record children)]

mutual

/-- The view of the root or of the element of an array. -/
def Node.view (guidance : Option Guidance) (path : String) : Node → Value × List Truncation
  | .object about properties required _ =>
    let (children, cuts) := childViews guidance (childPath path) properties
    (.record (viewHead objectType about ++ viewMembers required children), cuts)
  | .array about items =>
    let (shown, cuts) := items.view guidance (itemPath path)
    (.record (viewHead arrayType about ++ [("items", shown)]), cuts)
  | .primitive about kind _ => (.record (viewHead kind.name about), [])
  | .unknown about type _ => (.record (viewHead type about), [])

/-- The view of a field. -/
def Node.fieldView (guidance : Option Guidance) (path : String) : Node → Value × List Truncation
  | .object about properties required _ =>
    let (instructions, cuts) := shownInstructions guidance path about
    let (children, more) := childViews guidance (fieldPath path) properties
    (.record (viewHead objectType about ++ instructions ++ viewMembers required children ++
      viewEnum about), cuts ++ more)
  | .array about items =>
    let (instructions, cuts) := shownInstructions guidance path about
    let (shown, more) := items.view guidance (itemPath path)
    (.record (viewHead arrayType about ++ instructions ++ [("items", shown)] ++ viewEnum about),
      cuts ++ more)
  | .primitive about kind _ =>
    let (instructions, cuts) := shownInstructions guidance path about
    (.record (viewHead kind.name about ++ instructions ++ viewEnum about), cuts)
  | .unknown about type _ =>
    let (instructions, cuts) := shownInstructions guidance path about
    (.record (viewHead type about ++ instructions ++ viewEnum about), cuts)

/-- The views of fields, where `childPath` gives the path of a field. -/
def childViews (guidance : Option Guidance) (childPath : String → String) :
    List (String × Node) → List (String × Value) × List Truncation
  | [] => ([], [])
  | (name, node) :: rest =>
    let (shown, cuts) := node.fieldView guidance (childPath name)
    let (more, moreCuts) := childViews guidance childPath rest
    ((name, shown) :: more, cuts ++ moreCuts)

end

/-- The view that shows nothing but the shape. -/
def Tree.outline (t : Tree) : Value := (t.root.view none "").1

/-- The view with the instructions of the fields, and what was cut from them. -/
def Tree.guidance (guidance : Guidance) (t : Tree) : Value × List Truncation :=
  t.root.view (some guidance) ""

end Wire

end ExtractionSchema
