import ExtractionSchema.Settings
import ExtractionSchema.Text.Uppercase
import ExtractionSchema.Value.Json.Reader
import ExtractionSchema.View

/-!
# Extraction prompts

A prompt starts with general instructions, if there are any, shows a view of the schema as a fenced
block, and ends with a section for each top-level field that has instructions or examples, in
display order. Long instructions are cut. An example shows its output as indented JSON text; an
output that is a text writing a list or an object is shown as what it writes.

* `Traced` carries the truncations made on the way, also when the composition fails.
* `compose` composes a prompt.
-/

namespace ExtractionSchema

/-! ## Results with truncations -/

/-- The truncations made, and the result or the fault after them. -/
structure Traced (ε α : Type) where
  cuts : List Truncation
  result : Except ε α

namespace Traced

variable {ε α β : Type}

/-- A result without truncations. -/
protected def pure (a : α) : Traced ε α := ⟨[], .ok a⟩

/-- Continues with the result; the truncations of both parts are kept in order. -/
protected def bind (x : Traced ε α) (f : α → Traced ε β) : Traced ε β :=
  match x with
  | ⟨cuts, .error e⟩ => ⟨cuts, .error e⟩
  | ⟨cuts, .ok a⟩ => ⟨cuts ++ (f a).cuts, (f a).result⟩

instance : Monad (Traced ε) where
  pure := Traced.pure
  bind := Traced.bind

/-- A result with truncations. -/
def report (r : α × List Truncation) : Traced ε α := ⟨r.2, .ok r.1⟩

/-- A result that may fail, without truncations. -/
def ofExcept (x : Except ε α) : Traced ε α := ⟨[], x⟩

/-- A list of truncations after those that were made are added to it. -/
def collected (before : List Truncation) (x : Traced ε α) : List Truncation := before ++ x.cuts

/-- What is written to the log: a warning for each truncation. -/
def log (x : Traced ε α) : List LogRecord := x.cuts.map Truncation.warning

end Traced

/-! ## Faults -/

/-- Why a prompt is not composed. -/
inductive PromptFault where
  | obstacle (o : Obstacle)
  | digits (e : Json.Error)

/-- A result with the fault for an obstacle. -/
def orObstacle {α : Type} : Except Obstacle α → Except PromptFault α
  | .ok a => .ok a
  | .error o => .error (.obstacle o)

/-! ## Examples -/

/-- What the output of an example shows: a text that starts with a brace or a bracket and writes a
value shows that value. -/
def shownOutput (output : Value) : Except PromptFault Value :=
  match output with
  | .string s =>
    let trimmed := Text.trim Text.isBlank s
    if trimmed.toList.head? = some '\x7b' || trimmed.toList.head? = some '[' then
      match Json.read trimmed with
      | .ok v => .ok v
      | .error (.digits count) => .error (.digits (.digits count))
      | .error (.invalid _ _ _ _) => .ok output
    else .ok output
  | _ => .ok output

/-- The lines that show an output: lists and objects by themselves, other values under the name of
the field. -/
def outputLines (fieldName : String) (output : Value) : Except PromptFault (List String) := do
  match output with
  | .list _ | .object _ =>
    let shown ← orObstacle output.indentedJson?
    return ["Output: " ++ shown]
  | _ =>
    let shown ← orObstacle (Value.record [(fieldName, output)]).indentedJson?
    return ["Output:", shown]

/-- The lines of an example with a number. -/
def exampleLines (fieldName : String) (index : Nat) (e : Wire.ExampleEntries) :
    Except PromptFault (List String) := do
  let input := (e.lookup "input").getD (.string "")
  if !input.isShowable then throw (.obstacle .digits)
  let output ← shownOutput ((e.lookup "output").getD .null)
  let lines ← outputLines fieldName output
  return s!"{index}. Input: \"{input.plain}\"" :: lines

/-- The lines of examples, numbered from an index on. -/
def examplesLines (fieldName : String) :
    Nat → List Wire.ExampleEntries → Except PromptFault (List String)
  | _, [] => .ok []
  | index, e :: es => do
    let lines ← exampleLines fieldName index e
    let rest ← examplesLines fieldName (index + 1) es
    return lines ++ rest

/-! ## Sections of fields -/

namespace Wire

/-- A text that is stated and not empty. -/
def nonEmpty? : Option String → Option String
  | some s => if s = "" then none else some s
  | none => none

/-- The name under which a field is shown. -/
def Presentation.heading (about : Presentation) (name : String) : String :=
  ((nonEmpty? about.displayName).or (nonEmpty? about.title)).getD name

/-- Whether a field has a section: it has instructions or examples. -/
def Presentation.isGuided (about : Presentation) : Bool :=
  (nonEmpty? about.instructions).isSome || !(about.examples.getD []).isEmpty

/-- The children of the elements of a list of objects. -/
def Node.elementProperties? : Node → Option Properties
  | .array _ (.object _ properties _ _) => some properties
  | _ => none

end Wire

/-- The line that describes a field of the elements of a list of objects. -/
def structureLine (name : String) (node : Wire.Node) : String :=
  let type := if node.isDate then "date" else node.type
  s!"- {name} ({type}): " ++ node.about.description.getD ""

/-- The heading of a section, with the importance of its field. -/
def headingLines (name : String) (node : Wire.Node) : List String :=
  let qualifier := if node.elementProperties?.isSome then " (List of Objects)" else ""
  ("## " ++ node.about.heading name ++ qualifier) ::
    match Wire.nonEmpty? node.about.importance with
    | some importance => ["**Importance:** " ++ Text.uppercase importance]
    | none => []

/-- The extraction instructions of a section, cut to the limit. -/
def instructionLines (settings : Settings) (name : String) (node : Wire.Node) :
    List String × List Truncation :=
  match Wire.nonEmpty? node.about.instructions with
  | some s =>
    let (shown, cuts) := cap (.field name) settings.instructionLimit settings.ellipsis s
    (["", "**Extraction Instructions:**", shown], cuts)
  | none => ([], [])

/-- The description of the elements of a list of objects. -/
def structureLines (node : Wire.Node) : List String :=
  match node.elementProperties? with
  | some properties =>
    ["", "**Object Structure:**"] ++
      (Wire.orderedProperties properties).map fun (name, child) => structureLine name child
  | none => []

/-- The examples of a section. -/
def exampleSection (name : String) (node : Wire.Node) : Except PromptFault (List String) :=
  match node.about.examples with
  | none | some [] => .ok []
  | some examples => do
    let lines ← examplesLines name 1 examples
    return ["", "**Examples:**"] ++ lines

/-- The section of a field. -/
def fieldSection (settings : Settings) (name : String) (node : Wire.Node) :
    Traced PromptFault (List String) := do
  let instructions ← Traced.report (instructionLines settings name node)
  let examples ← Traced.ofExcept (exampleSection name node)
  return headingLines name node ++ instructions ++ structureLines node ++ examples

/-- The sections of fields, each followed by an empty line. -/
def fieldSections (settings : Settings) :
    Wire.Properties → Traced PromptFault (List String)
  | [] => pure []
  | (name, node) :: rest => do
    let lines ← fieldSection settings name node
    let more ← fieldSections settings rest
    return lines ++ [""] ++ more

/-! ## Prompts -/

/-- The general instructions, cut to the limit. -/
def generalLines (settings : Settings) (instructions : Option String) :
    List String × List Truncation :=
  match Wire.nonEmpty? instructions with
  | some s =>
    let (shown, cuts) := cap .general settings.generalLimit settings.ellipsis s
    (["# General Instructions", shown, ""], cuts)
  | none => ([], [])

/-- The view that a mode embeds. -/
def embeddedView (settings : Settings) (mode : PromptMode) (t : Wire.Tree) :
    Value × List Truncation :=
  match mode with
  | .guidance => t.guidance ⟨settings.instructionLimit, settings.ellipsis⟩
  | .outline => (t.outline, [])

/-- The block that shows a view. -/
def viewLines (shown : String) : List String :=
  ["# Data Structure", "Extract data according to the following JSON schema structure:",
    "```json", shown, "```", ""]

/-- The part of a prompt for the fields. -/
def guidanceLines (settings : Settings) (t : Wire.Tree) : Traced PromptFault (List String) :=
  match (Wire.orderedProperties t.properties).filter fun (_, node) => node.about.isGuided with
  | [] => pure []
  | guided => do
    let sections ← fieldSections settings guided
    return ["# Field-Specific Extraction Guidance", ""] ++ sections

/-- The lines of a prompt. -/
def promptLines (settings : Settings) (mode : PromptMode) (instructions : Option String)
    (t : Wire.Tree) : Traced PromptFault (List String) := do
  let general ← Traced.report (generalLines settings instructions)
  let view ← Traced.report (embeddedView settings mode t)
  let shown ← Traced.ofExcept (orObstacle view.indentedJson?)
  let guidance ← guidanceLines settings t
  return general ++ viewLines shown ++ guidance

/-- The prompt for a tree. -/
def compose (settings : Settings) (mode : PromptMode) (instructions : Option String)
    (t : Wire.Tree) : Traced PromptFault String := do
  let lines ← promptLines settings mode instructions t
  return "\n".intercalate lines

end ExtractionSchema
