import ExtractionSchema.Agent
import ExtractionSchema.Contract.Author
import ExtractionSchema.Conversion
import ExtractionSchema.Prompt
import ExtractionSchema.Record.Validation
import ExtractionSchema.Wire.Printer

/-!
# Compiled schemas

A schema definition is checked, read as a wire tree, and compiled into everything that is derived
from it: the contract for records, the two views for models, and the agents in the order in which
they run. A definition is compiled completely or not at all.

* `compile` compiles a definition, `compileTree` a wire tree and `compileProperties` a property list.
* `CompiledSchema.prompt` composes the prompt of a compiled schema.
-/

namespace ExtractionSchema

/-- Everything derived from a schema definition, with the definition itself. -/
structure CompiledSchema where
  definition : Value
  tree : Wire.Tree
  contract : Contract
  cleanView : Value
  outputView : Value
  name : Option String
  instructions : Option String
  agents : List Agent
  truncations : List Truncation

/-- Why a definition is not compiled. -/
inductive CompileFault where
  | shape (issues : List Issue)
  | malformed (m : Wire.Malformed)
  | agents (fault : AgentFault)
  | untold (obstacle : Obstacle)

/-- What comes with a definition: its name, its general instructions and its agents. -/
structure Companions where
  name : Option String := none
  instructions : Option String := none
  agents : Option Value := none

/-- The agents that come with a definition, in the order in which they run. -/
def compileAgents (settings : Settings) : Option Value → Except AgentFault (List Agent)
  | none => .ok []
  | some v =>
    match Agent.listOfValue settings v with
    | .ok agents => .ok (runOrder agents)
    | .error fault => .error fault

/-- Compiles a definition. -/
def compile (settings : Settings) (definition : Value) (companions : Companions := {}) :
    Except CompileFault CompiledSchema :=
  match authorObstacle definition, checkAuthorSchema settings definition with
  | some obstacle, _ => .error (.untold obstacle)
  | none, .error issues => .error (.shape issues)
  | none, .ok () =>
    match Wire.Tree.ofValue definition with
    | .error m => .error (.malformed m)
    | .ok tree =>
      match compileAgents settings companions.agents with
      | .error fault => .error (.agents fault)
      | .ok agents =>
        let (cleanView, truncations) := tree.guidance ⟨settings.instructionLimit, settings.ellipsis⟩
        .ok {
          definition, tree, contract := tree.contract, cleanView, outputView := tree.outline,
          name := companions.name, instructions := companions.instructions, agents, truncations }

/-- Compiles a wire tree: its written form is the definition. -/
def compileTree (settings : Settings) (t : Wire.Tree) (companions : Companions := {}) :
    Except CompileFault CompiledSchema :=
  compile settings t.toValue companions

/-- Compiles the wire tree of a property list. -/
def compileProperties (settings : Settings) (ps : List Property) (companions : Companions := {}) :
    Except CompileFault CompiledSchema :=
  compile settings (Wire.Tree.ofProperties ps).toValue companions

namespace CompiledSchema

/-- What compilation writes to the log: a warning for each truncation, and a summary. -/
def log (c : CompiledSchema) : List LogRecord :=
  let name := match c.name with
    | some name => Text.quoted name
    | none => "None"
  c.truncations.map Truncation.warning ++
    [⟨.debug, .compiler, s!"Compiled schema {name}: {c.tree.properties.length} top-level " ++
      s!"fields, {c.agents.length} agents, {c.truncations.length} truncations"⟩]

/-- A text that may be missing. -/
def orNull : Option String → Value
  | some s => .string s
  | none => .null

/-- The written form of a compiled schema. -/
def toValue (c : CompiledSchema) : Value :=
  .record [
    ("name", orNull c.name),
    ("prompt", orNull c.instructions),
    ("wireTree", c.definition),
    ("cleanView", c.cleanView),
    ("outputView", c.outputView),
    ("metadata", .record [("jsonSchema", c.definition)]),
    ("agents", .list (c.agents.map Agent.toValue))]

/-- The mismatches of a record with the schema. -/
def validate (c : CompiledSchema) (record : Value) : List Mismatch :=
  ExtractionSchema.validate c.contract record

/-- The prompt of the schema. Instructions given here take the place of those that came with the
definition; no mode stands for that of the settings. -/
def prompt (settings : Settings) (c : CompiledSchema) (instructions : Option String)
    (mode : Option PromptMode) : Traced PromptFault String :=
  compose settings (mode.getD settings.promptMode) (instructions.or c.instructions) c.tree

end CompiledSchema

end ExtractionSchema
