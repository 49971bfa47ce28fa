import ExtractionSchema.CommandLine.Arguments
import ExtractionSchema.CommandLine.Files

/-!
# Requests

What a user asks for on the command line: one of six commands with its files and choices. The
options before the command's name concern all commands.
-/

namespace ExtractionSchema.CommandLine

/-- What a schema file is converted to. -/
inductive Target where
  | wire
  | properties
deriving DecidableEq

namespace Target

/-- The names of the targets. -/
def names : List (String × Target) := [("wire", .wire), ("properties", .properties)]

/-- The name of a target. -/
def name : Target → String
  | .wire => "wire"
  | .properties => "properties"

end Target

/-- What a command is asked to do. An output that is given is not empty. -/
inductive Request where
  | compile (schema : String) (agents name instructions output : Option String)
  | convert (schema : String) (target : Target) (output : Option String)
  | prompt (schema : String) (instructions instructionsFile : Option String)
      (mode : Option PromptMode)
  | checkAgents (agents : String)
  | gate (results : String) (schema : Option String) (deep : Bool) (output : Option String)
  | validateRecord (schema record : String)

/-- The options before the name of a command. -/
def commonForms : List OptionForm :=
  [{ name := "version", takesValue := false },
    { name := "verbose", letter := some 'v', takesValue := false },
    { name := "config", letter := some 'c' }]

/-- A command: its options, and how many operands it takes. -/
structure Command where
  forms : List OptionForm
  operands : Nat

/-- The option for an output file. -/
def outputForm : OptionForm := { name := "output", letter := some 'o' }

/-- The option for general instructions. -/
def instructionsForm : OptionForm := { name := "instructions", letter := some 'i' }

/-- The commands, by their names. -/
def commands : List (String × Command) :=
  [("compile",
      ⟨[{ name := "agents", letter := some 'a' }, { name := "name", letter := some 'n' },
        instructionsForm, outputForm], 1⟩),
    ("convert", ⟨[{ name := "to" }, outputForm], 1⟩),
    ("prompt",
      ⟨[instructionsForm, { name := "instructions-file" }, { name := "mode", letter := some 'm' }],
        1⟩),
    ("check-agents", ⟨[], 1⟩),
    ("gate",
      ⟨[{ name := "schema", letter := some 's' }, { name := "deep", takesValue := false },
        outputForm], 1⟩),
    ("validate-record", ⟨[], 2⟩)]

/-- A value that is not empty. -/
def nonEmpty (value : Option String) : Option String := value.filter (· ≠ "")

/-- The choice that a value names; a value that names none is refused. -/
def chosen {α : Type} (choices : List (String × α)) : Option String → Option (Option α)
  | none => some none
  | some name => (choices.lookup name).map some

/-- The request that a command and its operands and options make. -/
def requestOf (command : String) (a : Arguments) : Option Request :=
  let output := nonEmpty (a.value? "output")
  match command, a.operands with
  | "compile", [schema] =>
    some (.compile schema (a.value? "agents") (a.value? "name") (a.value? "instructions") output)
  | "convert", [schema] =>
    (chosen Target.names (a.value? "to")).map fun target =>
      .convert schema (target.getD .wire) output
  | "prompt", [schema] =>
    (chosen PromptMode.names (a.value? "mode")).map fun mode =>
      .prompt schema (a.value? "instructions") (a.value? "instructions-file") mode
  | "check-agents", [agents] => some (.checkAgents agents)
  | "gate", [results] => some (.gate results (a.value? "schema") (a.has "deep") output)
  | "validate-record", [schema, record] => some (.validateRecord schema record)
  | _, _ => none

/-- The files that a request reads. -/
def Request.inputs : Request → List String
  | .compile schema agents _ _ _ => schema :: agents.toList
  | .convert schema _ _ => [schema]
  | .prompt schema _ instructionsFile _ => schema :: instructionsFile.toList
  | .checkAgents agents => [agents]
  | .gate results schema _ _ => results :: schema.toList
  | .validateRecord schema record => [schema, record]

/-- Reads the arguments after a command's name. All files that are read must be there. -/
def readRequest (files : Files) (name : String) (args : List String) : Option Request := do
  let command ← commands.lookup name
  let arguments ← Arguments.read command.forms false args
  let request ← requestOf name arguments
  if request.inputs.all files.contains then some request else none

/-- The names of the files that arguments may read. -/
def mentionedFiles (args : List String) : List String :=
  match Arguments.read commonForms true args with
  | none => []
  | some a =>
    (a.value? "config").toList ++
      match a.operands with
      | [] => []
      | name :: rest =>
        match (commands.lookup name).bind fun c => Arguments.read c.forms false rest with
        | none => []
        | some b => b.operands ++ b.options.map (·.2)

end ExtractionSchema.CommandLine
