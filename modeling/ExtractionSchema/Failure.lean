import ExtractionSchema.Gate
import ExtractionSchema.Yaml.Fault

/-!
# Failures

Everything that can go wrong between a document and what is made of it. Each stage has faults of
its own; a `Failure` is one of them, or a document that is missing or is not what was asked for.

* `Failure.message` is what the user is told.
-/

namespace ExtractionSchema

/-- Why a path leads to no file. -/
inductive FileFault where
  /-- A folder on the path is not there. -/
  | missing
  /-- A file stands in the place of a folder. -/
  | notAFolder
  /-- A folder stands in the place of the file. -/
  | isFolder
  /-- A name on the path is too long. -/
  | nameTooLong
deriving DecidableEq

/-- What a message says about a path. -/
def FileFault.message : FileFault → String
  | .missing => "[Errno 2] No such file or directory"
  | .notAFolder => "[Errno 20] Not a directory"
  | .isFolder => "[Errno 21] Is a directory"
  | .nameTooLong => "[Errno 36] File name too long"

/-- Why something was not done. -/
inductive Failure where
  /-- There is no document of this name. -/
  | noDocument (name : String)
  /-- There are no settings of this name. -/
  | noSettings (name : String)
  /-- A path leads to no file. -/
  | file (fault : FileFault) (path : String)
  | json (error : Json.Error)
  | yaml (fault : Yaml.Fault)
  | settingsNotMapping
  | notASchema
  | resultsNotAList
  | propertiesNotAList
  | duplicateProperties (names : List String)
  | refused (refusal : Refusal)
  | malformed (m : Wire.Malformed)
  | shape (issues : List Issue)
  | agents (fault : AgentFault)
  | gate (fault : GateFault)
  | unwritable (obstacle : Obstacle)
  | noPromptMode (given : Value)

namespace Failure

/-- What the user is told. -/
def message : Failure → String
  | .noDocument name => "File not found: " ++ name
  | .noSettings name => "Settings file not found: " ++ name
  | .file fault path => fault.message ++ ": " ++ Text.quoted path
  | .json (.invalid problem line column index) =>
    "Invalid JSON: " ++ (Json.Error.invalid problem line column index).message
  | .json (.digits count) => (Json.Error.digits count).message
  | .yaml fault => fault.message
  | .settingsNotMapping => "Settings file must contain a YAML mapping"
  | .notASchema => "Schema file must contain a wire schema object or a property list"
  | .resultsNotAList => "Results file must contain a list of extraction results"
  | .propertiesNotAList => "Properties must be a list"
  | .duplicateProperties names => "Duplicate property names: " ++ ", ".intercalate names
  | .refused refusal => refusal.report
  | .malformed m => m.message
  | .shape issues => Issue.summary issues
  | .agents fault => fault.message
  | .gate fault => fault.message
  | .unwritable obstacle => obstacle.message
  | .noPromptMode given => given.literal ++ " is not a valid PromptMode"

end Failure

/-! ## Faults as failures -/

/-- The failure that a fault of a property list is. -/
def PropertyListFault.failure : PropertyListFault → Failure
  | .notAList => .propertiesNotAList
  | .refused refusal => .refused refusal
  | .duplicates names => .duplicateProperties names

/-- The failure that a fault of a conversion is. -/
def ConversionFault.failure : ConversionFault → Failure
  | .malformed m => .malformed m
  | .refused refusal => .refused refusal

/-- The failure that a fault of a compilation is. -/
def CompileFault.failure : CompileFault → Failure
  | .shape issues => .shape issues
  | .malformed m => .malformed m
  | .agents fault => .agents fault
  | .untold obstacle => .unwritable obstacle

/-- The failure that a fault of a prompt is. -/
def PromptFault.failure : PromptFault → Failure
  | .obstacle o => .unwritable o
  | .digits e => .json e

/-- A result whose fault is a failure. -/
def orFail {ε α : Type} (failure : ε → Failure) (x : Except ε α) : Except Failure α :=
  x.mapError failure

end ExtractionSchema
