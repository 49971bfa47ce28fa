import ExtractionSchema.Reading.Coercion

/-!
# Settings

The limits that compilation, prompts and agent lists obey. Where a limit must be positive, its
proof is part of the settings.
-/

namespace ExtractionSchema

/-- The view of the schema that a prompt embeds: the bare structure, or the structure with the
extraction instructions of its fields. -/
inductive PromptMode where
  | outline
  | guidance
deriving DecidableEq

namespace PromptMode

/-- The names of the modes. -/
def names : List (String × PromptMode) := [("structure", .outline), ("guidance", .guidance)]

/-- The name of a mode. -/
def name : PromptMode → String
  | .outline => "structure"
  | .guidance => "guidance"

end PromptMode

/-- The limits and choices of a compiler. -/
structure Settings where
  instructionLimit : Nat := 500
  generalLimit : Nat := 3000
  ellipsis : String := "..."
  maxAgents : Nat := 10
  agentNameLimit : Nat := 100
  agentPromptLimit : Nat := 5000
  agentDescriptionLimit : Nat := 500
  maxSchemaSize : Nat := 100000
  promptMode : PromptMode := .outline
  instructionLimit_pos : 1 ≤ instructionLimit := by decide
  generalLimit_pos : 1 ≤ generalLimit := by decide
  agentNameLimit_pos : 1 ≤ agentNameLimit := by decide
  agentPromptLimit_pos : 1 ≤ agentPromptLimit := by decide
  maxSchemaSize_pos : 1 ≤ maxSchemaSize := by decide

namespace Settings

/-- The settings that hold where nothing else is chosen. -/
def standard : Settings := {}

instance : Inhabited Settings := ⟨standard⟩

/-- Settings from fields that were read. -/
def ofFields (instruction general : { n : Nat // 1 ≤ n }) (ellipsis : String)
    (maxAgents : { n : Nat // 0 ≤ n }) (agentName agentPrompt : { n : Nat // 1 ≤ n })
    (agentDescription : { n : Nat // 0 ≤ n }) (size : { n : Nat // 1 ≤ n })
    (mode : PromptMode) : Settings where
  instructionLimit := instruction
  generalLimit := general
  ellipsis := ellipsis
  maxAgents := maxAgents
  agentNameLimit := agentName
  agentPromptLimit := agentPrompt
  agentDescriptionLimit := agentDescription
  maxSchemaSize := size
  promptMode := mode
  instructionLimit_pos := instruction.2
  generalLimit_pos := general.2
  agentNameLimit_pos := agentName.2
  agentPromptLimit_pos := agentPrompt.2
  maxSchemaSize_pos := size.2

open Reading in
/-- Reads the entries of a settings document; what it leaves out takes the standard value. -/
def ofEntries (entries : Value.Entries) : Checked Settings :=
  let positive (name : String) (default : { n : Nat // 1 ≤ n }) :=
    field [name] default (integerFrom 1) entries
  let natural (name : String) (default : Nat) :=
    field [name] ⟨default, Nat.zero_le _⟩ (integerFrom 0) entries
  ofFields
    <$> positive "instruction_char_limit" ⟨500, by decide⟩
    <*> positive "general_instructions_char_limit" ⟨3000, by decide⟩
    <*> field ["ellipsis"] "..." text entries
    <*> natural "max_agents" 10
    <*> positive "agent_name_max_length" ⟨100, by decide⟩
    <*> positive "agent_prompt_max_length" ⟨5000, by decide⟩
    <*> natural "agent_description_max_length" 500
    <*> positive "max_schema_size_bytes" ⟨100000, by decide⟩
    <*> field ["prompt_mode"] .outline (choice PromptMode.names) entries

/-- Reads settings from a value. -/
def ofValue (v : Value) : Except Refusal Settings :=
  let model := "CompilerSettings"
  ((Reading.entriesOf model v).andThen ofEntries).orRefuse model

/-- All settings, in the order of their declaration. -/
def toValue (s : Settings) : Value :=
  .record [
    ("instruction_char_limit", .int s.instructionLimit),
    ("general_instructions_char_limit", .int s.generalLimit),
    ("ellipsis", .string s.ellipsis),
    ("max_agents", .int s.maxAgents),
    ("agent_name_max_length", .int s.agentNameLimit),
    ("agent_prompt_max_length", .int s.agentPromptLimit),
    ("agent_description_max_length", .int s.agentDescriptionLimit),
    ("max_schema_size_bytes", .int s.maxSchemaSize),
    ("prompt_mode", .string s.promptMode.name)]

end Settings

end ExtractionSchema
