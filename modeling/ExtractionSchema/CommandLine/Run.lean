import ExtractionSchema.CommandLine.Display
import ExtractionSchema.CommandLine.Request
import ExtractionSchema.Document
import ExtractionSchema.Property.Printer
import ExtractionSchema.Text.ControlSequences

/-!
# Running commands

A command reads files, prints, and may write a file. Whatever goes wrong with what the files hold
is told in one line, and the exit code is 1. Arguments that make no request give the exit code 2
and print nothing.

* `run` runs a command line.
-/

namespace ExtractionSchema.CommandLine

/-- What a command leaves behind. -/
structure Outcome where
  exitCode : Nat
  output : String
  files : Files

/-- The outcome of arguments that make no request. -/
def misused (files : Files) : Outcome := ⟨2, "", files⟩

/-- The message that tells of a failure. -/
def failureMessage (label : String) (f : Failure) : String :=
  message ("[red]" ++ label ++ ": " ++ Markup.escaped f.message ++ "[/red]")

/-- The outcome of a command that may fail. -/
def finish (label : String) (files : Files) : Except Failure Outcome → Outcome
  | .ok outcome => outcome
  | .error f => ⟨1, failureMessage label f, files⟩

/-! ## Reading and writing -/

/-- The value that a file holds. -/
def load (files : Files) (path : String) : Except Failure Value := do
  Document.read (Path.read path).text (← files.read path)

/-- The wire schema that a file holds. -/
def loadDefinition (files : Files) (path : String) : Except Failure Value := do
  Document.definition (← load files path)

/-- The list of agents that a file holds. -/
def loadAgents (files : Files) (path : String) : Except Failure Value := do
  return Document.unwrap "agents" (← load files path)

/-- The JSON text of a value, over several lines. -/
def written (v : Value) : Except Failure String := orFail .unwritable v.indentedJson?

/-- A text as it is printed by itself. -/
def printed (text : String) : String := Text.withoutControlSequences text ++ "\n"

/-- Prints a text, or writes it to the output file and shows a note about it. -/
def deliver (files : Files) (output : Option String) (text : String)
    (note : String → String) : Except Failure Outcome :=
  match output with
  | none => .ok ⟨0, printed text, files⟩
  | some path => do
    let files ← files.save path text
    return ⟨0, note path, files⟩

/-! ## Commands -/

/-- The note about a compiled schema that was written to a file. -/
def compiledPanel (schema : String) (c : CompiledSchema) (path : String) : String :=
  let fields := match c.definition.get? "properties" with
    | some (.object entries) => entries.length
    | _ => 0
  panel "Compile Complete" ("[green]Compiled schema[/green]\n\n" ++
    "[cyan]Source:[/cyan] " ++ Markup.escaped schema ++
    s!"\n[cyan]Fields:[/cyan] {fields}" ++
    s!"\n[cyan]Agents:[/cyan] {c.agents.length}" ++
    "\n[cyan]Output:[/cyan] " ++ Markup.escaped path)

/-- The messages about truncated texts. -/
def truncationMessages (cuts : List Truncation) : String :=
  if cuts.isEmpty then ""
  else
    message "\n[yellow]Truncated text:[/yellow]" ++ String.join (cuts.map fun t =>
      message ("  - " ++ Markup.escaped t.location ++ s!": {t.originalLength} > {t.limit}"))

/-- Compiles a schema. -/
def runCompile (settings : Settings) (verbose : Bool) (files : Files) (schema : String)
    (agents name instructions output : Option String) : Except Failure Outcome := do
  let definition ← loadDefinition files schema
  let agents ← agents.mapM (loadAgents files)
  let agents := agents.bind fun v => if v = .null then none else some v
  let c ← orFail CompileFault.failure (compile settings definition { name, instructions, agents })
  let text ← written c.toValue
  let outcome ← deliver files output text (compiledPanel schema c)
  return { outcome with
    output := outcome.output ++ (if verbose then truncationMessages c.truncations else "") }

/-- The value that a schema file is converted to. -/
def converted (files : Files) (schema : String) : Target → Except Failure Value
  | .wire => do Document.propertiesDefinition (← load files schema)
  | .properties => do
    let ps ← orFail ConversionFault.failure (Property.listOfTree (← load files schema))
    orFail .unwritable (Property.listToValue? ps)

/-- Converts a schema. -/
def runConvert (files : Files) (schema : String) (target : Target) (output : Option String) :
    Except Failure Outcome := do
  let text ← written (← converted files schema target)
  deliver files output text fun path =>
    message (s!"[green]Wrote {target.name} schema to " ++ Markup.escaped path ++ "[/green]")

/-- Prints the prompt of a schema. Instructions may be given or stand in a file. -/
def runPrompt (settings : Settings) (files : Files) (schema : String)
    (instructions instructionsFile : Option String) (mode : Option PromptMode) :
    Except Failure Outcome := do
  let instructions ← match nonEmpty instructionsFile with
    | some path => (fun content => some (Document.readText content)) <$> files.read path
    | none => pure instructions
  let definition ← loadDefinition files schema
  let c ← orFail CompileFault.failure (compile settings definition)
  let prompt ← orFail PromptFault.failure (c.prompt settings instructions mode).result
  return ⟨0, printed prompt, files⟩

/-- The description of an agent as the table shows it: at most 50 characters and a mark. -/
def shownDescription (a : Agent) : String :=
  match nonEmpty a.description with
  | none => "-"
  | some s => if 50 < s.length then String.ofList (s.toList.take 50) ++ "..." else s

/-- The table of agents in the order in which they run. -/
def agentTable (agents : List Agent) : String :=
  table "Agent Execution Order"
    [⟨"Order", true⟩, ⟨"Name", false⟩, ⟨"Description", false⟩]
    (agents.map fun a =>
      [toString a.order, Markup.escaped a.name, Markup.escaped (shownDescription a)])

/-- Checks a list of agents. An order of too many digits ends the command without a message. -/
def runCheckAgents (settings : Settings) (files : Files) (path : String) :
    Except Failure Outcome := do
  let agents ← orFail .agents (Agent.listOfValue settings (← loadAgents files path))
  let ordered := runOrder agents
  let skipped := agents.length - ordered.length
  let valid := s!"[green]{agents.length} agents valid[/green]"
  let counts := valid ++ s!", {ordered.length} enabled, {skipped} disabled"
  if ordered.any fun a => hasTooManyDigits a.order then return ⟨1, "", files⟩
  return ⟨0, agentTable ordered ++ message counts, files⟩

/-- Screens extraction results. The report is printed whether or not the parts can be written. -/
def runGate (settings : Settings) (files : Files) (results : String) (schema : Option String)
    (deep : Bool) (output : Option String) : Except Failure Outcome := do
  let candidates ← Document.results (← load files results)
  let schema ← match schema with
    | none => pure GateSchema.none
    | some path => do
      let definition ← loadDefinition files path
      GateSchema.compiled <$> orFail CompileFault.failure (compile settings definition)
  let parts ← orFail .gate (screen deep schema candidates).toExcept
  let report := printed parts.report
  match output with
  | none => return ⟨0, report, files⟩
  | some path =>
    let saved : Except Failure Outcome := do
      let files ← files.save path (← written parts.toValue)
      let note := "[green]Wrote partition to " ++ Markup.escaped path ++ "[/green]"
      return ⟨0, message note, files⟩
    let outcome := finish "Error" files saved
    return { outcome with output := report ++ outcome.output }

/-- Validates a record. -/
def runValidateRecord (settings : Settings) (files : Files) (schema record : String) :
    Except Failure Outcome := do
  let definition ← loadDefinition files schema
  let c ← orFail CompileFault.failure (compile settings definition)
  let v ← load files record
  if let some obstacle := c.contract.obstacle v then throw (.unwritable obstacle)
  let mismatches := c.validate v
  let name := Markup.escaped record
  if mismatches.isEmpty then return ⟨0, message (name ++ ": [green]VALID[/green]"), files⟩
  let details := mismatches.map fun m =>
    message ("  [red]ERROR[/red]: " ++ Markup.escaped m.text)
  let verdict := message (name ++ s!": [red]INVALID[/red] ({mismatches.length} errors)")
  return ⟨1, verdict ++ String.join details, files⟩

/-- Does what is requested. -/
def fulfil (settings : Settings) (verbose : Bool) (files : Files) :
    Request → Except Failure Outcome
  | .compile schema agents name instructions output =>
    runCompile settings verbose files schema agents name instructions output
  | .convert schema target output => runConvert files schema target output
  | .prompt schema instructions instructionsFile mode =>
    if (nonEmpty instructions).isSome && (nonEmpty instructionsFile).isSome then
      .ok (misused files)
    else runPrompt settings files schema instructions instructionsFile mode
  | .checkAgents agents => runCheckAgents settings files agents
  | .gate results schema deep output => runGate settings files results schema deep output
  | .validateRecord schema record => runValidateRecord settings files schema record

/-! ## Command lines -/

/-- The line that tells the version. -/
def versionLine : String := "schema-platform, version 0.1.0\n"

/-- The settings that a file holds; without a file, the standard ones. -/
def loadSettings (files : Files) : Option String → Except Failure Settings
  | none => .ok .standard
  | some path => do Document.settings (← files.read path)

/-- Runs a command line. -/
def run (files : Files) (args : List String) : Outcome :=
  match Arguments.read commonForms true args with
  | none => misused files
  | some a =>
    if a.has "version" then ⟨0, versionLine, files⟩
    else
      let config := a.value? "config"
      match a.operands with
      | [] => misused files
      | name :: rest =>
        if !config.all files.contains || (commands.lookup name).isNone then misused files
        else
          match loadSettings files config with
          | .error f => ⟨1, failureMessage "Error loading settings" f, files⟩
          | .ok settings =>
            match readRequest files name rest with
            | none => misused files
            | some request => finish "Error" files (fulfil settings (a.has "verbose") files request)

end ExtractionSchema.CommandLine
