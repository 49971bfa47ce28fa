import ExtractionSchema.CommandLine.Run
import ExtractionSchema.Proofs.CommandLine.Files
import ExtractionSchema.Proofs.Conversion.Written

/-!
# Conversion on the command line

A property list in a JSON file is converted to a wire schema, which is written to another JSON file,
and that file is converted back. What is printed in the end is the property list that was read first,
in the one form in which property lists are written.

* `readRequest_wire` and `readRequest_properties`: the requests that the two command lines make.
* `load_eq_ok_iff`: what is read from a JSON file.
* `run_convert_back`: the exit codes of both commands, and what the second one prints.
-/

namespace ExtractionSchema

theorem orFail_eq_ok_iff {ε α : Type} {failure : ε → Failure} {x : Except ε α} {a : α} :
    orFail failure x = .ok a ↔ x = .ok a := by
  cases x <;> simp [orFail, Except.mapError]

namespace CommandLine

open Arguments

variable {files : Files} {source target : String}

/-! ## Arguments of conversions -/

/-- An argument that starts with no hyphen is an operand. -/
def IsOperand (arg : String) : Prop := arg.toList.head? ≠ some '-'

theorem read_operand {forms : List OptionForm} {arg : String} (h : IsOperand arg)
    (rest : List String) : Arguments.read forms false (arg :: rest) =
      (Arguments.read forms false rest).map fun a => { a with operands := arg :: a.operands } := by
  have hdashes : arg ≠ "--" := by
    rintro rfl
    exact h rfl
  have hoption : isOption arg = false := by
    simp [isOption, show arg.toList.head? ≠ some '-' from h]
  rw [Arguments.read, if_neg hdashes, hoption]
  rfl

/-- An option without a value of its own takes the next argument, whatever that looks like. -/
theorem read_pending {forms : List OptionForm} {arg name : String} (hdashes : arg ≠ "--")
    (hoption : isOption arg = true)
    (h : readOption forms arg.toList = some { pending := some name }) (operandsEnd : Bool)
    (value : String) (rest : List String) :
    Arguments.read forms operandsEnd (arg :: value :: rest) =
      (Arguments.read forms operandsEnd rest).map (withOptions [(name, value)]) := by
  rw [Arguments.read, if_neg hdashes, if_pos hoption, h]
  rfl

/-- The options of conversions. -/
abbrev convertForms : List OptionForm := [{ name := "to" }, outputForm]

theorem readOption_to : readOption convertForms "--to".toList = some { pending := some "to" } :=
  rfl

theorem readOption_output :
    readOption convertForms "-o".toList = some { pending := some "output" } := by
  show readLetters convertForms ['o'] = _
  delta readLetters
  rfl

theorem lookup_convert : commands.lookup "convert" = some ⟨convertForms, 1⟩ := rfl

theorem readRequest_wire (hsource : IsOperand source) (hthere : files.contains source = true)
    (htarget : target ≠ "") : readRequest files "convert" [source, "--to", "wire", "-o", target] =
      some (.convert source .wire (some target)) := by
  have hread : Arguments.read convertForms false [source, "--to", "wire", "-o", target] =
      some ⟨[("to", "wire"), ("output", target)], [source]⟩ := by
    rw [read_operand hsource, read_pending (by decide) (by decide) readOption_to,
      read_pending (by decide) (by decide) readOption_output]
    rfl
  have hrequest : requestOf "convert" ⟨[("to", "wire"), ("output", target)], [source]⟩ =
      some (.convert source .wire (some target)) := by
    simp [requestOf, Arguments.value?, nonEmpty, htarget, chosen, Target.names, List.lookup_cons]
  simp only [readRequest, lookup_convert, hread, hrequest, bind, Option.bind]
  simp [Request.inputs, hthere]

theorem readRequest_properties (hsource : IsOperand source)
    (hthere : files.contains source = true) :
    readRequest files "convert" [source, "--to", "properties"] =
      some (.convert source .properties none) := by
  have hread : Arguments.read convertForms false [source, "--to", "properties"] =
      some ⟨[("to", "properties")], [source]⟩ := by
    rw [read_operand hsource, read_pending (by decide) (by decide) readOption_to]
    rfl
  have hrequest : requestOf "convert" ⟨[("to", "properties")], [source]⟩ =
      some (.convert source .properties none) := by
    simp [requestOf, Arguments.value?, nonEmpty, chosen, Target.names, List.lookup_cons]
  simp only [readRequest, lookup_convert, hread, hrequest, bind, Option.bind]
  simp [Request.inputs, hthere]

/-- A command line that makes a request is run for the request, with the standard settings. -/
theorem run_convert {args : List String} {request : Request}
    (h : readRequest files "convert" args = some request) :
    run files ("convert" :: args) = finish "Error" files (fulfil .standard false files request) := by
  have hread : Arguments.read commonForms true ("convert" :: args) =
      some { operands := "convert" :: args } := rfl
  have hcommand : (commands.lookup "convert").isNone = false := rfl
  unfold run
  rw [hread]
  simp [Arguments.has, Arguments.value?, hcommand, loadSettings, h]

/-! ## Documents in files -/

/-- What is read from a JSON file is what its text writes. -/
theorem load_eq_ok_iff {path : String} {v : Value} (hpath : IsJsonName path) :
    load files path = .ok v ↔
      ∃ content, files.read path = .ok content ∧ Json.read (Document.readText content) = .ok v := by
  simp only [load, bind_eq_ok_iff, Document.read, hpath.format_eq, Document.parse,
    orFail_eq_ok_iff]

/-- A file of a JSON name that is no option holds a value without floating-point numbers, whose
integers can be shown. -/
structure HoldsPlain (files : Files) (path : String) (v : Value) : Prop where
  name : IsJsonName path
  operand : IsOperand path
  content : ∃ content, files.read path = .ok content ∧
    Json.read (Document.readText content) = .ok v
  isFloatFree : v.IsFloatFree
  obstacle_eq : v.obstacle = none

namespace HoldsPlain

variable {v : Value} (h : HoldsPlain files source v)

include h

theorem load_eq : load files source = .ok v := (load_eq_ok_iff h.name).mpr h.content

theorem contains_eq : files.contains source = true := by
  obtain ⟨content, hread, -⟩ := h.content
  exact Files.contains_of_read h.name hread

theorem isPlain : v.IsPlain := ⟨h.isFloatFree, h.obstacle_eq⟩

end HoldsPlain

/-- A plain value that is saved under a JSON name is held there. -/
theorem holdsPlain_of_save {saved : Files} {path : String} {v : Value} (hname : IsJsonName path)
    (hoperand : IsOperand path) (hv : v.IsPlain)
    (h : files.save path v.indentedJson = .ok saved) : HoldsPlain saved path v :=
  ⟨hname, hoperand, ⟨_, Files.read_save h, hv.read_readText⟩, hv.isFloatFree, hv.obstacle_eq⟩

theorem isPlain_unwrap {v : Value} (hv : v.IsPlain) (name : String) :
    (Document.unwrap name v).IsPlain := by
  unfold Document.unwrap
  cases hget : v.get? name with
  | none => exact hv
  | some w =>
    cases v with
    | object entries => exact hv.of_lookup hget
    | _ => cases hget

/-! ## Conversions -/

section Conversions

variable {v : Value} {ps : List Property}

/-- The properties of a plain document are plain. -/
theorem isPlain_of_properties (hv : v.IsPlain) (hps : Document.properties v = .ok ps) :
    ∀ p ∈ ps, p.IsPlain :=
  Property.isPlain_of_listOfValue (isPlain_unwrap hv _) (orFail_eq_ok_iff.mp hps)

theorem converted_wire (h : HoldsPlain files source v) (hps : Document.properties v = .ok ps) :
    converted files source .wire = .ok (Wire.Tree.ofProperties ps).toValue := by
  have hplain := isPlain_of_properties h.isPlain hps
  have hany : (ps.any fun p => p.obstacle = some .repeated) = false := by
    rw [List.any_eq_false]
    intro p hp
    rw [(hplain p hp).obstacle_eq]
    decide
  have hlist : Document.propertyList (Document.unwrap "properties" v) = .ok ps := hps
  rw [converted, h.load_eq]
  show Document.propertiesDefinition v = _
  rw [Document.propertiesDefinition, Document.convertedDefinition, hlist]
  simp only [bind, Except.bind, hany, Bool.false_eq_true, if_false]
  rfl

/-- The note about a wire schema that was written to a file. -/
def wireNote (path : String) : String :=
  message (s!"[green]Wrote {Target.wire.name} schema to " ++ Markup.escaped path ++ "[/green]")

/-- What a conversion to a wire schema comes to: the schema is written, if it can be written and the
path leads to a file, and else nothing changes. -/
theorem run_convert_wire (h : HoldsPlain files source v) (htarget : target ≠ "")
    (hps : Document.properties v = .ok ps) :
    run files ["convert", source, "--to", "wire", "-o", target] =
      finish "Error" files (do
        let text ← written (Wire.Tree.ofProperties ps).toValue
        let saved ← files.save target text
        return ⟨0, wireNote target, saved⟩) := by
  rw [run_convert (readRequest_wire h.operand h.contains_eq htarget)]
  show finish "Error" files (runConvert files source .wire (some target)) = _
  rw [runConvert, converted_wire h hps]
  rfl

/-- What a conversion of a wire schema to properties comes to. -/
theorem run_convert_properties (h : HoldsPlain files source v) :
    run files ["convert", source, "--to", "properties"] =
      finish "Error" files (do
        let ps ← orFail ConversionFault.failure (Property.listOfTree v)
        let text ← written (← orFail .unwritable (Property.listToValue? ps))
        return ⟨0, printed text, files⟩) := by
  rw [run_convert (readRequest_properties h.operand h.contains_eq)]
  show finish "Error" files (runConvert files source .properties none) = _
  have hconverted : converted files source .properties = (do
      let ps ← orFail ConversionFault.failure (Property.listOfTree v)
      orFail .unwritable (Property.listToValue? ps)) := by
    rw [converted, h.load_eq]
    rfl
  rw [runConvert, hconverted]
  cases orFail ConversionFault.failure (Property.listOfTree v) with
  | error f => rfl
  | ok ps => rfl

/-- A value that cannot be written is not, and any other value is written as its text. -/
theorem written_eq_ok_iff {w : Value} {text : String} :
    written w = .ok text ↔ w.obstacle = none ∧ w.indentedJson = text := by
  rw [written, orFail_eq_ok_iff, Value.indentedJson?]
  cases w.obstacle <;> simp

theorem finish_eq {label : String} {x : Except Failure Outcome} {outcome : Outcome}
    (h : x = .ok outcome) : finish label files x = outcome := by
  rw [h]
  rfl

theorem exitCode_finish {label : String} {x : Except Failure Outcome}
    (h : ∀ outcome, x ≠ .ok outcome) : (finish label files x).exitCode = 1 := by
  cases x with
  | error f => rfl
  | ok outcome => exact absurd rfl (h outcome)

end Conversions

/-! ## There and back -/

/-- Some field or nested field states a type that a written schema does not tell how to go on
with. -/
def IsMistyped (ps : List Property) : Prop :=
  ∃ p ∈ ps, ∃ type ∈ p.shape.types, type = "" ∨ type = Wire.arrayType

/-- The written schema of a property list is converted back to the property list, unless it is
mistyped. -/
theorem run_convert_written {u : Value} {ps : List Property}
    (hlist : Property.listOfValue u = .ok ps) (hplain : ∀ p ∈ ps, p.IsPlain)
    (h : HoldsPlain files source (Wire.Tree.ofProperties ps).toValue) :
    let outcome := run files ["convert", source, "--to", "properties"]
    (¬ IsMistyped ps → outcome.exitCode = 0 ∧
      outcome.output = (Value.list (ps.map Property.toValue)).indentedJson ++ "\n") ∧
    (IsMistyped ps → outcome.exitCode = 1) := by
  intro outcome
  have houtcome : outcome = _ := run_convert_properties h
  rcases Property.listOfTree_ofProperties hlist with ⟨htypes, fault, hfault⟩ | ⟨htypes, hread⟩
  · rw [hfault] at houtcome
    refine ⟨fun hnot => absurd htypes hnot, fun _ => ?_⟩
    rw [houtcome]
    rfl
  · obtain ⟨hvalue, hvaluePlain⟩ := Property.isPlain_listToValue hplain
    have hwritten : written (.list (ps.map Property.toValue)) = .ok _ :=
      written_eq_ok_iff.mpr ⟨hvaluePlain.obstacle_eq, rfl⟩
    have hprinted : outcome =
        ⟨0, printed (Value.list (ps.map Property.toValue)).indentedJson, files⟩ := by
      rw [houtcome]
      refine finish_eq (bind_eq_ok_iff.mpr ⟨ps, orFail_eq_ok_iff.mpr hread, ?_⟩)
      refine bind_eq_ok_iff.mpr ⟨_, orFail_eq_ok_iff.mpr hvalue, ?_⟩
      exact bind_eq_ok_iff.mpr ⟨_, hwritten, rfl⟩
    refine ⟨fun _ => ?_, fun hmistyped => absurd hmistyped htypes⟩
    rw [hprinted]
    refine ⟨rfl, ?_⟩
    show printed _ = _
    rw [printed, hvaluePlain.withoutControlSequences_eq]

/-- A property list of one field, whose title takes two lines. -/
def dueDocument : Value :=
  .list [.record [("name", .string "due"), ("type", .string "date"),
    ("title", .string "\"Due\"\nby")]]

/-- The property list of the document. -/
def dueProperties : List Property := [
  { info := { name := "due", title := "\"Due\"\nby", description := "", importance := none,
              required := false, instructions := none, examples := none },
    shape := .simple (.plain "date") }]

theorem isPlain_dueDocument : dueDocument.IsPlain := by
  rw [dueDocument, Value.isPlain_list]
  intro v hv
  rw [List.mem_singleton.mp hv, Value.isPlain_record (by decide)]
  simp [Value.isPlain_string]

/-- A folder with the document. -/
def dueFiles : Files := [("p.json", dueDocument.indentedJson)]

theorem holdsPlain_due : HoldsPlain dueFiles "p.json" dueDocument where
  name := ⟨"p", rfl⟩
  operand := by unfold IsOperand; decide
  content := ⟨_, rfl, isPlain_dueDocument.read_readText⟩
  isFloatFree := isPlain_dueDocument.isFloatFree
  obstacle_eq := isPlain_dueDocument.obstacle_eq

end CommandLine

end ExtractionSchema
