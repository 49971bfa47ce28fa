import ExtractionSchema.Compilation
import ExtractionSchema.Value.Elements

/-!
# The gate for extraction results

A batch of candidate records is parted into valid and rejected ones before agents see it. A
candidate is an object with at least one entry. With a schema, its top-level required fields must
be there and its top-level fields of the right kind; with a compiled schema, the deep gate also
validates the candidate in full. A rejected candidate is kept with the first reason found.

* `screen` parts a batch.
-/

namespace ExtractionSchema

/-- The schema that a gate checks with: none, a wire schema as it is written, or a compiled one. -/
inductive GateSchema where
  | none
  | written (v : Value)
  | compiled (c : CompiledSchema)

/-- The written schema that a gate checks with, unless it is empty. -/
def GateSchema.written? : GateSchema → Option Value
  | .none => .none
  | .written v => if v.truthy then some v else .none
  | .compiled c => if c.definition.truthy then some c.definition else .none

/-- Why a batch is not screened. -/
inductive GateFault where
  /-- A required name cannot be looked up: it is a list, an object or a set, or a pair that holds
  one. -/
  | notAKey (kind : String)
  /-- The reason to reject a candidate cannot be written. -/
  | untold (obstacle : Obstacle)
  /-- The schema is no object, but a value of this class. -/
  | notASchema (className : String)
  /-- The batch cannot be gone through. -/
  | notABatch (cause : NoElements)
deriving DecidableEq

/-- What a message says about a fault of the gate. -/
def GateFault.message : GateFault → String
  | .notAKey kind => s!"unhashable type: '{kind}'"
  | .untold obstacle => obstacle.message
  | .notASchema className => s!"'{className}' object has no attribute 'get'"
  | .notABatch cause => cause.message

/-- A rejected candidate, with its place in the batch and the reason. -/
structure Rejection where
  index : Nat
  error : String
  data : Value

/-- The two parts of a batch. -/
structure GateResult where
  valid : List Value
  rejections : List Rejection

/-! ## Checks of a candidate -/

namespace Gate

/-- The entries of a candidate, or why it is none. -/
def structureError : Value → Option String
  | .object [] => some "Invalid extraction result structure: empty object"
  | .object _ => none
  | v => some ("Invalid extraction result structure: " ++ v.typeName)

/-- The kind of a value that cannot be looked up. -/
def unkeyedKind : Value → Option String
  | .list _ | .enclosing true => some "list"
  | .object _ | .enclosing false => some "dict"
  | .set _ => some "set"
  | .pair first second => unkeyedKind first <|> unkeyedKind second
  | _ => none

/-- Whether a value is the key of an entry. -/
def isKeyOf (entries : Value.Entries) (v : Value) : Bool :=
  v.key?.any fun key => (Value.lookupSame key entries).isSome

/-- The first required field that a candidate lacks. -/
def missingError (entries : Value.Entries) : List Value → Except GateFault (Option String)
  | [] => .ok none
  | v :: vs => do
    if let some kind := unkeyedKind v then throw (.notAKey kind)
    if isKeyOf entries v then missingError entries vs
    else if v.isShowable then return some ("Missing required field: " ++ v.plain)
    else throw (.untold .digits)

/-- The kinds that the gate knows, by the name of the type that states them. -/
def kinds : List (String × Kind) :=
  [("string", .string), ("number", .number), ("integer", .integer), ("boolean", .boolean),
    ("array", .array), ("object", .object)]

/-- Why a field of a candidate does not fit its schema, if it does not. -/
def fieldError (required : List Value) (entries : Value.Entries) (field : Key) (schema : Value) :
    Option String := do
  let v ← Value.lookup field entries
  let type ← (← schema.get? "type").string?
  let kind ← kinds.lookup type
  let isRequired := required.any fun name => name.key?.any (·.same field)
  if v = .null ∧ ¬ isRequired then none
  else if v ≠ .null ∧ kind.admits v then none
  else some s!"Field \"{field.plain}\" has wrong type: expected {type}, got {v.typeName}"

/-- Why a candidate does not fit a written schema, if it does not. A schema whose properties are no
object fits everything. -/
def schemaError (schema : Value) (entries : Value.Entries) : Except GateFault (Option String) :=
  if !schema.isObject then .error (.notASchema schema.className)
  else match schema.get? "properties" with
  | some (.object properties) => do
    let required := match schema.get? "required" with
      | some (.list names) => names
      | _ => []
    match ← missingError entries required with
    | some error => return some error
    | none => return properties.findSome? fun (field, s) => fieldError required entries field s
  | _ => .ok none

/-- Why a candidate does not pass the full validation of a compiled schema, if it does not. -/
def deepError (deep : Bool) (schema : GateSchema) (candidate : Value) :
    Except GateFault (Option String) :=
  match deep, schema with
  | true, .compiled c =>
    match c.contract.obstacle candidate with
    | some obstacle => .error (.untold obstacle)
    | none =>
      .ok ((firstMismatch c.contract candidate).map fun m => "Schema validation failed: " ++ m.text)
  | _, _ => .ok none

/-- Why a candidate is rejected, if it is. -/
def rejection (deep : Bool) (schema : GateSchema) (candidate : Value) :
    Except GateFault (Option String) :=
  match structureError candidate, candidate with
  | none, .object entries => do
    let shallow ← match schema.written? with
      | some written => schemaError written entries
      | none => .ok none
    match shallow with
    | some error => return some error
    | none => deepError deep schema candidate
  | error, _ => .ok error

end Gate

/-! ## Batches -/

/-- What screening a batch comes to: its parts up to its end, or up to a fault. -/
structure Screening where
  result : GateResult
  fault : Option GateFault

namespace Screening

/-- The screening of an empty batch. -/
def empty : Screening := ⟨⟨[], []⟩, none⟩

/-- A valid candidate before the others. -/
def consValid (v : Value) (s : Screening) : Screening :=
  { s with result := { s.result with valid := v :: s.result.valid } }

/-- A rejected candidate before the others. -/
def consRejected (r : Rejection) (s : Screening) : Screening :=
  { s with result := { s.result with rejections := r :: s.result.rejections } }

end Screening

/-- Screens the candidates from an index on. -/
def screenFrom (deep : Bool) (schema : GateSchema) : Nat → List Value → Screening
  | _, [] => .empty
  | index, v :: vs =>
    match Gate.rejection deep schema v with
    | .error fault => ⟨⟨[], []⟩, some fault⟩
    | .ok none => (screenFrom deep schema (index + 1) vs).consValid v
    | .ok (some error) =>
      (screenFrom deep schema (index + 1) vs).consRejected ⟨index, error, v⟩

/-- The candidates of a batch that is written as a value. -/
def candidates (v : Value) : Except GateFault (List Value) := v.elements.mapError .notABatch

/-- Screens a batch. -/
def screen (deep : Bool) (schema : GateSchema) (batch : List Value) : Screening :=
  screenFrom deep schema 0 batch

/-- The parts of a batch, or the fault. -/
def Screening.toExcept (s : Screening) : Except GateFault GateResult :=
  match s.fault with
  | some fault => .error fault
  | none => .ok s.result

namespace Rejection

/-- The rejected candidate as it is set aside: its entries, with the reason and a mark. -/
def quarantined (r : Rejection) : Value :=
  let entries := match r.data with
    | .object entries => entries
    | _ => []
  .object (Value.put (.name "_skipAgents") (.bool true)
    (Value.put (.name "_validationError") (.string r.error) entries))

/-- The written form of a rejection. -/
def toValue (r : Rejection) : Value :=
  .record [("index", .int r.index), ("error", .string r.error), ("data", r.data)]

end Rejection

namespace GateResult

/-- The rejected candidates as they are set aside. -/
def invalid (r : GateResult) : List Value := r.rejections.map Rejection.quarantined

/-- Number of valid candidates. -/
def validCount (r : GateResult) : Nat := r.valid.length

/-- Number of rejected candidates. -/
def invalidCount (r : GateResult) : Nat := r.invalid.length

/-- Number of candidates. -/
def total (r : GateResult) : Nat := r.validCount + r.invalidCount

/-- The written form of a result. -/
def toValue (r : GateResult) : Value :=
  .record [
    ("valid", .list r.valid),
    ("invalid", .list r.invalid),
    ("validCount", .int r.validCount),
    ("invalidCount", .int r.invalidCount),
    ("validationErrors", .list (r.rejections.map Rejection.toValue))]

/-- A summary: the counts, and the first three reasons. -/
def report (r : GateResult) : String :=
  if r.invalidCount = 0 then s!"All {r.validCount} extraction results passed validation"
  else
    let sample := (r.rejections.take 3).map fun e => s!"• Result #{e.index}: {e.error}"
    s!"Validation issues: {r.validCount} valid, {r.invalidCount} invalid\nSample errors:\n" ++
      "\n".intercalate sample

end GateResult

namespace Screening

/-- What screening writes to the log: a line for each rejection, and a summary at the end. -/
def log (s : Screening) : List LogRecord :=
  s.result.rejections.map (fun r =>
    ⟨.info, .gate, s!"Rejected extraction result #{r.index}: {r.error}"⟩) ++
  match s.fault with
  | some _ => []
  | none =>
    [⟨.debug, .gate, s!"Gate partitioned {s.result.total} results: " ++
      s!"{s.result.validCount} valid, {s.result.invalidCount} invalid"⟩]

end Screening

end ExtractionSchema
