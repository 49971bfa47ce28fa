import ExtractionSchema.Contract.Violation
import ExtractionSchema.Record.Contract
import ExtractionSchema.Text.Infix

/-!
# Validation of records

A record is validated against the contract of a schema. Every violation becomes a `Mismatch` with
the path of the field, and the mismatches come in the order of their paths and messages. A missing
field is reported at its own path.

* `validate` gives the mismatches of a record.
-/

namespace ExtractionSchema

/-- A place where a record and its schema do not agree. -/
structure Mismatch where
  path : String
  message : String
  expected : String
  actual : Value
deriving DecidableEq

namespace Mismatch

/-- The written form of a mismatch. -/
def text (m : Mismatch) : String :=
  if m.path = "" then m.message else m.path ++ ": " ++ m.message

/-- Whether a mismatch comes no later than another one: by path, then by message. -/
def comesBefore (m n : Mismatch) : Bool :=
  if m.path = n.path then !decide (n.message < m.message) else decide (m.path < n.path)

end Mismatch

/-- The missing name that a message tells of: the first required name that the record lacks and
whose quoted form occurs in the message. -/
def namedMissing (required : List String) (actual : Value) (message : String) : Option String :=
  required.find? fun name =>
    (actual.get? name).isNone && Text.isWithin (Text.quoted name) message

/-- The mismatch that a violation is. -/
def Violation.mismatch (v : Violation) : Mismatch :=
  match v.breach with
  | .missing _ required =>
    let name := namedMissing required v.actual v.message
    ⟨formatPath (v.location ++ (name.map Step.name).toList), v.message, "required", .null⟩
  | breach =>
    ⟨formatPath v.location, v.message, breach.keyword ++ ": " ++ breach.operand.plain, v.actual⟩

/-- The mismatches of a record, in order. -/
def validate (c : Contract) (record : Value) : List Mismatch :=
  ((c.violations record).map Violation.mismatch).mergeSort Mismatch.comesBefore

/-- The first mismatch of a record. -/
def firstMismatch (c : Contract) (record : Value) : Option Mismatch := (validate c record).head?

end ExtractionSchema
