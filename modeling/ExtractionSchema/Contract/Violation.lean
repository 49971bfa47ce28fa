import ExtractionSchema.Contract.Basic
import ExtractionSchema.Location

/-!
# Violations of contracts

Checking a value against a contract gives every violation: where it is, which rule is broken, and
the value found there. The order is that of the rules, and within a rule that of its operands or
of the value's parts.

* `Contract.violations` gives the violations of a value.
* `Contract.accepts` decides whether there are none.
-/

namespace ExtractionSchema

/-- What breaks a rule. -/
inductive Breach where
  | kind (expected : List Kind)
  | notAllowed (allowed : List Value)
  | missing (name : String) (required : List String)
  | unexpected (keys : List Key)
  | notADate
  | tooShort (least : Int)
  | tooLong (most : Int)
  | below (least : Number)
  | above (most : Number)
deriving DecidableEq

/-- A broken rule, where it was broken and by which value. -/
structure Violation where
  location : List Step
  breach : Breach
  actual : Value
deriving DecidableEq

namespace Breach

/-- The keyword of the broken rule. -/
def keyword : Breach → String
  | .kind _ => "type"
  | .notAllowed _ => "enum"
  | .missing _ _ => "required"
  | .unexpected _ => "additionalProperties"
  | .notADate => "pattern"
  | .tooShort _ => "minLength"
  | .tooLong _ => "maxLength"
  | .below _ => "minimum"
  | .above _ => "maximum"

/-- The operand of the broken rule. -/
def operand : Breach → Value
  | .kind expected => Rule.kindsValue expected
  | .notAllowed allowed => .list allowed
  | .missing _ required => .strings required
  | .unexpected _ => .bool false
  | .notADate => .string datePattern
  | .tooShort least => .int least
  | .tooLong most => .int most
  | .below least => .number least
  | .above most => .number most

/-- Keys in the order of their texts. -/
def sortedKeys (keys : List Key) : List Key :=
  keys.mergeSort fun k k' => !decide (k'.plain < k.plain)

/-- What a message says about a value that breaks a rule. -/
def message (actual : Value) : Breach → String
  | .kind expected =>
    actual.literal ++ " is not of type " ++
      ", ".intercalate (expected.map fun k => Text.quoted k.name)
  | .notAllowed allowed =>
    actual.literal ++ " is not one of " ++ (Value.list allowed).literal
  | .missing name _ => Text.quoted name ++ " is a required property"
  | .unexpected keys =>
    "Additional properties are not allowed (" ++
      ", ".intercalate ((sortedKeys keys).map Key.literal) ++
      (if keys.length = 1 then " was" else " were") ++ " unexpected)"
  | .notADate => actual.literal ++ " does not match " ++ Text.quoted datePattern
  | .tooShort least =>
    actual.literal ++ (if least = 1 then " should be non-empty" else " is too short")
  | .tooLong most =>
    actual.literal ++ (if most = 0 then " is expected to be empty" else " is too long")
  | .below least => actual.literal ++ " is less than the minimum of " ++ least.literal
  | .above most => actual.literal ++ " is greater than the maximum of " ++ most.literal

end Breach

namespace Violation

/-- The message about a violation. -/
def message (v : Violation) : String := v.breach.message v.actual

/-- The violation seen from outside: one step further away. -/
def under (step : Step) (v : Violation) : Violation := { v with location := step :: v.location }

/-- Whether the location and the message can be written, with the operand of the broken rule: they
show no integer of too many digits. -/
def isShowable (v : Violation) : Bool :=
  let shown := match v.breach with
    | .missing _ _ => true
    | .unexpected keys => keys.all Key.isShowable
    | _ => v.actual.isShowable
  shown && v.breach.operand.isShowable && v.location.all Step.isShowable

end Violation

/-! ## Checking -/

/-- One violation at the value itself, unless a condition holds. -/
def violationUnless (holds : Bool) (breach : Breach) (v : Value) : List Violation :=
  if holds then [] else [⟨[], breach, v⟩]

/-- The keys of an object that are not declared. -/
def undeclared (declared : List String) (entries : Value.Entries) : List Key :=
  (entries.map (·.1)).filter fun k => !(declared.map Key.name).contains k

namespace Rule

/-- The violations of a rule that looks at the value as a whole. -/
def violationsOfWhole (v : Value) : Rule → List Violation
  | .kinds ks => violationUnless (ks.any fun k => k.admits v) (.kind ks) v
  | .enum allowed => violationUnless (allowed.any fun w => w.equals v) (.notAllowed allowed) v
  | .required names =>
    match v with
    | .object entries =>
      (names.filter fun name => !Value.has entries name).map fun name =>
        ⟨[], .missing name names, v⟩
    | _ => []
  | .closed declared =>
    match v with
    | .object entries =>
      let keys := undeclared declared entries
      violationUnless keys.isEmpty (.unexpected keys) v
    | _ => []
  | .date =>
    match v with
    | .string s => violationUnless (isDateText s) .notADate v
    | _ => []
  | .minLength n =>
    match v with
    | .string s => violationUnless (n ≤ s.length) (.tooShort n) v
    | _ => []
  | .maxLength n =>
    match v with
    | .string s => violationUnless (s.length ≤ n) (.tooLong n) v
    | _ => []
  | .minimum n =>
    match v with
    | .number m => violationUnless (!m.lt n) (.below n) v
    | _ => []
  | .maximum n =>
    match v with
    | .number m => violationUnless (!n.lt m) (.above n) v
    | _ => []
  | .fields _ | .everyField _ | .items _ => []

end Rule

/-- The violations of the items of a list, each with its index. -/
def violationsOfItems (check : Value → List Violation) : Nat → List Value → List Violation
  | _, [] => []
  | i, v :: vs => (check v).map (Violation.under (.item i)) ++ violationsOfItems check (i + 1) vs

/-- The violations of the entries of an object, each with its key. -/
def violationsOfEntries (check : Value → List Violation) : Value.Entries → List Violation
  | [] => []
  | (k, v) :: es => (check v).map (Violation.under (.ofKey k)) ++ violationsOfEntries check es

mutual

/-- The violations of a contract, rule by rule. -/
def Contract.violations : Contract → Value → List Violation
  | .rules rs, v => violationsOfRules rs v

/-- The violations of rules. -/
def violationsOfRules : List Rule → Value → List Violation
  | [], _ => []
  | r :: rs, v => r.violations v ++ violationsOfRules rs v

/-- The violations of a rule. -/
def Rule.violations : Rule → Value → List Violation
  | .fields children, v =>
    match v with
    | .object entries => violationsOfChildren children entries
    | _ => []
  | .everyField c, v =>
    match v with
    | .object entries => violationsOfEntries c.violations entries
    | _ => []
  | .items c, v =>
    match v with
    | .list items => violationsOfItems c.violations 0 items
    | _ => []
  | r, v => r.violationsOfWhole v

/-- The violations of declared entries that are there, in the order of their declarations. -/
def violationsOfChildren : List (String × Contract) → Value.Entries → List Violation
  | [], _ => []
  | (name, c) :: rest, entries =>
    (match Value.lookup (.name name) entries with
      | some v => (c.violations v).map (Violation.under (.name name))
      | none => []) ++ violationsOfChildren rest entries

end

/-- What stands in the way of telling the violations of a value, if anything. -/
def Contract.obstacle (c : Contract) (v : Value) : Option Obstacle :=
  if (c.violations v).all Violation.isShowable then none else some .digits

/-- Whether a value has no violations. -/
def Contract.accepts (c : Contract) (v : Value) : Bool := (c.violations v).isEmpty

end ExtractionSchema
