import ExtractionSchema.Contract.Basic
import ExtractionSchema.Wire.Node

/-!
# The contract of a wire tree

A wire tree becomes the contract that records are checked with. Objects and arrays ask for their
kind and for that of their parts, primitives for their kind, the form of a date and their bounds,
and nodes of unknown types for nothing. A field that is not required also admits `null`; so does
its list of allowed values.

* `Wire.Tree.contract` is the contract of a tree.
-/

namespace ExtractionSchema.Wire

/-- The kind that a primitive node asks for. -/
def Primitive.kind : Primitive → Kind
  | .string => .string
  | .number => .number
  | .integer => .integer
  | .boolean => .boolean

/-- The rule on kinds, where a field that is not required admits `null`. -/
def kindRule (kind : Kind) (nullable : Bool) : Rule :=
  .kinds (if nullable then [kind, .null] else [kind])

/-- The rule on allowed values, if a node states some. -/
def enumRule (about : Presentation) (nullable : Bool) : List Rule :=
  match about.enum with
  | some allowed => [.enum (if nullable then allowed ++ [.null] else allowed)]
  | none => []

/-- A rule for a bound, if there is one. -/
def boundRule {α : Type} (rule : α → Rule) : Option α → List Rule
  | some a => [rule a]
  | none => []

/-- The rules on the form and size of a primitive. -/
def boundRules (kind : Primitive) (bounds : Bounds) : List Rule :=
  match kind with
  | .string =>
    (if bounds.format = some dateFormat then [.date] else []) ++
      boundRule .minLength bounds.minLength ++ boundRule .maxLength bounds.maxLength
  | .number | .integer =>
    boundRule .minimum bounds.minimum ++ boundRule .maximum bounds.maximum
  | .boolean => []

/-- The rules on the entries of an object apart from their contracts. -/
def entryRules (names required : List String) (additional : Option Bool) : List Rule :=
  (if required.isEmpty then [] else [.required required]) ++
    (if additional = some false then [.closed names] else [])

mutual

/-- The contract of a node. -/
def Node.contract (nullable : Bool) : Node → Contract
  | .primitive about kind bounds =>
    .rules (kindRule kind.kind nullable :: boundRules kind bounds ++ enumRule about nullable)
  | .array about items =>
    .rules ([kindRule .array nullable, .items (items.contract false)] ++ enumRule about nullable)
  | .object about properties required additional =>
    .rules ([kindRule .object nullable, .fields (childContracts required properties)] ++
      entryRules (properties.map (·.1)) required additional ++ enumRule about nullable)
  | .unknown _ _ _ => .rules []

/-- The contracts of children: those that are not required admit `null`. -/
def childContracts (required : List String) : List (String × Node) → List (String × Contract)
  | [] => []
  | (name, node) :: rest =>
    (name, node.contract (!required.contains name)) :: childContracts required rest

end

theorem childContracts_eq_map (required : List String) (kids : Properties) :
    childContracts required kids =
      kids.map fun kid => (kid.1, kid.2.contract (!required.contains kid.1)) := by
  induction kids with
  | nil => rfl
  | cons kid kids ih => rw [childContracts, ih, List.map_cons]

/-- The contract of a tree. -/
def Tree.contract (t : Tree) : Contract := t.root.contract false

end ExtractionSchema.Wire
