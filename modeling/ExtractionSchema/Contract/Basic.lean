import ExtractionSchema.Value.Equality
import ExtractionSchema.Value.Json.Printer

/-!
# Contracts

A contract says which values are accepted, as a list of rules that are checked in their order. It is
the part of the JSON Schema language that author schemas and extraction results are checked with,
as a type: every rule has the operands it needs, and a contract is written as a JSON Schema object
by `Contract.toValue`.
-/

namespace ExtractionSchema

/-- The kinds of values that a rule can ask for. Integers are numbers without a fraction. -/
inductive Kind where
  | null
  | boolean
  | integer
  | number
  | string
  | array
  | object
deriving DecidableEq

namespace Kind

/-- The name of a kind. -/
def name : Kind → String
  | .null => "null"
  | .boolean => "boolean"
  | .integer => "integer"
  | .number => "number"
  | .string => "string"
  | .array => "array"
  | .object => "object"

/-- Whether a value is of a kind. -/
def admits : Kind → Value → Bool
  | .null, .null => true
  | .boolean, .bool _ => true
  | .integer, .number n => n.isIntegral
  | .number, .number _ => true
  | .string, .string _ => true
  | .array, .list _ => true
  | .object, .object _ => true
  | _, _ => false

end Kind

mutual

/-- A conjunction of rules. -/
inductive Contract where
  | rules (rs : List Rule)

/-- A rule for values. Rules on the parts or the size of a kind of value hold for every value of
another kind.

* `kinds` asks for one of some kinds, and `enum` for one of some values;
* `fields` gives contracts to named entries of an object, `everyField` one to all entries,
  `required` asks for entries, and `closed` admits only the declared ones;
* `items` gives a contract to the items of a list;
* `date` asks that a text be a date, `minLength` and `maxLength` bound its length;
* `minimum` and `maximum` bound a number. -/
inductive Rule where
  | kinds (ks : List Kind)
  | enum (allowed : List Value)
  | fields (children : List (String × Contract))
  | everyField (c : Contract)
  | required (names : List String)
  | closed (declared : List String)
  | items (c : Contract)
  | date
  | minLength (n : Int)
  | maxLength (n : Int)
  | minimum (n : Number)
  | maximum (n : Number)

end

namespace Contract

instance : Inhabited Contract := ⟨.rules []⟩

end Contract

/-! ## Dates -/

/-- The pattern of dates: ten characters, digits with hyphens at two places. -/
def datePattern : String := "^[0-9]\x7b4\x7d-[0-9]\x7b2\x7d-[0-9]\x7b2\x7d\\Z"

/-- Whether a character is one of the ten ASCII digits. -/
def isAsciiDigit (c : Char) : Bool := '0' ≤ c && c ≤ '9'

/-- Whether characters are a date: four digits, a hyphen, two digits, a hyphen, two digits. -/
def isDateChars : List Char → Bool
  | [a, b, c, d, h, e, f, h', g, k] =>
    [a, b, c, d, e, f, g, k].all isAsciiDigit && h = '-' && h' = '-'
  | _ => false

/-- Whether a text is a date in form. -/
def isDateText (s : String) : Bool := isDateChars s.toList

/-! ## Written form -/

namespace Rule

/-- The keyword under which a rule is written. -/
def keyword : Rule → String
  | .kinds _ => "type"
  | .enum _ => "enum"
  | .fields _ => "properties"
  | .everyField _ => "additionalProperties"
  | .required _ => "required"
  | .closed _ => "additionalProperties"
  | .items _ => "items"
  | .date => "pattern"
  | .minLength _ => "minLength"
  | .maxLength _ => "maxLength"
  | .minimum _ => "minimum"
  | .maximum _ => "maximum"

/-- The written form of kinds: one by its name, several as a list. -/
def kindsValue : List Kind → Value
  | [k] => .string k.name
  | ks => .strings (ks.map Kind.name)

end Rule

mutual

/-- The written form of a contract. -/
def Contract.toValue : Contract → Value
  | .rules rs => .record (ruleFields rs)

/-- The written form of the operand of a rule. -/
def Rule.operand : Rule → Value
  | .kinds ks => Rule.kindsValue ks
  | .enum allowed => .list allowed
  | .fields children => .record (contractFields children)
  | .everyField c => c.toValue
  | .required names => .strings names
  | .closed _ => .bool false
  | .items c => c.toValue
  | .date => .string datePattern
  | .minLength n => .int n
  | .maxLength n => .int n
  | .minimum n => .number n
  | .maximum n => .number n

/-- The written forms of rules. -/
def ruleFields : List Rule → List (String × Value)
  | [] => []
  | r :: rs => (r.keyword, r.operand) :: ruleFields rs

/-- The written forms of the contracts of entries. -/
def contractFields : List (String × Contract) → List (String × Value)
  | [] => []
  | (name, c) :: rest => (name, c.toValue) :: contractFields rest

end

end ExtractionSchema
