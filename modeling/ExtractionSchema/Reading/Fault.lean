import ExtractionSchema.Location

/-!
# Faults of a reading

Records such as properties, wire nodes and settings are read from documents field by field. A field
that does not fit gives a `Fault`: where it stands, what is wrong and the value that was found. All
faults of a record are reported together, as a `Refusal` of the record's model.

* `Refusal.report` is the text of a refusal, one paragraph a fault.
-/

namespace ExtractionSchema

/-- What is wrong with a field. -/
inductive FaultCause where
  | missing
  | stringType
  | stringUnicode
  | stringTooShort (least : Nat)
  | intType
  | intParsing
  | intParsingSize
  | intFromFloat
  | finiteNumber
  | floatType
  | floatParsing
  | boolType
  | boolParsing
  | listType
  | dictType
  | modelType (model : String)
  | choice (choices : List String)
  | atLeast (least : Int)
  | rule (message : String)
deriving DecidableEq

/-- Choices as a message lists them. -/
def choicesText : List String → String
  | [] => ""
  | [c] => c
  | [c, d] => c ++ " or " ++ d
  | c :: cs => c ++ ", " ++ choicesText cs

namespace FaultCause

/-- The code of a cause. -/
def code : FaultCause → String
  | .missing => "missing"
  | .stringType => "string_type"
  | .stringUnicode => "string_unicode"
  | .stringTooShort _ => "string_too_short"
  | .intType => "int_type"
  | .intParsing => "int_parsing"
  | .intParsingSize => "int_parsing_size"
  | .intFromFloat => "int_from_float"
  | .finiteNumber => "finite_number"
  | .floatType => "float_type"
  | .floatParsing => "float_parsing"
  | .boolType => "bool_type"
  | .boolParsing => "bool_parsing"
  | .listType => "list_type"
  | .dictType => "dict_type"
  | .modelType _ => "model_type"
  | .choice _ => "enum"
  | .atLeast _ => "greater_than_equal"
  | .rule _ => "value_error"

/-- The sentence that tells the cause. -/
def message : FaultCause → String
  | .missing => "Field required"
  | .stringType => "Input should be a valid string"
  | .stringUnicode =>
    "Input should be a valid string, unable to parse raw data as a unicode string"
  | .stringTooShort least =>
    s!"String should have at least {least} character" ++ (if least = 1 then "" else "s")
  | .intType => "Input should be a valid integer"
  | .intParsing => "Input should be a valid integer, unable to parse string as an integer"
  | .intParsingSize => "Unable to parse input string as an integer, exceeded maximum size"
  | .intFromFloat => "Input should be a valid integer, got a number with a fractional part"
  | .finiteNumber => "Input should be a finite number"
  | .floatType => "Input should be a valid number"
  | .floatParsing => "Input should be a valid number, unable to parse string as a number"
  | .boolType => "Input should be a valid boolean"
  | .boolParsing => "Input should be a valid boolean, unable to interpret input"
  | .listType => "Input should be a valid list"
  | .dictType => "Input should be a valid dictionary"
  | .modelType model => s!"Input should be a valid dictionary or instance of {model}"
  | .choice choices => "Input should be " ++ choicesText (choices.map Text.quoted)
  | .atLeast least => s!"Input should be greater than or equal to {least}"
  | .rule message => "Value error, " ++ message

end FaultCause

/-- A field that does not fit: where it stands, what is wrong, and what was found. -/
structure Fault where
  location : List Step
  cause : FaultCause
  input : Value

/-- The fault seen from outside: one step further away. -/
def Fault.under (step : Step) (f : Fault) : Fault := { f with location := step :: f.location }

/-- A record that was not read, with all its faults. -/
structure Refusal where
  model : String
  faults : List Fault

/-! ## Reports -/

/-- Characters from the start that fit into so many bytes of UTF-8. -/
def takeBytes : (budget : Nat) → List Char → List Char
  | _, [] => []
  | budget, c :: cs =>
    if c.utf8Size ≤ budget then c :: takeBytes (budget - c.utf8Size) cs else []

/-- A text of more than 50 bytes is shown by its ends: at most 25 bytes of its start, and at most
24 of its end. -/
def excerpt (s : String) : String :=
  if s.utf8ByteSize ≤ 50 then s
  else
    String.ofList (takeBytes 25 s.toList) ++ "..." ++
      String.ofList (takeBytes 24 s.toList.reverse).reverse

/-- The site that explains the codes of causes. -/
def helpSite : String := "//errors.pydantic.dev/2.14/v/"

/-- A step in a report: a name with a point in it stands between backquotes. -/
def Step.reportText : Step → String
  | .name s => if s.toList.contains '.' then "\x60" ++ s ++ "\x60" else s
  | step => step.text

/-- The literal of a value, or its class if it has none. -/
def Value.shownLiteral (v : Value) : String :=
  if v.isShowable then v.literal else s!"<unprintable {v.className} object>"

/-- How a report shows the value that was found. -/
def Value.reportText (v : Value) : String := excerpt v.shownLiteral

/-- The paragraph of a fault. -/
def Fault.report (f : Fault) : String :=
  let place :=
    if f.location.isEmpty then ""
    else ".".intercalate (f.location.map Step.reportText) ++ "\n"
  place ++ "  " ++ f.cause.message ++ " [type=" ++ f.cause.code ++ ", input_value=" ++
    f.input.reportText ++ ", input_type=" ++ f.input.className ++
    "]\n    For further information visit https:" ++ helpSite ++ f.cause.code

/-- The text of a refusal. -/
def Refusal.report (r : Refusal) : String :=
  let count := r.faults.length
  s!"{count} validation error" ++ (if count = 1 then "" else "s") ++ s!" for {r.model}\n" ++
    "\n".intercalate (r.faults.map Fault.report)

end ExtractionSchema
