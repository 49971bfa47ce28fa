import ExtractionSchema.Text.Quoted
import ExtractionSchema.Value.Json.Reader

/-!
# Faults of YAML texts

A text is refused because it is not well-formed, or because it is, and one of its scalars names a
value that does not exist: a 13th month, an integer of letters.
-/

namespace ExtractionSchema.Yaml

/-- Why a scalar of a well-formed text has no value. -/
inductive NoValue where
  /-- An escape names a number past the last code point. -/
  | codePoint
  /-- An escape names a number that does not fit into 31 bits. -/
  | wideCodePoint
  /-- A text in lower case is no word for a truth value. -/
  | word (text : String)
  /-- A number has no characters. -/
  | empty
  /-- No integer of the base is written so. -/
  | integer (base : Nat) (text : String)
  /-- An integer has more digits than are read. -/
  | digits (count : Nat)
  /-- No floating-point number is written so. -/
  | float (text : String)
  /-- A floating-point number has a digit of base 60 at a place beyond the largest number. -/
  | floatPlace
  /-- No date and no moment is written so. -/
  | moment
  /-- A date or a moment is written as a mapping. -/
  | momentOfMapping
  /-- An offset from universal time is a day or more. -/
  | offset (minutes : Int)
  /-- A field of a date or a clock time is out of range. -/
  | range (problem : String)
deriving DecidableEq

/-- Why a YAML text is not read. -/
inductive Fault where
  | invalid
  | noValue (reason : NoValue)
deriving DecidableEq

/-- What is said about a scalar without a value. The text of an integer is shown up to a limit. -/
def NoValue.message : NoValue → String
  | .codePoint => "chr() arg not in range(0x110000)"
  | .wideCodePoint => "Python int too large to convert to C int"
  | .word text => Text.quoted text
  | .empty => "string index out of range"
  | .integer base text =>
    s!"invalid literal for int() with base {base}: " ++
      String.ofList ((Text.quoted text).toList.take 200)
  | .digits count => (Json.Error.digits count).message
  | .float text => s!"could not convert string to float: {Text.quoted text}"
  | .floatPlace => "int too large to convert to float"
  | .moment => "'NoneType' object has no attribute 'groupdict'"
  | .momentOfMapping => "expected string or bytes-like object, got 'list'"
  | .offset minutes =>
    "offset must be a timedelta strictly between -timedelta(hours=24) and timedelta(hours=24), " ++
      s!"not {durationLiteral minutes}."
  | .range problem => problem

/-- What is said about a text that is not read. -/
def Fault.message : Fault → String
  | .invalid => "Invalid YAML"
  | .noValue reason => reason.message

end ExtractionSchema.Yaml
