import ExtractionSchema.Number.Shortest
import ExtractionSchema.Text.Quoted
import ExtractionSchema.Value.Basic

/-!
# Values in messages

Messages show values as literals: texts in quotes, `None`, `True` and `False`, lists in brackets,
pairs in parentheses and objects in braces, on one line. Three points stand for a value within
itself. Where a message embeds a value without quoting it, a text
stands for itself and a date or moment is shown plainly; everything else is shown as its literal.
-/

namespace ExtractionSchema

/-! ## Classes -/

/-- The name of a value's class in messages. -/
def Value.className : Value → String
  | .null => "NoneType"
  | .bool _ => "bool"
  | .number (.int _) => "int"
  | .number (.float _) => "float"
  | .string _ => "str"
  | .list _ => "list"
  | .object _ => "dict"
  | .foreign (.date _) => "date"
  | .foreign (.moment _) => "datetime"
  | .foreign (.bytes _) => "bytes"
  | .set _ => "set"
  | .pair _ _ => "tuple"
  | .enclosing isList => if isList then "list" else "dict"

/-! ## Limits -/

/-- The most digits of an integer that is written or read as text. -/
def digitLimit : Nat := 4300

/-- Whether an integer has more digits than are written as text. -/
def hasTooManyDigits (i : Int) : Bool :=
  let n := i.natAbs
  13000 < n.log2 && Nat.pow 10 digitLimit ≤ n

/-- One digit more than the limit is too many. -/
theorem hasTooManyDigits_ten_pow : hasTooManyDigits (Nat.pow 10 digitLimit) = true := by
  decide +kernel

/-- Whether a number has a literal. -/
def Number.isShowable : Number → Bool
  | .int i => !hasTooManyDigits i
  | .float _ => true

/-- Whether a key has a literal. -/
def Key.isShowable : Key → Bool
  | .number n => n.isShowable
  | _ => true

mutual

/-- Whether a value has a literal: no integer within it has too many digits. -/
def Value.isShowable : Value → Bool
  | .number n => n.isShowable
  | .list items => Value.areShowable items
  | .object entries => Value.areShowableEntries entries
  | .set members => members.all Key.isShowable
  | .pair first second => first.isShowable && second.isShowable
  | _ => true

/-- Whether values have literals. -/
def Value.areShowable : List Value → Bool
  | [] => true
  | v :: vs => v.isShowable && Value.areShowable vs

/-- Whether keys and values have literals. -/
def Value.areShowableEntries : List (Key × Value) → Bool
  | [] => true
  | (k, v) :: es => k.isShowable && v.isShowable && Value.areShowableEntries es

end

/-! ## Literals -/

/-- The words of floating-point literals. -/
def Floating.literalWords : SpecialWords := ⟨"nan", "inf"⟩

/-- The literal of a number. -/
def Number.literal : Number → String
  | .int i => toString i
  | .float x => x.text Floating.literalWords

/-- The literal of a truth value. -/
def boolLiteral (b : Bool) : String := if b then "True" else "False"

/-- Arguments of a call, with commas between them. -/
def callText (name : String) (arguments : List String) : String :=
  name ++ "(" ++ ", ".intercalate arguments ++ ")"

/-- The literal of a duration other than none. Negative durations are counted from the day before. -/
def durationLiteral (minutes : Int) : String :=
  let seconds := minutes * 60
  let days := seconds.fdiv 86400
  let rest := seconds.fmod 86400
  let parts := (if days = 0 then [] else [s!"days={days}"]) ++
    (if rest = 0 then [] else [s!"seconds={rest}"])
  callText "datetime.timedelta" parts

/-- The literal of an offset from universal time. -/
def offsetLiteral (minutes : Int) : String :=
  if minutes = 0 then "datetime.timezone.utc"
  else callText "datetime.timezone" [durationLiteral minutes]

/-- The literal of a moment. Seconds are left out when they and the microseconds are zero. -/
def Moment.literal (t : Moment) : String :=
  let clock :=
    if t.microsecond ≠ 0 then [t.hour, t.minute, t.second, t.microsecond]
    else if t.second ≠ 0 then [t.hour, t.minute, t.second]
    else [t.hour, t.minute]
  let fields := ([t.date.year, t.date.month, t.date.day] ++ clock).map toString
  let zone := match t.offset with
    | none => []
    | some minutes => ["tzinfo=" ++ offsetLiteral minutes]
  callText "datetime.datetime" (fields ++ zone)

namespace Foreign

/-- The literal of a value that only YAML can write. -/
def literal : Foreign → String
  | .date d => callText "datetime.date" ([d.year, d.month, d.day].map toString)
  | .moment t => t.literal
  | .bytes content => Text.quotedBytes content

/-- The value as a message embeds it. -/
def plain : Foreign → String
  | .date d => d.text
  | .moment t => t.text " "
  | .bytes content => Text.quotedBytes content

end Foreign

namespace Key

/-- The literal of a key. -/
def literal : Key → String
  | .name s => Text.quoted s
  | .null => "None"
  | .bool b => boolLiteral b
  | .number n => n.literal
  | .foreign x => x.literal

/-- The key as a message embeds it. -/
def plain : Key → String
  | .name s => s
  | .foreign x => x.plain
  | k => k.literal

end Key

namespace Value

mutual

/-- The literal of a value. -/
def literal : Value → String
  | .null => "None"
  | .bool b => boolLiteral b
  | .number n => n.literal
  | .string s => Text.quoted s
  | .list items => "[" ++ ", ".intercalate (literals items) ++ "]"
  | .object entries => "\x7b" ++ ", ".intercalate (entryLiterals entries) ++ "\x7d"
  | .foreign x => x.literal
  | .set [] => "set()"
  | .set members => "\x7b" ++ ", ".intercalate (members.map Key.literal) ++ "\x7d"
  | .pair first second => "(" ++ first.literal ++ ", " ++ second.literal ++ ")"
  | .enclosing isList => if isList then "[...]" else "\x7b...\x7d"

/-- The literals of the values of a list. -/
def literals : List Value → List String
  | [] => []
  | v :: vs => v.literal :: literals vs

/-- The literals of entries. -/
def entryLiterals : List (Key × Value) → List String
  | [] => []
  | (k, v) :: es => (k.literal ++ ": " ++ v.literal) :: entryLiterals es

end

/-- The value as a message embeds it. -/
def plain : Value → String
  | .string s => s
  | .foreign x => x.plain
  | v => v.literal

end Value

end ExtractionSchema
