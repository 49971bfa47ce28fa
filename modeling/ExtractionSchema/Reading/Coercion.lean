import ExtractionSchema.Number.Text
import ExtractionSchema.Reading.Checked
import ExtractionSchema.Text.Blank
import ExtractionSchema.Value.Json.Reader

/-!
# Coercions

The readers of single fields. Bytes count as the text that they write. An integer is also read from a
truth value, from a floating-point number without fraction that fits into 64 bits, and from a text
that writes an integer; a truth value is also read from 0 and 1 and from a few words. `null` stands
for an optional field that is not there.
-/

namespace ExtractionSchema.Reading

/-! ## Digits with underscores -/

/-- The text without its underscores, provided that there are some and each stands between two
other characters. -/
def withoutUnderscores (cs : List Char) : Option (List Char) :=
  let doubled := (cs.zip cs.tail).any fun (c, d) => c = '_' && d = '_'
  if cs.head? = some '_' || cs.getLast? = some '_' || !cs.contains '_' || doubled then none
  else some (cs.filter (· ≠ '_'))

/-- The characters without zeros in front, where underscores may stand between the zeros: the last
zero stays before a point and at the end. What is left starts with a digit or a minus sign. -/
def withoutLeadingZeros : List Char → Option (List Char)
  | '0' :: rest => go '0' rest
  | c :: rest => if startsInteger c then some (c :: rest) else none
  | [] => none
where
  /-- Whether an integer may start with a character. -/
  startsInteger (c : Char) : Bool := c = '-' || ('1' ≤ c && c ≤ '9')
  /-- Skips zeros and underscores; `last` is the character before. -/
  go (last : Char) : List Char → Option (List Char)
    | [] => some [last]
    | c :: rest =>
      if c = '0' ∨ c = '_' then go c rest
      else if startsInteger c then some (c :: rest)
      else if c = '.' then some (last :: '.' :: rest)
      else none

/-- The characters before a point that one or more zeros follow; everything if there is none. -/
def withoutZeroFraction (cs : List Char) : List Char :=
  match cs.dropWhile (· ≠ '.') with
  | '.' :: zero :: zeros =>
    if (zero :: zeros).all (· = '0') then cs.takeWhile (· ≠ '.') else cs
  | _ => cs

/-- What a text says about an integer. -/
inductive IntText where
  | value (i : Int)
  | tooLong
  | other

/-- The integer that digits write after a sign or none, without a zero in front. Too many digits are
told apart, whatever follows them; a minus sign counts as one. -/
def plainDigits (negative : Bool) (digits : List Char) : IntText :=
  match digits with
  | ['0'] => .value 0
  | c :: _ =>
    let run := digits.takeWhile isDigit
    if c = '0' || run.isEmpty then .other
    else if digitLimit < run.length + (if negative then 1 else 0) then .tooLong
    else if run.length < digits.length then .other
    else
      let n : Int := digitsValue run
      .value (if negative then -n else n)
  | [] => .other

/-- The integer that characters write in its plain form: digits without a zero in front, perhaps
after a minus sign. -/
def plainInt : List Char → IntText
  | '-' :: rest => plainDigits true rest
  | cs => plainDigits false cs

/-- The plain form of an integer that is written with white space around it, a plus sign, zeros in
front, a fraction of zeros or underscores between digits. -/
def plainForm (cs : List Char) : Option (List Char) := do
  let cs ← match Text.trimChars Text.isWhiteSpace cs with
    | '+' :: '-' :: _ => none
    | '+' :: rest => some rest
    | cs => some cs
  let cs := withoutZeroFraction (← withoutLeadingZeros cs)
  return (withoutUnderscores cs).getD cs

/-- The integer that a text writes, in its plain form or in another one. -/
def intOfText (s : String) : IntText :=
  match plainInt s.toList with
  | .other =>
    match (plainForm s.toList).map plainInt with
    | some (.value i) => .value i
    | _ => .other
  | result => result

/-! ## Floating-point texts -/

/-- The number that a text writes, with white space around it or underscores between characters. -/
def floatOfText (s : String) : Option Floating :=
  match floatOfChars (Text.trimChars Text.isWhiteSpace s.toList) with
  | some x => some x
  | none => (withoutUnderscores s.toList).bind floatOfChars

/-! ## Readers -/

/-- The text that bytes write in UTF-8. -/
def textOfBytes (content : List UInt8) : Option String := String.fromUTF8? ⟨content.toArray⟩

/-- Reads a text, which may stand there as bytes. -/
def text : Value → Checked String
  | .string s => .ok s
  | .foreign (.bytes content) =>
    match textOfBytes content with
    | some s => .ok s
    | none => .fail .stringUnicode (.foreign (.bytes content))
  | v => .fail .stringType v

/-- What a value says by its text, if it has one: `read` reads the text, and bytes that write none
say nothing. -/
def saidByText {α : Type} (read : String → Option α) : Value → Option (Option α)
  | .string s => some (read s)
  | .foreign (.bytes content) => some ((textOfBytes content).bind read)
  | _ => none

/-- The integer that a floating-point number is, if it fits into 64 bits. -/
def intOfFloating (x : Floating) : Except FaultCause Int :=
  match x with
  | .nan _ | .infinity _ => .error .finiteNumber
  | x =>
    match x.toInt? with
    | none => .error .intFromFloat
    | some i => if i.natAbs < 1 <<< 63 then .ok i else .error .intParsingSize

/-- Reads an integer. -/
def integer (v : Value) : Checked Int :=
  match v with
  | .number (.int i) => .ok i
  | .bool b => .ok (if b then 1 else 0)
  | .number (.float x) =>
    match intOfFloating x with
    | .ok i => .ok i
    | .error cause => .fail cause v
  | v =>
    match saidByText (fun s => some (intOfText s)) v with
    | some (some (.value i)) => .ok i
    | some (some .tooLong) => .fail .intParsingSize v
    | some _ => .fail .intParsing v
    | none => .fail .intType v

/-- Reads an integer that is not below a bound. -/
def integerFrom (least : Nat) (v : Value) : Checked { n : Nat // least ≤ n } :=
  (integer v).andThen fun i =>
    if h : (least : Int) ≤ i then .ok ⟨i.toNat, by omega⟩ else .fail (.atLeast least) v

/-- Reads an integer or, failing that, a floating-point number. -/
def number (v : Value) : Checked Number :=
  match v with
  | .number n => .ok n
  | v =>
    match integer v with
    | .ok i => .ok (.int i)
    | .faulty faults =>
      let asFloat : Checked Floating := match saidByText floatOfText v with
        | some (some x) => .ok x
        | some none => .fail .floatParsing v
        | none => .fail .floatType v
      match asFloat with
      | .ok x => .ok (.float x)
      | .faulty more =>
        .faulty (faults.map (Fault.under (.name "int")) ++ more.map (Fault.under (.name "float")))

/-- The words for a truth value, in lower case. -/
def flagOfWord (word : String) : Option Bool :=
  if ["0", "f", "n", "no", "off", "false"].contains word then some false
  else if ["1", "t", "y", "on", "yes", "true"].contains word then some true
  else none

/-- Reads a truth value. -/
def flag (v : Value) : Checked Bool :=
  let ofInt (i : Int) : Checked Bool :=
    if i = 0 then .ok false else if i = 1 then .ok true else .fail .boolParsing v
  match v with
  | .bool b => .ok b
  | .number (.int i) =>
    if Int64.minValue.toInt ≤ i ∧ i ≤ Int64.maxValue.toInt then ofInt i else .fail .boolType v
  | .number (.float x) =>
    match intOfFloating x with
    | .ok i => ofInt i
    | .error _ => .fail .boolType v
  | v =>
    match saidByText (fun s => flagOfWord (s.map Char.toLower)) v with
    | some (some b) => .ok b
    | some none => .fail .boolParsing v
    | none => .fail .boolType v

/-- Reads a list whose items are read by `read`. A set or a pair counts as the list of what it
holds. -/
def list {α : Type} (read : Value → Checked α) : Value → Checked (List α)
  | .list items => .each read items
  | .set members => .each read (members.map Key.value)
  | .pair first second => .each read [first, second]
  | v => .fail .listType v

/-- Reads one of some choices. -/
def choice {α : Type} (choices : List (String × α)) (v : Value) : Checked α :=
  match (saidByText (fun s => choices.lookup s) v).join with
  | some a => .ok a
  | none => .fail (.choice (choices.map (·.1))) v

/-- Reads an optional field: `null` stands for no value. -/
def optional {α : Type} (read : Value → Checked α) : Value → Checked (Option α)
  | .null => .ok none
  | v => some <$> read v

/-! ## Fields -/

/-- The first of some names that is there, and its value. -/
def find (entries : Value.Entries) (names : List String) : Option (String × Value) :=
  names.findSome? fun name => (Value.lookup (.name name) entries).map fun v => (name, v)

/-- Reads a field that goes by some names; a field that is not there takes the default. -/
def field {α : Type} (names : List String) (default : α) (read : Value → Checked α)
    (entries : Value.Entries) : Checked α :=
  match find entries names with
  | some (name, v) => (read v).under (.name name)
  | none => .ok default

/-- Reads a field that must be there. -/
def required {α : Type} (name : String) (read : Value → Checked α) (entries : Value.Entries) :
    Checked α :=
  match Value.lookup (.name name) entries with
  | some v => (read v).under (.name name)
  | none => .faulty [⟨[.name name], .missing, .object entries⟩]

/-- Reads the entries of a record of the model. -/
def entriesOf (model : String) : Value → Checked Value.Entries
  | .object entries => .ok entries
  | v => .fail (.modelType model) v

end ExtractionSchema.Reading
