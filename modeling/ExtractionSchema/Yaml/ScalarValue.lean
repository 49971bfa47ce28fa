import ExtractionSchema.Number.Text
import ExtractionSchema.Text.Base64
import ExtractionSchema.Text.Blank
import ExtractionSchema.Text.Digits
import ExtractionSchema.Text.Lowercase
import ExtractionSchema.Yaml.Fault
import ExtractionSchema.Yaml.Tag

/-!
# Values of YAML scalars

The value that the text of a scalar writes, as its tag says: a word for a truth value, an integer of
base 2, 8, 10, 16 or 60, a floating-point number, a date or a moment, or bytes. Underscores in
numbers do not count, and decimal digits may be those of any script.

* `scalarValue` reads the value of a text.
-/

namespace ExtractionSchema.Yaml

/-! ## Integers -/

/-- The letter that may stand after a zero in front of the digits of a base. -/
def baseLetter : Nat → Option Char
  | 2 => some 'b'
  | 8 => some 'o'
  | 16 => some 'x'
  | _ => none

/-- The digits of a base without a zero and the letter of the base before them. -/
def withoutBase (base : Nat) : List Char → List Char
  | '0' :: c :: rest => if baseLetter base = some c.toLower then rest else '0' :: c :: rest
  | cs => cs

/-- The value of a digit of a base. -/
def digitOf (base : Nat) (c : Char) : Option Nat := (Json.hexValue c).filter (· < base)

/-- The integer that digits of a base write, with a sign and white space around allowed. -/
def digitsOf (base : Nat) (cs : List Char) : Except Fault Int :=
  let chars := Text.trimChars Text.isWhiteSpace (cs.map Text.asciiDigit)
  let (negative, rest) := splitSign chars
  let digits := withoutBase base rest
  let run := digits.takeWhile fun c => (digitOf base c).isSome
  if base = 10 && digitLimit < run.length then .error (.noValue (.digits run.length))
  else if run.isEmpty || run.length < digits.length then
    .error (.noValue (.integer base (String.ofList cs)))
  else
    let n : Int := run.foldl (fun n c => base * n + (digitOf base c).getD 0) 0
    .ok (if negative then -n else n)

/-- The parts of a text between colons. -/
def colonParts (cs : List Char) : List (List Char) := cs.splitOn ':'

/-- The text of a number without underscores; there must be some characters. -/
def numberChars (s : String) : Except Fault (List Char) :=
  match s.toList.filter (· ≠ '_') with
  | [] => .error (.noValue .empty)
  | cs => .ok cs

/-- The integer that a scalar writes. A leading `0b`, `0x` or `0` names the base, and colons separate
digits of base 60. -/
def intOf (s : String) : Except Fault Int := do
  let (negative, cs) := splitSign (← numberChars s)
  let n : Int ← match cs with
    | [] => throw (.noValue .empty)
    | ['0'] => pure 0
    | '0' :: 'b' :: rest => digitsOf 2 rest
    | '0' :: 'x' :: rest => digitsOf 16 rest
    | '0' :: rest => digitsOf 8 ('0' :: rest)
    | cs =>
      if cs.contains ':' then do
        let parts ← (colonParts cs).mapM (digitsOf 10)
        pure (parts.foldl (fun n d => 60 * n + d) 0)
      else digitsOf 10 cs
  return if negative then -n else n

/-! ## Floating-point numbers -/

/-- The floating-point number that characters write, with white space around it allowed. -/
def floatPart (cs : List Char) : Except Fault Floating :=
  match floatOfChars (Text.trimChars Text.isWhiteSpace (cs.map Text.asciiDigit)) with
  | some x => .ok x
  | none => .error (.noValue (.float (String.ofList cs)))

/-- The number that digits of base 60 write, the last one first. The unit of a digit, each product
and each sum are rounded; the unit must not be beyond the largest number. -/
def sumOfSixties (unit : Nat) (sum : Floating) : List Floating → Except Fault Floating
  | [] => .ok sum
  | d :: rest =>
    match Floating.nearest false unit 1 with
    | .finite u => sumOfSixties (60 * unit) (sum.add (d.times u)) rest
    | _ => .error (.noValue .floatPlace)

/-- The floating-point number that a scalar writes. -/
def floatOf (s : String) : Except Fault Floating := do
  let (negative, cs) := splitSign ((← numberChars s).flatMap Text.lowercaseChar)
  let x ←
    if cs = ".inf".toList then pure (Floating.infinity false)
    else if cs = ".nan".toList then pure (Floating.nan .yaml)
    else if cs.contains ':' then do
      let parts ← (colonParts cs).mapM floatPart
      sumOfSixties 1 (Floating.zero false) parts.reverse
    else floatPart cs
  return if negative then x.negate else x

/-! ## Dates and moments -/

/-- The date or the moment that a scalar writes. -/
def momentOf (s : String) : Except Fault Foreign := do
  match Tag.readMoment false (Tag.withoutEnd s).toList with
  | none => throw (.noValue .moment)
  | some written =>
    let number := digitsValue
    let date : Date := ⟨number written.year, number written.month, number written.day⟩
    match written.clock with
    | none =>
      match date.check with
      | some problem => throw (.noValue (.range problem))
      | none => return .date date
    | some (hour, minute, second, fraction) =>
      let offset := written.offset.map fun (negative, hours, minutes) =>
        let n : Int := 60 * number hours + number minutes
        if negative then -n else n
      if let some minutes := offset.filter fun n => 24 * 60 ≤ n.natAbs then
        throw (.noValue (.offset minutes))
      let micro := fraction.take 6
      let t : Moment :=
        { date, hour := number hour, minute := number minute, second := number second
          microsecond := number (micro ++ List.replicate (6 - micro.length) '0'), offset }
      match t.check with
      | some problem => throw (.noValue (.range problem))
      | none => return .moment t

/-! ## All scalars -/

/-- The truth value that a word names, in any case. -/
def boolOf (s : String) : Except Fault Bool :=
  let word := Text.lowercase s
  match Tag.truthWords.lookup word with
  | some b => .ok b
  | none => .error (.noValue (.word word))

/-- The bytes that a text writes. -/
def bytesOf (s : String) : Except Fault (List UInt8) :=
  if s.toList.any fun c => 128 ≤ c.toNat then .error .invalid
  else
    match Text.Base64.decode s.toList with
    | some content => .ok content
    | none => .error .invalid

/-- The value that a text with a tag writes. -/
def scalarValue (tag : Tag) (s : String) : Except Fault Value :=
  match tag with
  | .text => .ok (.string s)
  | .null => .ok .null
  | .bool => Value.bool <$> boolOf s
  | .int => Value.int <$> intOf s
  | .float => (fun x => .number (.float x)) <$> floatOf s
  | .binary => (fun content => .foreign (.bytes content)) <$> bytesOf s
  | .moment => Value.foreign <$> momentOf s
  | .merge | .value | .sequence | .mapping | .set | .pairs | .other => .error .invalid

end ExtractionSchema.Yaml
