import ExtractionSchema.Number.Text
import ExtractionSchema.Value.Json.Printer

/-!
# Reading JSON text

The reader takes the JSON grammar, the words `NaN`, `Infinity` and `-Infinity` as numbers, and a
name that occurs twice in an object: the last value stands at the place of the first. Integers of
more than 4300 digits are refused.

Every reading function works on the characters that are left and returns those it leaves. A syntax
error remembers how many characters were left at the place it is reported for; only `Json.read`,
which knows the whole text, turns that into a position. Recursion is bounded by a count of steps
that `readAll` takes from the length of the text: of two steps in a row one consumes a character.
-/

namespace ExtractionSchema.Json

/-- What is wrong at a place of a JSON text. -/
inductive Problem where
  | value
  | name
  | colon
  | comma
  | unterminated
  | control
  | escape
  | unicodeEscape
  | extra
  | byteOrderMark
deriving DecidableEq

/-- The words for a problem. -/
def Problem.message : Problem → String
  | .value => "Expecting value"
  | .name => "Expecting property name enclosed in double quotes"
  | .colon => "Expecting ':' delimiter"
  | .comma => "Expecting ',' delimiter"
  | .unterminated => "Unterminated string starting at"
  | .control => "Invalid control character at"
  | .escape => "Invalid \\escape"
  | .unicodeEscape => "Invalid \\uXXXX escape"
  | .extra => "Extra data"
  | .byteOrderMark => "Unexpected UTF-8 BOM (decode using utf-8-sig)"

/-- Why a text is not read: a problem with so many characters left, or an integer with too many
digits. -/
inductive Fault where
  | syntaxError (problem : Problem) (left : Nat)
  | digits (count : Nat)
deriving DecidableEq

/-- A syntax error before the given characters. -/
def failAt {α : Type} (problem : Problem) (cs : List Char) : Except Fault α :=
  .error (.syntaxError problem cs.length)

/-! ## Blanks and words -/

/-- The blank characters of JSON. -/
def isBlank (c : Char) : Bool := c = ' ' || c = '\t' || c = '\n' || c = '\r'

/-- The characters without the blanks at their start. -/
def skipBlanks (cs : List Char) : List Char := cs.dropWhile isBlank

/-- What is left after a word, if the characters start with it. -/
def afterWord : (word : List Char) → List Char → Option (List Char)
  | [], cs => some cs
  | w :: ws, c :: cs => if w = c then afterWord ws cs else none
  | _ :: _, [] => none

/-! ## Strings -/

/-- The value of a hexadecimal digit. -/
def hexValue (c : Char) : Option Nat :=
  if '0' ≤ c ∧ c ≤ '9' then some (c.toNat - 48)
  else if 'a' ≤ c ∧ c ≤ 'f' then some (c.toNat - 87)
  else if 'A' ≤ c ∧ c ≤ 'F' then some (c.toNat - 55)
  else none

/-- The number that four hexadecimal digits write. -/
def hex4 (a b c d : Char) : Option Nat := do
  let a ← hexValue a
  let b ← hexValue b
  let c ← hexValue c
  let d ← hexValue d
  some (((a * 16 + b) * 16 + c) * 16 + d)

/-- The character that a letter after a backslash stands for. -/
def escaped : Char → Option Char
  | '"' => some '"'
  | '\\' => some '\\'
  | '/' => some '/'
  | 'b' => some '\x08'
  | 'f' => some '\x0c'
  | 'n' => some '\n'
  | 'r' => some '\r'
  | 't' => some '\t'
  | _ => none

/-- The characters of some code units: half of a pair before the other half makes one character
with it, and half of a pair that stands alone becomes U+FFFD. -/
def joinUnits : List Nat → List Char
  | [] => []
  | [n] => [unitChar n]
  | n :: m :: rest =>
    if 0xD800 ≤ n ∧ n ≤ 0xDBFF ∧ 0xDC00 ≤ m ∧ m ≤ 0xDFFF then
      Char.ofNat (0x10000 + (n - 0xD800) * 0x400 + (m - 0xDC00)) :: joinUnits rest
    else unitChar n :: joinUnits (m :: rest)
where
  /-- The character of a unit that stands alone. -/
  unitChar (n : Nat) : Char := if 0xD800 ≤ n ∧ n ≤ 0xDFFF then '\uFFFD' else Char.ofNat n

/-- Reads the code units of a string up to its closing quote; `start` counts the characters left
at the opening quote, and `done` holds the units read so far, the last one first. -/
def readUnits (start : Nat) (done : List Nat) : List Char → Except Fault (List Nat × List Char)
  | [] => .error (.syntaxError .unterminated start)
  | '"' :: rest => .ok (done.reverse, rest)
  | '\\' :: 'u' :: a :: b :: c :: d :: rest =>
    match rest, hex4 a b c d with
    | _ :: _, some n => readUnits start (n :: done) rest
    | _, _ => .error (.syntaxError .unicodeEscape (rest.length + 5))
  | '\\' :: 'u' :: rest => .error (.syntaxError .unicodeEscape (rest.length + 1))
  | '\\' :: c :: rest =>
    match escaped c with
    | some c' => readUnits start (c'.toNat :: done) rest
    | none => .error (.syntaxError .escape (rest.length + 2))
  | ['\\'] => .error (.syntaxError .unterminated start)
  | c :: rest =>
    if c.toNat < 0x20 then failAt .control (c :: rest)
    else readUnits start (c.toNat :: done) rest

/-- Reads a string after its opening quote. -/
def readString (cs : List Char) : Except Fault (String × List Char) := do
  let (units, rest) ← readUnits (cs.length + 1) [] cs
  return (String.ofList (joinUnits units), rest)

/-! ## Numbers -/

/-- The digits of the integer part: a zero alone, or digits that start with another one. -/
def readWhole : List Char → Option (List Char × List Char)
  | '0' :: rest => some (['0'], rest)
  | c :: rest => if isDigit c then some (spanDigits (c :: rest)) else none
  | [] => none

/-- The digits after a point, if a point and a digit come next. -/
def readFraction : List Char → Option (List Char × List Char)
  | '.' :: c :: rest => if isDigit c then some (spanDigits (c :: rest)) else none
  | _ => none

/-- A number from its digits and what comes after them: an integer without fraction and exponent,
else the nearest floating-point number. -/
def finishNumber (negative : Bool) (whole rest : List Char) : Except Fault (Number × List Char) :=
  let (fraction, rest) := match readFraction rest with
    | some (digits, rest) => (some digits, rest)
    | none => (none, rest)
  let (exponent, rest) := match readExponent rest with
    | some (e, rest) => (some e, rest)
    | none => (none, rest)
  match fraction, exponent with
  | none, none =>
    if digitLimit < whole.length then .error (.digits whole.length)
    else
      let n : Int := digitsValue whole
      .ok (.int (if negative then -n else n), rest)
  | fraction, exponent =>
    let digits := fraction.getD []
    let x := Floating.ofDecimal negative (digitsValue (whole ++ digits))
      (exponent.getD 0 - digits.length)
    .ok (.float x, rest)

/-- Reads a number. -/
def readNumber (cs : List Char) : Except Fault (Number × List Char) :=
  let (negative, digits) := match cs with
    | '-' :: rest => (true, rest)
    | _ => (false, cs)
  match readWhole digits with
  | none => failAt .value cs
  | some (whole, rest) => finishNumber negative whole rest

/-! ## Values -/

/-- Words that stand for a value. -/
def words : List (List Char × Value) :=
  [("null".toList, .null), ("true".toList, .bool true), ("false".toList, .bool false),
    ("NaN".toList, .number (.float (.nan .json))),
    ("Infinity".toList, .number (.float (.infinity false))),
    ("-Infinity".toList, .number (.float (.infinity true)))]

/-- Reads a word or a number. -/
def readScalar (cs : List Char) : Except Fault (Value × List Char) :=
  match words.findSome? fun (word, v) => (afterWord word cs).map fun rest => (v, rest) with
  | some result => .ok result
  | none => do
    let (n, rest) ← readNumber cs
    return (.number n, rest)

mutual

/-- Reads a value, with a bound on the number of steps. -/
def readValue : (steps : Nat) → List Char → Except Fault (Value × List Char)
  | 0, cs => failAt .value cs
  | steps + 1, cs =>
    match cs with
    | '"' :: rest => do
      let (s, rest) ← readString rest
      return (.string s, rest)
    | '[' :: rest =>
      match skipBlanks rest with
      | ']' :: rest => .ok (.list [], rest)
      | rest => readItems steps [] rest
    | '\x7b' :: rest =>
      match skipBlanks rest with
      | '\x7d' :: rest => .ok (.object [], rest)
      | rest => readEntries steps [] rest
    | cs => readScalar cs

/-- Reads the items of a list that are left and its closing bracket; `done` holds the items read so
far, the last one first. -/
def readItems :
    (steps : Nat) → (done : List Value) → List Char → Except Fault (Value × List Char)
  | 0, _, cs => failAt .value cs
  | steps + 1, done, cs => do
    let (v, rest) ← readValue steps cs
    match skipBlanks rest with
    | ']' :: rest => return (.list (v :: done).reverse, rest)
    | ',' :: rest => readItems steps (v :: done) (skipBlanks rest)
    | rest => failAt .comma rest

/-- Reads the entries of an object that are left and its closing brace; `done` holds the entries
read so far. -/
def readEntries :
    (steps : Nat) → (done : Value.Entries) → List Char → Except Fault (Value × List Char)
  | 0, _, cs => failAt .name cs
  | steps + 1, done, cs =>
    match cs with
    | '"' :: rest => do
      let (name, rest) ← readString rest
      match skipBlanks rest with
      | ':' :: rest =>
        let (v, rest) ← readValue steps (skipBlanks rest)
        let done := Value.put (.name name) v done
        match skipBlanks rest with
        | '\x7d' :: rest => return (.object done, rest)
        | ',' :: rest => readEntries steps done (skipBlanks rest)
        | rest => failAt .comma rest
      | rest => failAt .colon rest
    | cs => failAt .name cs

end

/-- Reads the characters of a whole text: one value with nothing but blanks around it. -/
def readAll (cs : List Char) : Except Fault Value :=
  match cs with
  | '\uFEFF' :: _ => failAt .byteOrderMark cs
  | _ => do
    let (v, rest) ← readValue (2 * cs.length + 2) (skipBlanks cs)
    match skipBlanks rest with
    | [] => return v
    | rest => failAt .extra rest

/-! ## Errors with positions -/

/-- Why a text is not JSON. -/
inductive Error where
  | invalid (problem : Problem) (line column index : Nat)
  | digits (count : Nat)
deriving DecidableEq

/-- The position of a fault in its text: line and column count from 1, the index from 0. -/
def Fault.locate (cs : List Char) : Fault → Error
  | .digits count => .digits count
  | .syntaxError problem left =>
    let before := cs.take (cs.length - left)
    let line := (before.filter (· = '\n')).length + 1
    let column := (before.reverse.takeWhile (· ≠ '\n')).length + 1
    .invalid problem line column before.length

/-- The value that a text writes. -/
def read (s : String) : Except Error Value :=
  match readAll s.toList with
  | .ok v => .ok v
  | .error fault => .error (fault.locate s.toList)

/-- What a message says about an error. -/
def Error.message : Error → String
  | .invalid problem line column index =>
    s!"{problem.message}: line {line} column {column} (char {index})"
  | .digits count =>
    s!"Exceeds the limit ({digitLimit} digits) for integer string conversion: value has {count} " ++
      "digits; use sys.set_int_max_str_digits() to increase the limit"

end ExtractionSchema.Json
