import ExtractionSchema.Number.Shortest
import ExtractionSchema.Text.Quoted
import ExtractionSchema.Value.Literal

/-!
# JSON text

Values are written on one line, with `, ` between items and `: ` after names, or over several
lines, indented by two spaces for each level. Characters outside ASCII are written as they are.
The writers put the text of a value before a text that follows it, so that a list is written in
one pass.

A pair is written as a list. A value that JSON cannot write has an `Obstacle`: the first part, in
writing order, that is a date, a moment, bytes, a set, a key of such a kind, an integer of more than
4300 digits, or a list or an object within itself.

* `Value.json?` and `Value.indentedJson?` write a value or give its obstacle.
* `Value.serializedSize` is the length of the one-line text in ASCII, where every other character
  is written as one or two escapes.
-/

namespace ExtractionSchema

/-! ## Obstacles -/

/-- Why a value has no JSON text. -/
inductive Obstacle where
  | kind (name : String)
  | key (name : String)
  | digits
  | circular
  /-- Bytes are no text: the first byte that is not decoded, and its index. -/
  | undecodable (byte : UInt8) (index : Nat)
  /-- A list or an object stands within itself where a copy is made of it. -/
  | repeated
deriving DecidableEq

/-- What a message says about an obstacle. -/
def Obstacle.message : Obstacle → String
  | .kind name => s!"Object of type {name} is not JSON serializable"
  | .key name => s!"keys must be str, int, float, bool or None, not {name}"
  | .digits => s!"Exceeds the limit ({digitLimit} digits) for integer string conversion; " ++
      "use sys.set_int_max_str_digits() to increase the limit"
  | .circular => "Circular reference detected"
  | .undecodable byte index =>
    "'utf-8' codec can't decode byte 0x" ++ String.ofList (Text.hexDigits 2 byte.toNat) ++
      s!" in position {index}: invalid utf-8"
  | .repeated => "Circular reference detected (id repeated)"

/-- The obstacle that a number is, if it is one. -/
def Number.obstacle : Number → Option Obstacle
  | .int i => if hasTooManyDigits i then some .digits else none
  | .float _ => none

/-- The name of the kind of a value that only YAML can write. -/
def Foreign.kindName : Foreign → String
  | .date _ => "date"
  | .moment _ => "datetime"
  | .bytes _ => "bytes"

/-- The obstacle that a key is, if it is one. -/
def Key.obstacle : Key → Option Obstacle
  | .name _ | .null | .bool _ => none
  | .number n => n.obstacle
  | .foreign x => some (.key x.kindName)

namespace Value

mutual

/-- The first obstacle to writing a value. -/
def obstacle : Value → Option Obstacle
  | .null | .bool _ | .string _ => none
  | .number n => n.obstacle
  | .list items => obstacleIn items
  | .object entries => obstacleInEntries entries
  | .foreign x => some (.kind x.kindName)
  | .set _ => some (.kind "set")
  | .pair first second => first.obstacle <|> second.obstacle
  | .enclosing _ => some .circular

/-- The first obstacle in a list. -/
def obstacleIn : List Value → Option Obstacle
  | [] => none
  | v :: vs => v.obstacle <|> obstacleIn vs

/-- The first obstacle in a list of entries. -/
def obstacleInEntries : List (Key × Value) → Option Obstacle
  | [] => none
  | (k, v) :: es => k.obstacle <|> v.obstacle <|> obstacleInEntries es

end

/-! ## Writing -/

/-- The words of floating-point numbers in JSON text. -/
def jsonWords : SpecialWords := ⟨"NaN", "Infinity"⟩

/-- The JSON text of a number. -/
def numberText : Number → String
  | .int i => toString i
  | .float x => x.text jsonWords

/-- One character of a JSON string. -/
def jsonChar (c : Char) : List Char :=
  if c = '"' then ['\\', '"']
  else if c = '\\' then ['\\', '\\']
  else if c = '\n' then ['\\', 'n']
  else if c = '\r' then ['\\', 'r']
  else if c = '\t' then ['\\', 't']
  else if c = '\x08' then ['\\', 'b']
  else if c = '\x0c' then ['\\', 'f']
  else if c.toNat < 0x20 then '\\' :: 'u' :: Text.hexDigits 4 c.toNat
  else [c]

/-- Writes a JSON string. -/
def writeString (s : String) (rest : List Char) : List Char :=
  '"' :: (s.toList.flatMap jsonChar ++ '"' :: rest)

/-- The name that a key is written as. -/
def keyName : Key → String
  | .name s => s
  | .null => "null"
  | .bool b => if b then "true" else "false"
  | .number n => numberText n
  | .foreign x => x.plain

/-- How the items of a list or an object are set: what stands before the first item, between two
items and after the last. -/
structure Layout where
  opening : List Char
  between : List Char
  closing : List Char

/-- A new line at a level of indentation. -/
def newLine (level : Nat) : List Char := '\n' :: List.replicate (2 * level) ' '

/-- The layout of a list or object at a level. `none` stands for everything on one line. -/
def layout : Option Nat → Layout
  | none => ⟨[], [',', ' '], []⟩
  | some level => ⟨newLine (level + 1), ',' :: newLine (level + 1), newLine level⟩

/-- The level of the items of a list or object at a level. -/
def inner : Option Nat → Option Nat
  | none => none
  | some level => some (level + 1)

mutual

/-- Writes a value before the text that follows it. -/
def write (level : Option Nat) : Value → List Char → List Char
  | .null, rest => "null".toList ++ rest
  | .bool true, rest => "true".toList ++ rest
  | .bool false, rest => "false".toList ++ rest
  | .number n, rest => (numberText n).toList ++ rest
  | .string s, rest => writeString s rest
  | .list [], rest => '[' :: ']' :: rest
  | .list (v :: vs), rest =>
    '[' :: ((layout level).opening ++ write (inner level) v (writeItems level vs rest))
  | .object [], rest => '\x7b' :: '\x7d' :: rest
  | .object ((k, v) :: es), rest =>
    '\x7b' :: ((layout level).opening ++ writeString (keyName k)
      (':' :: ' ' :: write (inner level) v (writeEntries level es rest)))
  | .foreign x, rest => writeString x.plain rest
  | .set members, rest => writeString (Value.set members).literal rest
  | .pair first second, rest =>
    '[' :: ((layout level).opening ++ write (inner level) first ((layout level).between ++
      write (inner level) second ((layout level).closing ++ ']' :: rest)))
  | .enclosing isList, rest => writeString (Value.enclosing isList).literal rest

/-- Writes the items after the first one of a list, and its end. -/
def writeItems (level : Option Nat) : List Value → List Char → List Char
  | [], rest => (layout level).closing ++ ']' :: rest
  | v :: vs, rest => (layout level).between ++ write (inner level) v (writeItems level vs rest)

/-- Writes the entries after the first one of an object, and its end. -/
def writeEntries (level : Option Nat) : List (Key × Value) → List Char → List Char
  | [], rest => (layout level).closing ++ '\x7d' :: rest
  | (k, v) :: es, rest =>
    (layout level).between ++ writeString (keyName k)
      (':' :: ' ' :: write (inner level) v (writeEntries level es rest))

end

/-- The JSON text of a value on one line. -/
def json (v : Value) : String := String.ofList (write none v [])

/-- The JSON text of a value over several lines. -/
def indentedJson (v : Value) : String := String.ofList (write (some 0) v [])

/-- The JSON text on one line, or what stands in its way. -/
def json? (v : Value) : Except Obstacle String :=
  match v.obstacle with
  | some o => .error o
  | none => .ok v.json

/-- The JSON text over several lines, or what stands in its way. -/
def indentedJson? (v : Value) : Except Obstacle String :=
  match v.obstacle with
  | some o => .error o
  | none => .ok v.indentedJson

/-! ## Size -/

/-- Number of ASCII characters that a character of a JSON text takes: itself, one escape of six,
or two of them for a character beyond the first 65536. -/
def asciiSize (c : Char) : Nat :=
  if c.toNat < 0x7F then 1 else if c.toNat < 0x10000 then 6 else 12

/-- Number of characters of the one-line text in ASCII; 0 for a value without JSON text. -/
def serializedSize (v : Value) : Nat :=
  match v.obstacle with
  | some _ => 0
  | none => (write none v []).foldl (fun total c => total + asciiSize c) 0

end Value

end ExtractionSchema
