import ExtractionSchema.Yaml.Scalar
import ExtractionSchema.Yaml.Token

/-!
# From characters to tokens

Indentation opens and closes block collections, so the lexer keeps the columns at which the open
ones stand. A key of a mapping need not be marked: a node on one line of at most 1024 characters is
a key when a colon follows. The lexer remembers, for every nesting of brackets, the last node that
may turn out to be a key, and marks it once it sees the colon.

Tokens are wanted one after the other, and a text is only read as far as the token that is wanted
next depends on it. So a fault stands among the tokens: right before the first one that could not be
told without reading on to the fault.
-/

namespace ExtractionSchema.Yaml

/-- A node that is a key if a colon follows. -/
structure PossibleKey where
  /-- How many tokens come before the node. -/
  position : Nat
  /-- Whether the text is refused without the colon. -/
  required : Bool
  place : Cursor

/-- How far a text has been read. -/
structure Lexer where
  cursor : Cursor
  /-- The tokens read, the last one first. -/
  tokens : List Token := []
  count : Nat := 0
  /-- The column of the block collection that is open, -1 outside of all. -/
  indent : Int := -1
  /-- The columns of the block collections around it. -/
  outer : List Int := []
  /-- Number of brackets that are open. -/
  flowLevel : Int := 0
  /-- Whether a key may start here. -/
  allowsKey : Bool := true
  /-- The node that may be a key, for each number of open brackets. -/
  possibleKeys : List (Int × PossibleKey) := []

namespace Lexer

/-- Whether brackets are open. -/
def inFlow (l : Lexer) : Bool := l.flowLevel ≠ 0

/-- Adds a token, read up to a place. -/
def emit (l : Lexer) (token : Token) (c : Cursor) : Lexer :=
  { l with tokens := token :: l.tokens, count := l.count + 1, cursor := c }

/-- Closes the block collections that stand to the right of a column. -/
def unwind (column : Int) (l : Lexer) : Lexer :=
  if l.inFlow then l
  else
    let opened := (l.indent :: l.outer).takeWhile (column < ·)
    let left := (l.indent :: l.outer).drop opened.length
    { l with
      tokens := opened.map (fun _ => Token.blockEnd) ++ l.tokens
      count := l.count + opened.length
      indent := left.headD (-1)
      outer := left.tail }

/-- Whether a column is to the right of the open block collection. -/
def opensAt (column : Nat) (l : Lexer) : Bool := l.indent < column

/-- Opens a block collection at a column. -/
def indentTo (column : Nat) (l : Lexer) : Lexer :=
  { l with indent := column, outer := l.indent :: l.outer }

/-! ## Possible keys -/

/-- Whether a node is too far back to be a key. -/
def isStale (l : Lexer) (k : PossibleKey) : Bool :=
  k.place.line ≠ l.cursor.line || 1024 < l.cursor.index - k.place.index

/-- Forgets the nodes that are too far back to be keys. -/
def forgetStaleKeys (l : Lexer) : Except Fault Lexer := do
  if l.possibleKeys.any fun (_, k) => l.isStale k && k.required then throw .invalid
  return { l with possibleKeys := l.possibleKeys.filter fun (_, k) => !l.isStale k }

/-- Number of tokens that do not depend on what follows: those before the first possible key. -/
def settled (l : Lexer) : Nat :=
  ((l.possibleKeys.filter fun (_, k) => !l.isStale k).map (·.2.position)).foldl min l.count

/-- Forgets the node at the present number of open brackets. -/
def forgetKey (l : Lexer) : Except Fault Lexer := do
  match l.possibleKeys.lookup l.flowLevel with
  | none => return l
  | some k =>
    if k.required then throw .invalid
    return { l with possibleKeys := l.possibleKeys.filter (·.1 ≠ l.flowLevel) }

/-- Remembers that a node starts here. -/
def rememberKey (l : Lexer) : Except Fault Lexer := do
  if !l.allowsKey then return l
  let l ← l.forgetKey
  let k : PossibleKey :=
    { position := l.count
      required := !l.inFlow && l.indent = l.cursor.column
      place := l.cursor }
  return { l with possibleKeys := (l.flowLevel, k) :: l.possibleKeys }

/-- Inserts tokens before the one at a position. -/
def insertAt (position : Nat) (new : List Token) (l : Lexer) : Lexer :=
  let after := l.count - position
  { l with
    tokens := l.tokens.take after ++ new.reverse ++ l.tokens.drop after
    count := l.count + new.length }

/-! ## Single tokens -/

/-- Ends the text. -/
def atEnd (l : Lexer) : Except Fault Lexer := do
  let l ← (l.unwind (-1)).forgetKey
  return l.emit .streamEnd l.cursor

/-- Reads a directive. -/
def atDirective (l : Lexer) : Except Fault Lexer := do
  let l ← (l.unwind (-1)).forgetKey
  let (token, c) ← directive l.cursor
  return { l with allowsKey := false }.emit token c

/-- Reads a line that separates documents. -/
def atSeparator (token : Token) (l : Lexer) : Except Fault Lexer := do
  let l ← (l.unwind (-1)).forgetKey
  return { l with allowsKey := false }.emit token (l.cursor.forward 3)

/-- Opens a bracket. -/
def atOpening (token : Token) (l : Lexer) : Except Fault Lexer := do
  let l ← l.rememberKey
  return { l with flowLevel := l.flowLevel + 1, allowsKey := true }.emit token l.cursor.next

/-- Closes a bracket. -/
def atClosing (token : Token) (l : Lexer) : Except Fault Lexer := do
  let l ← l.forgetKey
  return { l with flowLevel := l.flowLevel - 1, allowsKey := false }.emit token l.cursor.next

/-- Reads a comma between brackets. -/
def atComma (l : Lexer) : Except Fault Lexer := do
  let l ← { l with allowsKey := true }.forgetKey
  return l.emit .flowEntry l.cursor.next

/-- Opens a block collection if the column asks for one. Outside of brackets it must be a place
where a key may start. -/
def openBlock (token : Token) (l : Lexer) : Except Fault Lexer := do
  if l.inFlow then return l
  if !l.allowsKey then throw .invalid
  if l.opensAt l.cursor.column then
    return (l.indentTo l.cursor.column).emit token l.cursor
  return l

/-- Reads the hyphen of an entry. -/
def atHyphen (l : Lexer) : Except Fault Lexer := do
  let l ← l.openBlock .blockSequenceStart
  let l ← { l with allowsKey := true }.forgetKey
  return l.emit .blockEntry l.cursor.next

/-- Reads the question mark of a key. -/
def atQuestion (l : Lexer) : Except Fault Lexer := do
  let l ← l.openBlock .blockMappingStart
  let l ← { l with allowsKey := !l.inFlow }.forgetKey
  return l.emit .key l.cursor.next

/-- Reads the colon of a value. If a node may be a key here, it is one. -/
def atColon (l : Lexer) : Except Fault Lexer := do
  match l.possibleKeys.lookup l.flowLevel with
  | some k =>
    let l := { l with
      possibleKeys := l.possibleKeys.filter (·.1 ≠ l.flowLevel), allowsKey := false }
    let opens := !l.inFlow && l.opensAt k.place.column
    let l := if opens then l.indentTo k.place.column else l
    let l := l.insertAt k.position (if opens then [.blockMappingStart, .key] else [.key])
    return l.emit .value l.cursor.next
  | none =>
    let l ← l.openBlock .blockMappingStart
    let l ← { l with allowsKey := !l.inFlow }.forgetKey
    return l.emit .value l.cursor.next

/-- Reads a token that may start a key. -/
def atNode (read : Cursor → Except Fault (Token × Cursor)) (l : Lexer) : Except Fault Lexer := do
  let l ← l.rememberKey
  let (token, c) ← read l.cursor
  return { l with allowsKey := false }.emit token c

/-- Reads a block scalar. -/
def atBlockScalar (folded : Bool) (l : Lexer) : Except Fault Lexer := do
  let l ← { l with allowsKey := true }.forgetKey
  let (text, c) ← blockScalar folded l.indent l.cursor
  return l.emit (.scalar text false) c

/-- Reads a plain scalar. After a line break at its end a key may start. -/
def atPlainScalar (l : Lexer) : Except Fault Lexer := do
  let l ← l.rememberKey
  let (text, c, broken) := plainScalar l.inFlow (l.indent + 1) l.cursor
  return { l with allowsKey := broken }.emit (.scalar text true) c

/-! ## All tokens -/

/-- Skips spaces, comments and line breaks. A new line outside of brackets may start with a key. -/
def skipToToken : (steps : Nat) → Lexer → Lexer
  | 0, l => l
  | steps + 1, l =>
    let c := l.cursor.skipComment
    if isBreak c.peek then
      skipToToken steps { l with
        cursor := c.lineBreak.2, allowsKey := l.allowsKey || !l.inFlow }
    else { l with cursor := c }

/-- Whether a plain scalar may start with the character that comes next. -/
def startsPlain (l : Lexer) : Bool :=
  let c := l.cursor.peek
  let isFree := !isBlank c && !"-?:,[]\x7b\x7d#&*!|>'\"%@`".contains c
  isFree || (!isBlank (l.cursor.peek 1) && (c = '-' || (!l.inFlow && (c = '?' || c = ':'))))

/-- Reads the token that comes next. -/
def step (l : Lexer) : Except Fault Lexer := do
  let l ← (skipToToken l.cursor.steps l).forgetStaleKeys
  let l := l.unwind l.cursor.column
  let c := l.cursor
  let blankFollows := isBlank (c.peek 1)
  match c.peek with
  | '[' => l.atOpening .flowSequenceStart
  | '\x7b' => l.atOpening .flowMappingStart
  | ']' => l.atClosing .flowSequenceEnd
  | '\x7d' => l.atClosing .flowMappingEnd
  | ',' => l.atComma
  | '*' => l.atNode fun c => do
    let (name, c) ← anchorName c.next
    return (.alias name, c)
  | '&' => l.atNode fun c => do
    let (name, c) ← anchorName c.next
    return (.anchor name, c)
  | '!' => l.atNode fun c => do
    let (written, c) ← writtenTag c
    return (.tag written, c)
  | '\'' => l.atNode fun c => do
    let (text, c) ← quotedScalar false c
    return (.scalar text false, c)
  | '"' => l.atNode fun c => do
    let (text, c) ← quotedScalar true c
    return (.scalar text false, c)
  | ch =>
    if ch = endMark then l.atEnd
    else if ch = '%' && c.column = 0 then l.atDirective
    else if c.column = 0 && c.isSeparator '-' then l.atSeparator .documentStart
    else if c.column = 0 && c.isSeparator '.' then l.atSeparator .documentEnd
    else if ch = '-' && blankFollows then l.atHyphen
    else if ch = '?' && (l.inFlow || blankFollows) then l.atQuestion
    else if ch = ':' && (l.inFlow || blankFollows) then l.atColon
    else if ch = '|' && !l.inFlow then l.atBlockScalar false
    else if ch = '>' && !l.inFlow then l.atBlockScalar true
    else if l.startsPlain then l.atPlainScalar
    else throw .invalid

/-- Reads tokens up to the end or to a fault. Every step but the last one takes at least one
character. -/
def run : (steps : Nat) → Lexer → List Token
  | 0, _ => [.fault .invalid]
  | steps + 1, l =>
    match l.step with
    | .error fault => l.tokens.reverse.take l.settled ++ [.fault fault]
    | .ok l => if l.tokens.head? = some .streamEnd then l.tokens.reverse else run steps l

end Lexer

/-- Whether a character may stand in a YAML text. -/
def isPermitted (c : Char) : Bool :=
  let n := c.toNat
  n = 0x9 || n = 0xA || n = 0xD || (0x20 ≤ n && n ≤ 0x7E) || n = 0x85 ||
    (0xA0 ≤ n && n ≤ 0xD7FF) || (0xE000 ≤ n && n ≤ 0xFFFD) || 0x10000 ≤ n

/-- The tokens of a text. A byte order mark at its start is skipped. -/
def tokens (s : String) : List Token :=
  let cs := s.toList
  if !cs.all isPermitted then [.fault .invalid]
  else
    let c := Cursor.start cs
    let c := if c.peek = '\uFEFF' then c.next else c
    Lexer.run (c.steps + 1) { cursor := c }

end ExtractionSchema.Yaml
