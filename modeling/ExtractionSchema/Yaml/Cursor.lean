/-!
# Places in a YAML text

A cursor holds the characters of a text that are left, and where it stands: the index, the line and
the column, each from 0. Reading past the end gives the character U+0000, which no YAML text holds.
-/

namespace ExtractionSchema.Yaml

/-- A place in a text, with the characters that follow it and the length of the whole text. -/
structure Cursor where
  rest : List Char
  size : Nat
  index : Nat := 0
  line : Nat := 0
  column : Nat := 0

/-- The character that stands for the end of a text. -/
def endMark : Char := '\x00'

/-- Whether a character breaks a line. -/
def isBreak (c : Char) : Bool :=
  c = '\n' || c = '\r' || c.toNat = 0x85 || c.toNat = 0x2028 || c.toNat = 0x2029

/-- Whether a character breaks a line or is the end. -/
def isBreakOrEnd (c : Char) : Bool := c = endMark || isBreak c

/-- Whether a character is a space, breaks a line or is the end. -/
def isSpaceOrBreak (c : Char) : Bool := c = ' ' || isBreakOrEnd c

/-- Whether a character is a space or a tab, breaks a line or is the end. -/
def isBlank (c : Char) : Bool := c = '\t' || isSpaceOrBreak c

/-- Whether a character may stand in a name: an ASCII letter or digit, a hyphen or an underscore. -/
def isWordChar (c : Char) : Bool := c.isAlphanum || c = '-' || c = '_'

namespace Cursor

/-- The start of a text. -/
def start (cs : List Char) : Cursor := { rest := cs, size := cs.length }

/-- A bound on the number of steps that a loop over the characters ahead takes. -/
def steps (c : Cursor) : Nat := c.size - c.index + 1

/-- A character ahead. -/
def peek (c : Cursor) (n : Nat := 0) : Char := (c.rest.drop n).headD endMark

/-- One character further. A line break starts a new line, and a byte order mark takes no
column. -/
def next (c : Cursor) : Cursor :=
  match c.rest with
  | [] => c
  | ch :: rest =>
    if ch = '\r' && rest.head? = some '\n' then
      { c with rest, index := c.index + 1, column := c.column + 1 }
    else if isBreak ch then
      { c with rest, index := c.index + 1, line := c.line + 1, column := 0 }
    else if ch = '\uFEFF' then { c with rest, index := c.index + 1 }
    else { c with rest, index := c.index + 1, column := c.column + 1 }

/-- Some characters further. -/
def forward : Nat → Cursor → Cursor
  | 0, c => c
  | n + 1, c => forward n c.next

/-- The characters ahead that satisfy a condition, and the place after them. -/
def span (p : Char → Bool) (c : Cursor) : List Char × Cursor :=
  let taken := c.rest.takeWhile p
  (taken, c.forward taken.length)

/-- The place after the characters ahead that satisfy a condition. -/
def skip (p : Char → Bool) (c : Cursor) : Cursor := (c.span p).2

/-- The place after the spaces ahead. -/
def skipSpaces (c : Cursor) : Cursor := c.skip (· = ' ')

/-- The place after spaces and a comment. -/
def skipComment (c : Cursor) : Cursor :=
  let c := c.skipSpaces
  if c.peek = '#' then c.skip (!isBreakOrEnd ·) else c

/-- A line break as it counts in a text, and the place after it; nothing if there is none. -/
def lineBreak (c : Cursor) : List Char × Cursor :=
  let ch := c.peek
  if ch = '\r' && c.peek 1 = '\n' then (['\n'], c.forward 2)
  else if ch = '\n' || ch = '\r' || ch.toNat = 0x85 then (['\n'], c.next)
  else if isBreak ch then ([ch], c.next)
  else ([], c)

/-- Whether three equal marks and a blank come next: the line separates documents. -/
def isSeparator (mark : Char) (c : Cursor) : Bool :=
  c.peek = mark && c.peek 1 = mark && c.peek 2 = mark && isBlank (c.peek 3)

/-- Whether the line that comes next separates documents. -/
def atSeparator (c : Cursor) : Bool := c.isSeparator '-' || c.isSeparator '.'

end Cursor

end ExtractionSchema.Yaml
