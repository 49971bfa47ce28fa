import ExtractionSchema.Yaml.Cursor
import ExtractionSchema.Yaml.Fault

/-!
# Scalars of YAML texts

The texts that plain, quoted and block scalars write. Line breaks inside a plain or quoted scalar
fold: one break is a space, more of them are as many breaks less one. A block scalar keeps or folds
its lines, and a mark says what becomes of the breaks at its end.

Loops are bounded by a number of steps taken from the characters that are left.
-/

namespace ExtractionSchema.Yaml

/-- What folded line breaks count as. -/
def foldedBreaks (first : List Char) (more : List Char) : List Char :=
  if first ≠ ['\n'] then first ++ more else if more.isEmpty then [' '] else more

/-! ## Plain scalars -/

/-- The characters of a plain scalar up to a blank or an indicator that ends it. -/
def plainRun (inFlow : Bool) : List Char → List Char
  | [] => []
  | c :: rest =>
    let after := rest.headD endMark
    let isEnd := isBlank c ||
      (c = ':' && (isBlank after || (inFlow && ",[]\x7b\x7d".contains after))) ||
      (inFlow && ",?[]\x7b\x7d".contains c)
    if isEnd then [] else c :: plainRun inFlow rest

/-- The line breaks after the first one in a plain scalar; `none` if a line separates documents. -/
def plainBreaks : (steps : Nat) → List Char → Cursor → Option (List Char) × Cursor
  | 0, breaks, c => (some breaks, c)
  | steps + 1, breaks, c =>
    if c.peek = ' ' then plainBreaks steps breaks c.next
    else if isBreak c.peek then
      let (b, c) := c.lineBreak
      if c.atSeparator then (none, c) else plainBreaks steps (breaks ++ b) c
    else (some breaks, c)

/-- The space between two parts of a plain scalar, the place after it, and whether it breaks the
line. No space means that the scalar ends. -/
def plainSpace (c : Cursor) : List Char × Cursor × Bool :=
  let (spaces, c) := c.span (· = ' ')
  if isBreak c.peek then
    let (first, c) := c.lineBreak
    if c.atSeparator then ([], c, true)
    else
      match plainBreaks c.steps [] c with
      | (none, c) => ([], c, true)
      | (some more, c) => (foldedBreaks first more, c, true)
  else (spaces, c, false)

/-- The parts of a plain scalar from a place on; `space` stands before the next part. Also tells
whether the scalar ends after a line break. -/
def plainParts (inFlow : Bool) (indent : Int) :
    (steps : Nat) → (space : List Char) → (broken : Bool) → Cursor → List Char × Cursor × Bool
  | 0, _, broken, c => ([], c, broken)
  | steps + 1, space, broken, c =>
    if c.peek = '#' then ([], c, broken)
    else
      let run := plainRun inFlow c.rest
      if run.isEmpty then ([], c, broken)
      else
        let (space', c, broken) := plainSpace (c.forward run.length)
        if space'.isEmpty || c.peek = '#' || (!inFlow && (c.column : Int) < indent) then
          (space ++ run, c, broken)
        else
          let (rest, c, broken) := plainParts inFlow indent steps space' broken c
          (space ++ run ++ rest, c, broken)

/-- A plain scalar, and whether a line break follows it. -/
def plainScalar (inFlow : Bool) (indent : Int) (c : Cursor) : String × Cursor × Bool :=
  let (chars, c, broken) := plainParts inFlow indent c.steps [] false c
  (String.ofList chars, c, broken)

/-! ## Quoted scalars -/

/-- The character that a letter after a backslash stands for. -/
def escapes : List (Char × Char) :=
  [('0', '\x00'), ('a', '\x07'), ('b', '\x08'), ('t', '\t'), ('\t', '\t'), ('n', '\n'),
    ('v', '\x0b'), ('f', '\x0c'), ('r', '\r'), ('e', '\x1b'), (' ', ' '), ('"', '"'),
    ('\\', '\\'), ('/', '/'), ('N', '\u0085'), ('_', '\u00a0'), ('L', '\u2028'), ('P', '\u2029')]

/-- The number of hexadecimal digits that follow a letter after a backslash. -/
def escapeWidth : Char → Option Nat
  | 'x' => some 2
  | 'u' => some 4
  | 'U' => some 8
  | _ => none

/-- The number that hexadecimal digits write. -/
def hexNumber (cs : List Char) : Option Nat :=
  cs.foldl (fun n c => do return 16 * (← n) + (← Json.hexValue c)) (some 0)

/-- The line breaks and blanks inside a quoted scalar after its first break. -/
def quotedBreaks : (steps : Nat) → Cursor → Except Fault (List Char × Cursor)
  | 0, _ => .error .invalid
  | steps + 1, c =>
    if c.atSeparator then .error .invalid
    else
      let c := c.skip fun ch => ch = ' ' || ch = '\t'
      if isBreak c.peek then do
        let (b, c) := c.lineBreak
        let (rest, c) ← quotedBreaks steps c
        return (b ++ rest, c)
      else .ok ([], c)

/-- What an escape in double quotes stands for, read after its backslash. -/
def quotedEscape (c : Cursor) : Except Fault (List Char × Cursor) :=
  match escapes.lookup c.peek, escapeWidth c.peek with
  | some ch, _ => .ok ([ch], c.next)
  | none, some width =>
    let c := c.next
    let digits := c.rest.take width
    match if digits.length = width then hexNumber digits else none with
    | some n =>
      if n < 0x110000 then .ok ([Json.joinUnits.unitChar n], c.forward width)
      else .error (.noValue (if n < 0x80000000 then .codePoint else .wideCodePoint))
    | none => .error .invalid
  | none, none =>
    if isBreak c.peek then
      let (_, c) := c.lineBreak
      quotedBreaks c.steps c
    else .error .invalid

/-- Blanks inside a quoted scalar: a line break among them folds. -/
def quotedSpaces (c : Cursor) : Except Fault (List Char × Cursor) :=
  let (blanks, c) := c.span fun ch => ch = ' ' || ch = '\t'
  if c.peek = endMark then .error .invalid
  else if isBreak c.peek then do
    let (first, c) := c.lineBreak
    let (more, c) ← quotedBreaks c.steps c
    return (foldedBreaks first more, c)
  else .ok (blanks, c)

/-- The characters of a quoted scalar up to its closing quote. -/
def quotedChars (isDouble : Bool) : (steps : Nat) → Cursor → Except Fault (List Char × Cursor)
  | 0, _ => .error .invalid
  | steps + 1, c =>
    let ch := c.peek
    let continueWith (chars : List Char) (c : Cursor) : Except Fault (List Char × Cursor) := do
      let (rest, c) ← quotedChars isDouble steps c
      return (chars ++ rest, c)
    if ch = endMark then .error .invalid
    else if isBlank ch then do
      let (chars, c) ← quotedSpaces c
      continueWith chars c
    else if isDouble then
      if ch = '"' then .ok ([], c.next)
      else if ch = '\\' then do
        let (chars, c) ← quotedEscape c.next
        continueWith chars c
      else continueWith [ch] c.next
    else if ch = '\'' then
      if c.peek 1 = '\'' then continueWith ['\''] (c.forward 2) else .ok ([], c.next)
    else continueWith [ch] c.next

/-- A quoted scalar, from its opening quote on. -/
def quotedScalar (isDouble : Bool) (c : Cursor) : Except Fault (String × Cursor) := do
  let (chars, c) ← quotedChars isDouble c.steps c.next
  return (String.ofList chars, c)

/-! ## Block scalars -/

/-- What becomes of the line breaks at the end of a block scalar. -/
inductive Chomping where
  | clip
  | strip
  | keep
deriving DecidableEq

/-- The mark for the breaks at the end, if there is one. -/
def chompingMark (c : Cursor) : Option (Chomping × Cursor) :=
  if c.peek = '+' then some (.keep, c.next)
  else if c.peek = '-' then some (.strip, c.next)
  else none

/-- A digit for the indentation, if there is one; zero is none. -/
def indentMark (c : Cursor) : Except Fault (Option Nat × Cursor) :=
  if isDigit c.peek then
    if c.peek = '0' then .error .invalid else .ok (some (c.peek.toNat - 48), c.next)
  else .ok (none, c)

/-- The marks after the indicator of a block scalar, in either order. -/
def blockMarks (c : Cursor) : Except Fault ((Chomping × Option Nat) × Cursor) := do
  match chompingMark c with
  | some (chomping, c) =>
    let (indent, c) ← indentMark c
    return ((chomping, indent), c)
  | none =>
    let (indent, c) ← indentMark c
    match indent, chompingMark c with
    | some n, some (chomping, c) => return ((chomping, some n), c)
    | indent, _ => return ((.clip, indent), c)

/-- Spaces and a comment up to the end of the line, and the place after it. -/
def restOfLine (c : Cursor) : Except Fault Cursor :=
  let c := c.skipComment
  if isBreakOrEnd c.peek then .ok c.lineBreak.2 else .error .invalid

/-- The empty lines before a block scalar whose indentation is not given, and the widest column
reached among them. -/
def leadingBreaks : (steps : Nat) → (widest : Nat) → Cursor → List Char × Nat × Cursor
  | 0, widest, c => ([], widest, c)
  | steps + 1, widest, c =>
    if c.peek = ' ' then
      let c := c.next
      leadingBreaks steps (max widest c.column) c
    else if isBreak c.peek then
      let (b, c) := c.lineBreak
      let (more, widest, c) := leadingBreaks steps widest c
      (b ++ more, widest, c)
    else ([], widest, c)

/-- The place after spaces up to a column. -/
def skipIndent (indent : Int) : (steps : Nat) → Cursor → Cursor
  | 0, c => c
  | steps + 1, c =>
    if (c.column : Int) < indent && c.peek = ' ' then skipIndent indent steps c.next else c

/-- Empty lines inside a block scalar of an indentation. -/
def blockBreaks (indent : Int) : (steps : Nat) → Cursor → List Char × Cursor
  | 0, c => ([], c)
  | steps + 1, c =>
    let c := skipIndent indent c.steps c
    if isBreak c.peek then
      let (b, c) := c.lineBreak
      let (more, c) := blockBreaks indent steps c
      (b ++ more, c)
    else ([], c)

/-- The lines of a block scalar, the line break after the last one, the empty lines after it, and
the place after those. `breaks` are the empty lines before. -/
def blockLines (folded : Bool) (indent : Int) :
    (steps : Nat) → (breaks : List Char) → Cursor → List Char × List Char × List Char × Cursor
  | 0, breaks, c => ([], [], breaks, c)
  | steps + 1, breaks, c =>
    if (c.column : Int) = indent && c.peek ≠ endMark then
      let startsText := c.peek ≠ ' ' && c.peek ≠ '\t'
      let (line, c) := c.span (!isBreakOrEnd ·)
      let (lineBreak, c) := c.lineBreak
      let (breaks', c) := blockBreaks indent c.steps c
      if (c.column : Int) = indent && c.peek ≠ endMark then
        let folds := folded && lineBreak = ['\n'] && startsText && c.peek ≠ ' ' && c.peek ≠ '\t'
        let joint := if folds then (if breaks'.isEmpty then [' '] else []) else lineBreak
        let (rest, last, tail, c) := blockLines folded indent steps breaks' c
        (breaks ++ line ++ joint ++ rest, last, tail, c)
      else (breaks ++ line, lineBreak, breaks', c)
    else ([], [], breaks, c)

/-- A block scalar, from its indicator on; `parent` is the indentation around it. -/
def blockScalar (folded : Bool) (parent : Int) (c : Cursor) : Except Fault (String × Cursor) := do
  let ((chomping, increment), c) ← blockMarks c.next
  if !isSpaceOrBreak c.peek then throw .invalid
  let c ← restOfLine c
  let least := max 1 (parent + 1)
  let steps := c.steps
  let (breaks, indent, c) := match increment with
    | some n =>
      let indent := least + n - 1
      let (breaks, c) := blockBreaks indent steps c
      (breaks, indent, c)
    | none =>
      let (breaks, widest, c) := leadingBreaks steps 0 c
      (breaks, max least widest, c)
  let (text, last, tail, c) := blockLines folded indent steps breaks c
  let ending := match chomping with
    | .strip => []
    | .clip => last
    | .keep => last ++ tail
  return (String.ofList (text ++ ending), c)

end ExtractionSchema.Yaml
