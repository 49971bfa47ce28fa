import ExtractionSchema.Yaml.Cursor
import ExtractionSchema.Yaml.Fault

/-!
# Tokens of YAML texts

What a YAML text is made of, and the readers of anchors, tags and directives. Scalars have a module
of their own; `Yaml.Lexer` puts the tokens in order.
-/

namespace ExtractionSchema.Yaml

/-- A tag as it is written: a handle of a tag directive with a suffix, or a whole tag. -/
inductive WrittenTag where
  | handled (handle suffix : String)
  | verbatim (tag : String)
deriving DecidableEq

/-- A part of a YAML text. -/
inductive Token where
  | versionDirective (major : Nat)
  | tagDirective (handle target : String)
  | otherDirective
  | documentStart
  | documentEnd
  | streamEnd
  | blockSequenceStart
  | blockMappingStart
  | blockEnd
  | flowSequenceStart
  | flowSequenceEnd
  | flowMappingStart
  | flowMappingEnd
  | blockEntry
  | flowEntry
  | key
  | value
  | alias (name : String)
  | anchor (name : String)
  | tag (written : WrittenTag)
  | scalar (text : String) (plain : Bool)
  /-- The text is not read any further. -/
  | fault (fault : Fault)
deriving DecidableEq

/-- Whether a character ends a directive's or a tag's word: a space, a break or the end. -/
def endsWord (c : Char) : Bool := isSpaceOrBreak c

/-- Fails unless a condition holds. -/
def expect (condition : Bool) : Except Fault Unit := if condition then .ok () else .error .invalid

/-- The name of an anchor or an alias, read after its indicator. -/
def anchorName (c : Cursor) : Except Fault (String × Cursor) := do
  let (name, c) := c.span isWordChar
  expect (!name.isEmpty && (isBlank c.peek || "?:,]\x7d%@`".contains c.peek))
  return (String.ofList name, c)

/-! ## Tags -/

/-- Whether a character may stand in a tag as it is. -/
def isTagChar (c : Char) : Bool := isWordChar c || ";/?:@&=+$,.!~*'()[]".contains c

/-- The bytes that follow percent signs. -/
def escapedBytes : (steps : Nat) → Cursor → Except Fault (List UInt8 × Cursor)
  | 0, _ => .error .invalid
  | steps + 1, c =>
    if c.peek = '%' then
      match Json.hexValue (c.peek 1), Json.hexValue (c.peek 2) with
      | some high, some low => do
        let (rest, c) ← escapedBytes steps (c.forward 3)
        return (UInt8.ofNat (16 * high + low) :: rest, c)
      | _, _ => .error .invalid
    else .ok ([], c)

/-- The parts of a tag: characters, and bytes behind percent signs. -/
def tagParts : (steps : Nat) → Cursor → Except Fault (List Char × Cursor)
  | 0, _ => .error .invalid
  | steps + 1, c => do
    let (plain, c) := c.span isTagChar
    if c.peek = '%' then
      let (bytes, c) ← escapedBytes c.steps c
      match String.fromUTF8? ⟨bytes.toArray⟩ with
      | none => throw .invalid
      | some s =>
        let (rest, c) ← tagParts steps c
        return (plain ++ s.toList ++ rest, c)
    else return (plain, c)

/-- The text of a tag after its handle; it must not be missing. -/
def tagText (c : Cursor) : Except Fault (String × Cursor) := do
  let (chars, after) ← tagParts c.steps c
  expect (after.index ≠ c.index)
  return (String.ofList chars, after)

/-- The handle of a tag: an exclamation mark, or two of them around a word. -/
def tagHandle (c : Cursor) : Except Fault (String × Cursor) := do
  expect (c.peek = '!')
  if c.peek 1 = ' ' then return ("!", c.next)
  let (word, c) := c.next.span isWordChar
  expect (c.peek = '!')
  return (String.ofList ('!' :: word ++ ['!']), c.next)

/-- Whether another exclamation mark comes before the next blank. -/
def hasHandle (c : Cursor) : Bool :=
  (c.rest.drop 1).find? (fun ch => ch = '!' || endsWord ch) = some '!'

/-- A tag, from its indicator on. -/
def writtenTag (c : Cursor) : Except Fault (WrittenTag × Cursor) := do
  let (written, c) ←
    if c.peek 1 = '<' then do
      let (tag, c) ← tagText (c.forward 2)
      expect (c.peek = '>')
      pure (WrittenTag.verbatim tag, c.next)
    else if isBlank (c.peek 1) then
      pure (WrittenTag.verbatim "!", c.next)
    else do
      let (handle, c) ← if hasHandle c then tagHandle c else pure ("!", c.next)
      let (suffix, c) ← tagText c
      pure (WrittenTag.handled handle suffix, c)
  expect (endsWord c.peek)
  return (written, c)

/-! ## Directives -/

/-- A number in a version. -/
def versionNumber (c : Cursor) : Except Fault (Nat × Cursor) := do
  let (digits, c) := c.span isDigit
  expect (!digits.isEmpty)
  if digitLimit < digits.length then throw (.noValue (.digits digits.length))
  return (digitsValue digits, c)

/-- The version after the name of a version directive. -/
def versionDirective (c : Cursor) : Except Fault (Token × Cursor) := do
  let (major, c) ← versionNumber c.skipSpaces
  expect (c.peek = '.')
  let (_, c) ← versionNumber c.next
  expect (endsWord c.peek)
  return (.versionDirective major, c)

/-- The handle and the tag it stands for, after the name of a tag directive. -/
def tagDirective (c : Cursor) : Except Fault (Token × Cursor) := do
  let (handle, c) ← tagHandle c.skipSpaces
  expect (c.peek = ' ')
  let (target, c) ← tagText c.skipSpaces
  expect (endsWord c.peek)
  return (.tagDirective handle target, c)

/-- A directive, from its indicator on, to the end of its line. -/
def directive (c : Cursor) : Except Fault (Token × Cursor) := do
  let (name, c) := c.next.span isWordChar
  expect (!name.isEmpty && endsWord c.peek)
  let (token, c) ←
    if name = "YAML".toList then versionDirective c
    else if name = "TAG".toList then tagDirective c
    else pure (.otherDirective, c.skip (!isBreakOrEnd ·))
  let c := c.skipComment
  expect (isBreakOrEnd c.peek)
  return (token, c.lineBreak.2)

end ExtractionSchema.Yaml
