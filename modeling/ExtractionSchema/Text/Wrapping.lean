import ExtractionSchema.Text.Blank
import ExtractionSchema.Text.Cells

/-!
# Wrapped texts

A text is laid out in lines of a width. Its own line feeds end lines, tabs become spaces up to the
next multiple of eight cells, and a word goes to a new line when it does not fit. What becomes of a
word that no line holds depends on the place: it is broken, or it is cut and marked.

* `naturalWidth` is the width of the longest line of a text as it stands.
* `laidOut` are the lines of a text.
-/

namespace ExtractionSchema.Text

/-! ## Width -/

/-- Whether a character separates lines. -/
def isLineEnd (c : Char) : Bool :=
  let n := c.toNat
  (0xA ≤ n && n ≤ 0xD) || (0x1C ≤ n && n ≤ 0x1E) || n = 0x85 || n = 0x2028 || n = 0x2029

/-- The largest of some numbers. -/
def largest (numbers : List Nat) : Nat := numbers.foldl max 0

/-- The width of the longest line of a text. -/
def naturalWidth (s : String) : Nat := largest ((s.toList.splitOnP isLineEnd).map cellsOf)

/-! ## Tabs -/

/-- Parts between tabs put together with spaces in the place of tabs; the first part starts in a
column. -/
def joinTabbed (column : Nat) : List (List Char) → List Char
  | [] => []
  | [part] => part
  | part :: parts =>
    let part := part ++ [' ']
    let column := column + cellsOf part
    let spaces := (8 - column % 8) % 8
    part ++ List.replicate spaces ' ' ++ joinTabbed (column + spaces) parts

/-- The characters with tabs as spaces. -/
def expandTabs (cs : List Char) : List Char := joinTabbed 0 (cs.splitOn '\t')

/-! ## Words -/

/-- The words of a line with the blanks after each, and with the blanks before the first one. A line
of blanks holds no word. -/
def wordsOf (cs : List Char) : List (List Char) :=
  match cs.splitBy fun a b => !isBlank a || isBlank b with
  | [] => []
  | [word] => if word.all isBlank then [] else [word]
  | word :: next :: words =>
    if word.all isBlank then (word ++ next) :: words else word :: next :: words

/-- The characters without blanks at their end. -/
def withoutTrailing (cs : List Char) : List Char := (cs.reverse.dropWhile isBlank).reverse

/-! ## Lines -/

/-- What becomes of a word that is wider than a line. -/
inductive Overflow where
  /-- The word is broken. -/
  | fold
  /-- The word is cut and marked. -/
  | ellipsis
deriving DecidableEq

/-- Lines in the making, all in reverse order: those that are done, and the words of the one that
grows, with the number of cells that count as taken in it. -/
structure Draft where
  done : List (List Char) := []
  words : List (List Char) := []
  taken : Nat := 0

namespace Draft

/-- All lines so far, in reverse order. -/
def reversed (d : Draft) : List (List Char) := d.words.reverse.flatten :: d.done

/-- Starts a new line with a word, unless nothing has been written. -/
def startLine (word : List Char) (d : Draft) : Draft :=
  ⟨if d.words.isEmpty then d.done else d.reversed, [word], cellsOf word⟩

/-- Adds a word. -/
def add (overflow : Overflow) (width : Nat) (d : Draft) (word : List Char) : Draft :=
  let needed := cellsOf (withoutTrailing word)
  if d.taken + needed ≤ width then
    { d with words := word :: d.words, taken := d.taken + cellsOf word }
  else if width < needed && overflow = .fold then
    (folded width word).foldl (fun d piece => d.startLine piece) d
  else d.startLine word

/-- All lines. -/
def lines (d : Draft) : List (List Char) := d.reversed.reverse

end Draft

/-- The lines that the words of a line are put on. -/
def broken (overflow : Overflow) (width : Nat) (cs : List Char) : List (List Char) :=
  match wordsOf cs with
  | [] => [cs]
  | words => (words.foldl (Draft.add overflow width) {}).lines

/-- The characters without the blanks at their end that are more than a width. -/
def withoutExcess (width : Nat) (cs : List Char) : List Char :=
  let blanks := cs.length - (withoutTrailing cs).length
  cs.take (cs.length - min blanks (cs.length - width))

/-- The characters within a width. -/
def bounded (overflow : Overflow) (width : Nat) (cs : List Char) : List Char :=
  if cellsOf cs ≤ width then cs
  else
    match overflow with
    | .fold => cut width cs
    | .ellipsis => cut (width - 1) cs ++ ['…']

/-- The lines of a text in a width. -/
def laidOut (overflow : Overflow) (width : Nat) (s : String) : List String :=
  (s.toList.splitOn '\n').flatMap fun line =>
    (broken overflow width (expandTabs line)).map fun cs =>
      String.ofList (bounded overflow width (withoutExcess width cs))

end ExtractionSchema.Text
