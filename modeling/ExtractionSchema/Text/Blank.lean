/-!
# Blank characters

Two sets of blank characters are in use. `isBlank` is the wider one, which also counts the four
information separators; `isWhiteSpace` is the Unicode property. Text is trimmed of a set at both
ends.
-/

namespace ExtractionSchema.Text

/-- The Unicode property `White_Space`. -/
def isWhiteSpace (c : Char) : Bool :=
  let n := c.toNat
  (0x9 ≤ n && n ≤ 0xD) || n = 0x20 || n = 0x85 || n = 0xA0 || n = 0x1680 ||
    (0x2000 ≤ n && n ≤ 0x200A) || n = 0x2028 || n = 0x2029 || n = 0x202F || n = 0x205F ||
    n = 0x3000

/-- White space or an information separator, U+001C to U+001F. -/
def isBlank (c : Char) : Bool :=
  isWhiteSpace c || (0x1C ≤ c.toNat && c.toNat ≤ 0x1F)

/-- The characters without those of a set at either end. -/
def trimChars (p : Char → Bool) (cs : List Char) : List Char :=
  ((cs.dropWhile p).reverse.dropWhile p).reverse

/-- The text without the characters of a set at either end. -/
def trim (p : Char → Bool) (s : String) : String := String.ofList (trimChars p s.toList)

end ExtractionSchema.Text
