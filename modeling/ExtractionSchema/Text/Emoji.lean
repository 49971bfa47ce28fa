import ExtractionSchema.Text.Blank
import ExtractionSchema.Text.EmojiNames
import ExtractionSchema.Text.Lowercase

/-!
# Pictographs by name

A text may name a pictograph between two colons, in any case: `:smile:`. A name may ask for a skin
tone, and at its end for the look of an emoji or that of a text. A name that no pictograph has stays
as it is, with its colons.

* `emoji?` is the pictograph of a name.
* `withEmoji` is a text with all named pictographs in their places.
-/

namespace ExtractionSchema.Text

/-! ## Names -/

/-- The pictograph of a name, and whether it also exists with a skin tone. -/
structure EmojiName where
  name : String
  emoji : List Char
  hasTones : Bool

/-- The character of a code point in hexadecimal digits. -/
def charOfHex (digits : List Char) : Char :=
  Char.ofNat (digits.foldl (fun n c =>
    n * 16 + (if c.isDigit then c.toNat - '0'.toNat else c.toNat - 'A'.toNat + 10)) 0)

/-- The names of an entry. -/
def namesOfEntry (entry : List Char) : List EmojiName :=
  match entry.splitOn ' ' with
  | [] => []
  | codes :: names =>
    let emoji := (codes.splitOn '-').map charOfHex
    names.map fun name =>
      if name.getLast? = some '~' then ⟨String.ofList name.dropLast, emoji, true⟩
      else ⟨String.ofList name, emoji, false⟩

/-- The names of all pictographs. -/
def emojiNames : List EmojiName :=
  emojiEntries.toList.flatMap fun line => (line.toList.splitOn ';').flatMap namesOfEntry

/-- The skin tones: how the name of a pictograph ends that has one, and the character for it. -/
def skinTones : List (String × Char) :=
  [("_light_skin_tone", Char.ofNat 0x1F3FB), ("_medium-light_skin_tone", Char.ofNat 0x1F3FC),
    ("_medium_skin_tone", Char.ofNat 0x1F3FD), ("_medium-dark_skin_tone", Char.ofNat 0x1F3FE),
    ("_dark_skin_tone", Char.ofNat 0x1F3FF)]

/-- A pictograph with a skin tone, which stands after its first character in the place of a
selector. -/
def withTone (tone : Char) : List Char → List Char
  | [] => []
  | c :: cs => c :: tone :: (if cs.head? = some '\ufe0f' then cs.tail else cs)

/-- The text before an ending that it has. -/
def before? (ending : String) (s : String) : Option String :=
  if ending.toList.isSuffixOf s.toList then
    some (String.ofList (s.toList.take (s.length - ending.length)))
  else none

/-- The pictograph of a name in lower case. -/
def emoji? (name : String) : Option (List Char) :=
  match emojiNames.find? (·.name = name) with
  | some found => some found.emoji
  | none => skinTones.findSome? fun (ending, tone) => do
    let base ← before? ending name
    let found ← emojiNames.find? fun e => e.hasTones && e.name = base
    return withTone tone found.emoji

/-! ## Texts -/

/-- The looks that a name may ask for: how it ends, and the character that asks for the look. -/
def looks : List (String × Char) := [("-emoji", '\ufe0f'), ("-text", '\ufe0e')]

/-- What the characters between two colons stand for. -/
def named? (code : List Char) : Option (List Char) :=
  let code := String.ofList code
  let asked := looks.findSome? fun (ending, look) =>
    (before? ending code).map fun name => (name, [look])
  let (name, look) := asked.getD (code, [])
  (emoji? (lowercase name)).map (· ++ look)

/-- The characters up to the next colon and those after it. A blank ends the search. -/
def splitAtColon : List Char → Option (List Char × List Char)
  | [] => none
  | c :: cs =>
    if c = ':' then some ([], cs)
    else if isBlank c then none
    else (splitAtColon cs).map fun (code, rest) => (c :: code, rest)

theorem length_lt_of_splitAtColon {cs code rest : List Char}
    (h : splitAtColon cs = some (code, rest)) : rest.length < cs.length := by
  induction cs generalizing code with
  | nil => simp [splitAtColon] at h
  | cons c cs ih =>
    simp only [splitAtColon] at h
    split at h
    · simp only [Option.some.injEq, Prod.mk.injEq] at h
      simp [← h.2]
    · split at h
      · simp at h
      · obtain ⟨⟨code', rest'⟩, hr, he⟩ := Option.map_eq_some_iff.mp h
        simp only [Prod.mk.injEq] at he
        have := ih (he.2 ▸ hr)
        simp only [List.length_cons]
        omega

/-- The characters with all named pictographs in their places. -/
def withEmoji (cs : List Char) : List Char :=
  match cs with
  | [] => []
  | c :: cs =>
    if c = ':' then
      match _h : splitAtColon cs with
      | none => c :: withEmoji cs
      | some (code, rest) => (named? code).getD (':' :: (code ++ [':'])) ++ withEmoji rest
    else c :: withEmoji cs
termination_by cs.length
decreasing_by
  · simp
  · have := length_lt_of_splitAtColon _h
    simp only [List.length_cons]
    omega
  · simp

end ExtractionSchema.Text
