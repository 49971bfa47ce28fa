import ExtractionSchema.Text.Emoji

/-!
# Markup

Messages are written in a markup: a tag in brackets changes the look of what follows and is not
shown, and a backslash before a bracket takes its meaning away. A tag starts with a letter or one of
three signs. Between two tags, pictographs may go by their names.

* `escaped` is a text as markup that shows it, apart from pictographs.
* `rendered` is what a markup shows.
-/

namespace ExtractionSchema.CommandLine.Markup

/-! ## Tags -/

/-- Whether a character starts a tag. -/
def startsTag (c : Char) : Bool := ('a' ≤ c && c ≤ 'z') || c = '#' || c = '/' || c = '@'

/-- What follows an opening bracket: a tag up to its closing bracket, and the characters after it. -/
def readTag? : List Char → Option (List Char × List Char)
  | [] => none
  | c :: cs =>
    if startsTag c then
      match cs.dropWhile fun c => c ≠ '[' && c ≠ ']' with
      | ']' :: rest => some (c :: cs.takeWhile (fun c => c ≠ '[' && c ≠ ']') ++ [']'], rest)
      | _ => none
    else none

theorem length_lt_of_readTag? {cs tag rest : List Char} (h : readTag? cs = some (tag, rest)) :
    rest.length < cs.length := by
  cases cs with
  | nil => simp [readTag?] at h
  | cons c cs =>
    simp only [readTag?] at h
    have hd := (List.dropWhile_sublist (fun c => c ≠ '[' && c ≠ ']') (l := cs)).length_le
    split at h
    · split at h
      · rename_i r heq
        simp only [Option.some.injEq, Prod.mk.injEq] at h
        rw [heq, List.length_cons] at hd
        rw [List.length_cons, ← h.2]
        omega
      · simp at h
    · simp at h

/-! ## Writing -/

/-- Some backslashes. -/
def backslashes (n : Nat) : List Char := List.replicate n '\\'

/-- The characters as markup, after some backslashes. Each of them is doubled before a tag. -/
def escapedAfter (count : Nat) : List Char → List Char
  | [] => backslashes count
  | c :: cs =>
    if c = '\\' then escapedAfter (count + 1) cs
    else if c = '[' && (readTag? cs).isSome then
      backslashes (2 * count + 1) ++ '[' :: escapedAfter 0 cs
    else backslashes count ++ c :: escapedAfter 0 cs

/-- A text as markup. A single backslash at its end is doubled, lest it escapes what follows. -/
def escaped (s : String) : String :=
  let cs := escapedAfter 0 s.toList
  String.ofList <|
    match cs.reverse with
    | '\\' :: '\\' :: _ => cs
    | '\\' :: _ => cs ++ ['\\']
    | _ => cs

/-! ## Showing -/

/-- The pieces that markup shows, after some characters in reverse order and some backslashes. Two
backslashes before a tag show one; one more makes the tag itself be shown. -/
def piecesAfter (before : List Char) (count : Nat) (cs : List Char) : List (List Char) :=
  match cs with
  | [] => [(backslashes count ++ before).reverse]
  | c :: cs =>
    if c = '\\' then piecesAfter before (count + 1) cs
    else if c = '[' then
      match _h : readTag? cs with
      | none => piecesAfter (c :: (backslashes count ++ before)) 0 cs
      | some (tag, rest) =>
        before.reverse :: backslashes (count / 2) ::
          (if count % 2 = 1 then ['[' :: tag] else []) ++ piecesAfter [] 0 rest
    else piecesAfter (c :: (backslashes count ++ before)) 0 cs
termination_by cs.length
decreasing_by
  · simp
  · simp
  · have := length_lt_of_readTag? _h
    simp only [List.length_cons]
    omega
  · simp

/-- The characters without each backslash right before an opening bracket. -/
def withoutEscapes : List Char → List Char
  | '\\' :: '[' :: cs => '[' :: withoutEscapes cs
  | c :: cs => c :: withoutEscapes cs
  | [] => []

/-- Whether a character is never shown: bell, backspace, vertical tab, form feed and carriage
return. -/
def isDropped (c : Char) : Bool := [7, 8, 11, 12, 13].contains c.toNat

/-- What a piece shows. -/
def renderedPiece (piece : List Char) : List Char :=
  (Text.withEmoji (withoutEscapes piece)).filter (!isDropped ·)

/-- What a markup shows. Without an opening bracket nothing is escaped in it. -/
def rendered (markup : String) : String :=
  String.ofList ((piecesAfter [] 0 markup.toList).flatMap renderedPiece)

end ExtractionSchema.CommandLine.Markup
