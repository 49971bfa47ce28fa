import ExtractionSchema.Value.Json.Reader

/-!
# Tags of YAML nodes

A tag says what a node is. A plain scalar without a tag gets one from its text: words for truth
values and for nothing, integers, floating-point numbers, moments, and two marks with a meaning in
mappings. Anything else is text.
-/

namespace ExtractionSchema.Yaml

/-- What a node is. -/
inductive Tag where
  | text
  | null
  | bool
  | int
  | float
  | binary
  | moment
  | merge
  | value
  | sequence
  | mapping
  | set
  | pairs
  | other
deriving DecidableEq

namespace Tag

/-- The tags that have a name, below the common start of their names. -/
def names : List (String × Tag) :=
  [("str", .text), ("null", .null), ("bool", .bool), ("int", .int), ("float", .float),
    ("binary", .binary), ("timestamp", .moment), ("merge", .merge), ("value", .value),
    ("seq", .sequence), ("map", .mapping), ("set", .set), ("omap", .pairs), ("pairs", .pairs)]

/-- The tag of a whole name. -/
def ofText (name : String) : Tag :=
  ((names.map fun (short, tag) => ("tag:yaml.org,2002:" ++ short, tag)).lookup name).getD .other

/-! ## Texts of plain scalars

Each reader takes what its form allows and gives what is left. -/

/-- A sign may stand here. -/
def skipSign : List Char → List Char
  | '-' :: rest | '+' :: rest => rest
  | cs => cs

/-- Whether a character is a digit or an underscore. -/
def isDigitOrGap (c : Char) : Bool := isDigit c || c = '_'

/-- Whether characters are digits of a base and underscores, at least one of them. -/
def isDigits (p : Char → Bool) (cs : List Char) : Bool :=
  !cs.isEmpty && cs.all fun c => p c || c = '_'

/-- Whether characters are groups of a colon and one or two digits below 60; at least one. -/
def isSixties : List Char → Bool
  | [':', d] => isDigit d
  | ':' :: d :: ':' :: rest => isDigit d && isSixties (':' :: rest)
  | ':' :: d :: e :: rest =>
    '0' ≤ d && d ≤ '5' && isDigit e && (rest.isEmpty || isSixties rest)
  | _ => false

/-- Whether a text has a form of an integer. -/
def isInt (s : List Char) : Bool :=
  match skipSign s with
  | '0' :: 'b' :: rest => isDigits (fun c => c = '0' || c = '1') rest
  | '0' :: 'x' :: rest => isDigits (fun c => (Json.hexValue c).isSome) rest
  | ['0'] => true
  | '0' :: rest => isDigits (fun c => '0' ≤ c && c ≤ '7') rest
  | c :: rest =>
    isDigit c &&
      (let more := rest.dropWhile isDigitOrGap
       more.isEmpty || isSixties more)
  | [] => false

/-- Whether characters are nothing or an exponent with a sign. -/
def isExponent : List Char → Bool
  | [] => true
  | e :: sign :: digits =>
    (e = 'e' || e = 'E') && (sign = '+' || sign = '-') && !digits.isEmpty && digits.all isDigit
  | _ => false

/-- Whether a text has a form of a floating-point number. -/
def isFloat (s : List Char) : Bool :=
  let body := skipSign s
  let isSigned := body.length ≠ s.length
  match body with
  | '.' :: rest =>
    let word := String.ofList rest
    ["inf", "Inf", "INF"].contains word ||
      (!isSigned &&
        (["nan", "NaN", "NAN"].contains word ||
          (match rest with
            | d :: _ => isDigit d && isExponent (rest.dropWhile isDigitOrGap)
            | [] => false)))
  | d :: rest =>
    isDigit d &&
      (match rest.dropWhile isDigitOrGap with
        | '.' :: more => isExponent (more.dropWhile isDigitOrGap)
        | more =>
          isSixties (more.takeWhile (· ≠ '.')) &&
            (match more.dropWhile (· ≠ '.') with
              | '.' :: fraction => fraction.all isDigitOrGap
              | _ => false))
  | [] => false

/-- The fields of a date or a moment as they are written. -/
structure WrittenMoment where
  year : List Char
  month : List Char
  day : List Char
  /-- Hour, minute, second and the digits after the second's point. -/
  clock : Option (List Char × List Char × List Char × List Char) := none
  /-- Whether the offset is negative, its hours and its minutes. -/
  offset : Option (Bool × List Char × List Char) := none

/-- A number of digits, from `least` up to two. -/
def takeDigits (least : Nat) (cs : List Char) : Option (List Char × List Char) :=
  let digits := (cs.take 2).takeWhile isDigit
  if digits.length < least then none else some (digits, cs.drop digits.length)

/-- What follows a mark. -/
def after (mark : Char) : List Char → Option (List Char)
  | c :: rest => if c = mark then some rest else none
  | [] => none

/-- Reads the offset at the end of a moment, if the characters are one. -/
def readOffset (cs : List Char) : Option (Option (Bool × List Char × List Char)) :=
  match cs.dropWhile fun c => c = ' ' || c = '\t' with
  | [] => if cs.isEmpty then some none else none
  | ['Z'] => some (some (false, ['0'], []))
  | sign :: rest => do
    if sign ≠ '+' && sign ≠ '-' then none
    let (hours, rest) ← takeDigits 1 rest
    match rest with
    | [] => some (some (sign = '-', hours, []))
    | _ =>
      let (minutes, rest) ← takeDigits 2 (← after ':' rest)
      if rest.isEmpty then some (some (sign = '-', hours, minutes)) else none

/-- Reads a text as a date or a moment. `strict` refuses a date of one digit for month or day. -/
def readMoment (strict : Bool) (cs : List Char) : Option WrittenMoment := do
  let year := (cs.take 4).takeWhile isDigit
  if year.length ≠ 4 then none
  let (month, rest) ← takeDigits 1 (← after '-' (cs.drop 4))
  let (day, rest) ← takeDigits 1 (← after '-' rest)
  let date : WrittenMoment := { year, month, day }
  if rest.isEmpty then
    if strict && (month.length ≠ 2 || day.length ≠ 2) then none else return date
  let clock ← match rest with
    | 'T' :: rest | 't' :: rest => some rest
    | c :: _ =>
      if c = ' ' || c = '\t' then some (rest.dropWhile fun c => c = ' ' || c = '\t') else none
    | [] => none
  let (hour, rest) ← takeDigits 1 clock
  let (minute, rest) ← takeDigits 2 (← after ':' rest)
  let (second, rest) ← takeDigits 2 (← after ':' rest)
  let (fraction, rest) := match rest with
    | '.' :: rest => spanDigits rest
    | rest => ([], rest)
  let offset ← readOffset rest
  return { date with clock := some (hour, minute, second, fraction), offset }

/-- The words for truth values. -/
def truthWords : List (String × Bool) :=
  ["yes", "Yes", "YES", "true", "True", "TRUE", "on", "On", "ON"].map (·, true) ++
    ["no", "No", "NO", "false", "False", "FALSE", "off", "Off", "OFF"].map (·, false)

/-- The words for nothing. -/
def nullWords : List String := ["", "~", "null", "Null", "NULL"]

/-- The text without a line feed at its end, which does not count unless it is all there is. -/
def withoutEnd (s : String) : String :=
  match s.toList.reverse with
  | '\n' :: c :: rest => String.ofList (c :: rest).reverse
  | _ => s

/-- The tag of a plain scalar. -/
def ofPlain (s : String) : Tag :=
  let s := withoutEnd s
  let cs := s.toList
  if (truthWords.lookup s).isSome then .bool
  else if isFloat cs then .float
  else if isInt cs then .int
  else if s = "<<" then .merge
  else if nullWords.contains s then .null
  else if (readMoment true cs).isSome then .moment
  else if s = "=" then .value
  else .text

end Tag

end ExtractionSchema.Yaml
