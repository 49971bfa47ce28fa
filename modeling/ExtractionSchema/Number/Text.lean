import ExtractionSchema.Number.Rounding

/-!
# Numbers as texts write them

Digits, signs and exponents, and the floating-point number that a text names: the one nearest to
the decimal that is written.
-/

namespace ExtractionSchema

/-- Whether a character is one of the ten ASCII digits. -/
def isDigit (c : Char) : Bool := '0' ≤ c && c ≤ '9'

/-- The number that some digits write. -/
def digitsValue (digits : List Char) : Nat :=
  digits.foldl (fun n c => 10 * n + (c.toNat - 48)) 0

/-- The digits at the start, and what is left after them. -/
def spanDigits (cs : List Char) : List Char × List Char :=
  (cs.takeWhile isDigit, cs.dropWhile isDigit)

/-- A sign at the start, and what follows it. -/
def splitSign : List Char → Bool × List Char
  | '-' :: rest => (true, rest)
  | '+' :: rest => (false, rest)
  | cs => (false, cs)

/-- The exponent, if an `e`, perhaps a sign, and a digit come next. -/
def readExponent : List Char → Option (Int × List Char)
  | e :: rest =>
    if e = 'e' ∨ e = 'E' then
      let (negative, rest) := splitSign rest
      match spanDigits rest with
      | ([], _) => none
      | (digits, rest) =>
        let n : Int := digitsValue digits
        some (if negative then -n else n, rest)
    else none
  | [] => none

/-- Digits, perhaps with a point among them, and perhaps an exponent. -/
def decimalOfChars (negative : Bool) (cs : List Char) : Option Floating :=
  let (whole, rest) := spanDigits cs
  let (fraction, rest) := match rest with
    | '.' :: rest => spanDigits rest
    | rest => ([], rest)
  if whole.isEmpty && fraction.isEmpty then none
  else
    let result (exponent : Int) : Floating :=
      Floating.ofDecimal negative (digitsValue (whole ++ fraction)) (exponent - fraction.length)
    match rest with
    | [] => some (result 0)
    | rest =>
      match readExponent rest with
      | some (exponent, []) => some (result exponent)
      | _ => none

/-- The number that characters write, the words for infinity and no number included. -/
def floatOfChars (cs : List Char) : Option Floating :=
  let (negative, cs) := splitSign cs
  let word := cs.map Char.toLower
  if word = "inf".toList ∨ word = "infinity".toList then some (.infinity negative)
  else if word = "nan".toList then some (.nan .computed)
  else decimalOfChars negative cs

/-! ## Arithmetic -/

namespace Floating

/-- The number of the other sign. -/
def negate : Floating → Floating
  | .nan source => .nan source
  | .infinity negative => .infinity !negative
  | .negativeZero => .finite 0
  | .finite x => if x = 0 then .negativeZero else .finite (-x)

/-- The binary64 number nearest to a dyadic. -/
def round (x : Dyadic) : Floating :=
  match x with
  | .zero => zero false
  | .ofOdd n k _ =>
    if 0 ≤ k then nearest (n < 0) n.natAbs (1 <<< k.toNat)
    else nearest (n < 0) (n.natAbs <<< (-k).toNat) 1

/-- The rounded product with a positive number. -/
def times (x : Floating) (y : Dyadic) : Floating :=
  match x with
  | .finite x => round (x * y)
  | x => x

/-- The rounded sum. -/
def add : Floating → Floating → Floating
  | .nan _, _ | _, .nan _ => .nan .computed
  | .infinity negative, .infinity negative' =>
    if negative = negative' then .infinity negative else .nan .computed
  | .infinity negative, _ | _, .infinity negative => .infinity negative
  | .negativeZero, y => y
  | x, .negativeZero => x
  | .finite x, .finite y => round (x + y)

end Floating

end ExtractionSchema
