import ExtractionSchema.Number.Rounding

/-!
# Shortest decimal text

A finite floating-point number is written with the fewest decimal digits that still read back as
the same binary64 number; of two texts with equally many digits the one nearer to the number wins.
Numbers from `0.0001` up to below `10 ^ 16` are written positionally, with a point and at least one
digit on either side of it; all others in scientific form, with a signed exponent of at least two
digits (`1e+16`, `1e-05`).
-/

namespace ExtractionSchema

/-- Digits of a positive decimal `0.d₁d₂… · 10 ^ point`, without a leading zero. -/
structure Decimal where
  digits : List Char
  point : Int

namespace Decimal

/-- The positive reals that read back as one binary64 number. -/
structure Basin where
  value : Rat
  low : Rat
  high : Rat
  closed : Bool

/-- The reals that round to the binary64 number `m · 2 ^ q`. The interval reaches half a unit to
either side, a quarter below a power of two, and holds its ends when the significand is even. -/
def basin (m : Nat) (q : Int) : Basin :=
  let unit := Floating.unitExponent ((m.log2 : Int) + q)
  let significand : Nat := m <<< (q - unit).toNat
  let ulp : Rat := (2 : Rat) ^ unit
  let value := (significand : Rat) * ulp
  let below := if significand = 1 <<< 52 ∧ -1074 < unit then ulp / 4 else ulp / 2
  { value, low := value - below, high := value + ulp / 2, closed := significand % 2 = 0 }

/-- Whether a real reads back as the number of the interval. -/
def Basin.holds (b : Basin) (x : Rat) : Bool :=
  if b.closed then b.low ≤ x && x ≤ b.high else b.low < x && x < b.high

/-- The integer `k` with `10 ^ k ≤ m · 2 ^ q < 10 ^ (k + 1)`. -/
def decimalExponent (m : Nat) (q : Int) (value : Rat) : Int :=
  let k := (((m.log2 : Int) + q) * 30103).fdiv 100000
  if (10 : Rat) ^ (k + 1) ≤ value then k + 1 else if value < (10 : Rat) ^ k then k - 1 else k

/-- The neighbour of the value on the grid of multiples of `10 ^ k` that reads back as it, the
nearer one if both do. -/
def onGrid (b : Basin) (k : Int) : Option Nat :=
  let step := (10 : Rat) ^ k
  let n := (b.value / step).floor.toNat
  let lower := (n : Rat) * step
  let upper := lower + step
  match b.holds lower && 0 < n, b.holds upper with
  | true, true =>
    let down := b.value - lower
    let up := upper - b.value
    some (if down < up || (down = up && n % 2 = 0) then n else n + 1)
  | true, false => some n
  | false, true => some (n + 1)
  | false, false => none

/-- The shortest decimal that reads back as `m · 2 ^ q`: the coarsest grid with a hit. A hit at the
next power of ten has zeros at its end, which are dropped. -/
def shortest (m : Nat) (q : Int) : Decimal :=
  let b := basin m q
  let top := decimalExponent m q b.value
  let hit := (List.range 17).findSome? fun (i : Nat) =>
    let k := top - (i : Int)
    (onGrid b k).map fun n => (n, k)
  let (n, k) := hit.getD ((b.value / (10 : Rat) ^ (top - 16)).floor.toNat, top - 16)
  let digits := Nat.toDigits 10 n
  { digits := (digits.reverse.dropWhile (· == '0')).reverse, point := digits.length + k }

/-- `n` zeros. -/
def zeros (n : Int) : List Char := List.replicate n.toNat '0'

/-- The exponent of the scientific form: signed, with two digits at least. -/
def exponentText (e : Int) : List Char :=
  let digits := Nat.toDigits 10 e.natAbs
  (if e < 0 then '-' else '+') :: (if digits.length < 2 then '0' :: digits else digits)

/-- The written form. -/
def text (d : Decimal) : List Char :=
  let size : Int := d.digits.length
  if -4 < d.point ∧ d.point ≤ 16 then
    if d.point ≤ 0 then '0' :: '.' :: (zeros (-d.point) ++ d.digits)
    else if size ≤ d.point then d.digits ++ zeros (d.point - size) ++ ['.', '0']
    else d.digits.take d.point.toNat ++ '.' :: d.digits.drop d.point.toNat
  else
    match d.digits with
    | [] => []
    | [c] => c :: 'e' :: exponentText (d.point - 1)
    | c :: rest => c :: '.' :: (rest ++ 'e' :: exponentText (d.point - 1))

end Decimal

/-- How the floating-point values without digits are spelled. -/
structure SpecialWords where
  nan : String
  infinity : String

/-- The written form of a floating-point number, with the given words for those without digits. -/
def Floating.text (words : SpecialWords) : Floating → String
  | .nan _ => words.nan
  | .infinity negative => (if negative then "-" else "") ++ words.infinity
  | .negativeZero => "-0.0"
  | .finite .zero => "0.0"
  | .finite (.ofOdd n k _) =>
    let digits := String.ofList (Decimal.shortest n.natAbs (-k)).text
    if n < 0 then "-" ++ digits else digits

end ExtractionSchema
