/-!
# Numbers of documents

A document holds two kinds of numbers: integers of any size and floating-point numbers. They are
compared exactly, by value, whatever their kinds: an integer is never rounded to a floating-point
number first. A finite floating-point number is a dyadic rational, so the order of the library's
`Dyadic` decides every comparison.

* `Number.lt`, `Number.same` are the order and the equality by value (`1` and `1.0` are the same).
* `Number.toInt?` reads a number without fraction as an integer.
-/

namespace ExtractionSchema

/-- Where a `nan` comes from: the word of JSON documents, the mark of YAML documents, or a text or a
sum that has no other value. -/
inductive NanSource where
  | json
  | yaml
  | computed
deriving DecidableEq

/-- A floating-point number. Zero has a sign; every other finite value is the dyadic it is. -/
inductive Floating where
  | nan (source : NanSource)
  | infinity (negative : Bool)
  | negativeZero
  | finite (value : Dyadic)
deriving DecidableEq

namespace Floating

instance : Inhabited Floating := ⟨.nan .computed⟩

/-- The order by value. No number is less than `nan`, and `nan` is less than none. -/
def lt : Floating → Floating → Bool
  | .nan _, _ => false
  | _, .nan _ => false
  | .infinity negative, .infinity negative' => negative && !negative'
  | .infinity negative, _ => negative
  | _, .infinity negative => !negative
  | .negativeZero, .negativeZero => false
  | .negativeZero, .finite y => decide (0 < y)
  | .finite x, .negativeZero => decide (x < 0)
  | .finite x, .finite y => decide (x < y)

/-- Equality by value, where the zeros are equal. The `nan` of a word or a mark equals itself only,
and a computed one nothing. -/
def same : Floating → Floating → Bool
  | .nan source, .nan source' => source = source' && source ≠ .computed
  | .negativeZero, .finite y => decide (y = 0)
  | .finite x, .negativeZero => decide (x = 0)
  | x, y => decide (x = y)

/-- The integer that the number is, when it has no fraction. -/
def toInt? : Floating → Option Int
  | .nan _ => none
  | .infinity _ => none
  | .negativeZero => some 0
  | .finite .zero => some 0
  | .finite (.ofOdd n k _) => if k ≤ 0 then some (n * (1 <<< k.natAbs : Nat)) else none

/-- Whether the number is finite and has no fraction. -/
def isIntegral (x : Floating) : Bool := x.toInt?.isSome

end Floating

/-- A number of a document: an integer of any size or a floating-point number. -/
inductive Number where
  | int (i : Int)
  | float (x : Floating)
deriving DecidableEq

namespace Number

instance : Inhabited Number := ⟨.int 0⟩

/-- The number as a floating-point value of unlimited precision: nothing is rounded. -/
def exact : Number → Floating
  | .int i => .finite (Dyadic.ofInt i)
  | .float x => x

/-- The order by value, across both kinds. -/
def lt (m n : Number) : Bool := m.exact.lt n.exact

/-- Equality by value, across both kinds. -/
def same (m n : Number) : Bool := m.exact.same n.exact

/-- The integer that the number is, when it has no fraction. -/
def toInt? : Number → Option Int
  | .int i => some i
  | .float x => x.toInt?

/-- Whether the number is finite and has no fraction. -/
def isIntegral (n : Number) : Bool := n.toInt?.isSome

end Number

end ExtractionSchema
