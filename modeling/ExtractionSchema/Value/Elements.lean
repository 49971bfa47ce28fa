import ExtractionSchema.Value.Literal

/-!
# Elements of values

What a value holds when it is gone through: the items of a list, a pair or a set, the keys of an
object, the characters of a text, the numbers of bytes. Any other value cannot be gone through.

* `Value.elements` gives the elements.
-/

namespace ExtractionSchema

/-- A value that cannot be gone through, known by its class. -/
structure NoElements where
  className : String
deriving DecidableEq

/-- What a message says about a value that cannot be gone through. -/
def NoElements.message (e : NoElements) : String := s!"'{e.className}' object is not iterable"

/-- The elements of a value. -/
def Value.elements : Value → Except NoElements (List Value)
  | .list items => .ok items
  | .pair first second => .ok [first, second]
  | .set members => .ok (members.map Key.value)
  | .object entries => .ok (entries.map fun (k, _) => k.value)
  | .string s => .ok (s.toList.map fun c => .string c.toString)
  | .foreign (.bytes content) => .ok (content.map fun b => .int b.toNat)
  | v => .error ⟨v.className⟩

end ExtractionSchema
