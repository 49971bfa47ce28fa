/-!
# Decoding UTF-8

Bytes that are no text are told by the first byte of the first sequence that writes no character.

* `undecodable` finds that byte.
-/

namespace ExtractionSchema.Text

/-- Whether a byte continues a sequence. -/
def isContinuation (b : UInt8) : Bool := 0x80 ≤ b && b ≤ 0xBF

/-- Whether a second byte may follow a first one: neither a longer form than needed, nor a
surrogate, nor beyond the last character. -/
def mayFollow (first second : UInt8) : Bool :=
  isContinuation second &&
    (first ≠ 0xE0 || 0xA0 ≤ second) && (first ≠ 0xED || second ≤ 0x9F) &&
    (first ≠ 0xF0 || 0x90 ≤ second) && (first ≠ 0xF4 || second ≤ 0x8F)

/-- Number of bytes in a sequence that starts with a byte; 0 if none does. -/
def sequenceSize (b : UInt8) : Nat :=
  if b < 0x80 then 1
  else if b < 0xC2 then 0
  else if b < 0xE0 then 2
  else if b < 0xF0 then 3
  else if b < 0xF5 then 4
  else 0

/-- Number of bytes that write the first character; 0 if none do. -/
def characterSize : List UInt8 → Nat
  | [] => 0
  | b :: rest =>
    let size := sequenceSize b
    let more := rest.take (size - 1)
    let isWhole := more.length = size - 1 && (more.drop 1).all isContinuation &&
      more.head?.all (mayFollow b)
    if isWhole then size else 0

/-- The first byte that is not decoded, and its index. The first `skipped` bytes belong to the
character before. -/
def undecodableFrom : (index skipped : Nat) → List UInt8 → Option (UInt8 × Nat)
  | _, _, [] => none
  | index, skipped + 1, _ :: rest => undecodableFrom (index + 1) skipped rest
  | index, 0, b :: rest =>
    match characterSize (b :: rest) with
    | 0 => some (b, index)
    | size + 1 => undecodableFrom (index + 1) size rest

/-- The first byte that is not decoded, and its index; none if the bytes write a text. -/
def undecodable (content : List UInt8) : Option (UInt8 × Nat) := undecodableFrom 0 0 content

end ExtractionSchema.Text
