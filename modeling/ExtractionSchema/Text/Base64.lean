/-!
# Base64

Bytes as text: three bytes are four letters of six bits each, and the last group is filled up with
equals signs. Reading skips whatever is no letter and stops at the filling.
-/

namespace ExtractionSchema.Text.Base64

/-- The letters, in the order of the values they stand for. -/
def letters : List Char :=
  "ABCDEFGHIJKLMNOPQRSTUVWXYZabcdefghijklmnopqrstuvwxyz0123456789+/".toList

/-- The letter of a value below 64. -/
def letter (n : Nat) : Char := letters.getD n '='

/-- The bytes as letters. -/
def encode : List UInt8 → List Char
  | a :: b :: c :: rest =>
    let n := a.toNat * 65536 + b.toNat * 256 + c.toNat
    letter (n / 262144) :: letter (n / 4096 % 64) :: letter (n / 64 % 64) :: letter (n % 64) ::
      encode rest
  | [a, b] =>
    let n := a.toNat * 1024 + b.toNat * 4
    [letter (n / 4096), letter (n / 64 % 64), letter (n % 64), '=']
  | [a] =>
    let n := a.toNat * 16
    [letter (n / 64), letter (n % 64), '=', '=']
  | [] => []

/-- The values of the letters, and whether they end where filling completes a group. `position`
letters of the present group and `pads` signs of filling came before. -/
def values (position pads : Nat) : List Char → List Nat × Bool
  | [] => ([], false)
  | c :: rest =>
    if c = '=' then
      if 2 ≤ position && 4 ≤ position + pads + 1 then ([], true)
      else values position (if 2 ≤ position then pads + 1 else pads) rest
    else
      match letters.findIdx? (· = c) with
      | none => values position pads rest
      | some n =>
        let (more, filled) := values ((position + 1) % 4) 0 rest
        (n :: more, filled)

/-- The bytes of values of six bits each. -/
def group : List Nat → List UInt8
  | a :: b :: c :: d :: rest =>
    let n := a * 262144 + b * 4096 + c * 64 + d
    UInt8.ofNat (n / 65536) :: UInt8.ofNat (n / 256 % 256) :: UInt8.ofNat (n % 256) :: group rest
  | [a, b, c] =>
    let n := a * 4096 + b * 64 + c
    [UInt8.ofNat (n / 1024), UInt8.ofNat (n / 4 % 256)]
  | [a, b] => [UInt8.ofNat ((a * 64 + b) / 16)]
  | _ => []

/-- The bytes that a text writes; `none` if its last group is not complete. -/
def decode (cs : List Char) : Option (List UInt8) :=
  let (ns, filled) := values 0 0 cs
  if filled || ns.length % 4 = 0 then some (group ns) else none

end ExtractionSchema.Text.Base64
