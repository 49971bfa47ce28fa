import ExtractionSchema.Value.Basic

/-!
# Equality by meaning

Allowed values are compared with what a record holds by meaning: numbers by value, whatever their
kind, moments by the instant they name, and objects without regard to the order of their entries.
Lists, pairs and byte sequences are compared item by item, whichever of the three they are. A truth
value never equals a number, except as a key.
-/

namespace ExtractionSchema

/-- The seconds and microseconds of a moment in its own calendar, as if it had no offset. -/
def Moment.localMicros (t : Moment) : Int :=
  let seconds := ((t.date.dayNumber * 24 + t.hour) * 60 + t.minute) * 60 + t.second
  seconds * 1000000 + t.microsecond

/-- Whether two moments are the same: both without offset and alike, or the same instant. -/
def Moment.same (t u : Moment) : Bool :=
  match t.offset, u.offset with
  | none, none => t.localMicros = u.localMicros
  | some m, some n => t.localMicros - m * 60000000 = u.localMicros - n * 60000000
  | _, _ => false

/-- Whether two values that only YAML can write are the same. -/
def Foreign.same : Foreign → Foreign → Bool
  | .moment t, .moment u => t.same u
  | x, y => x = y

/-- Whether two keys are the same: a truth value equals the number it counts as. -/
def Key.same : Key → Key → Bool
  | .number m, .number n => m.same n
  | .bool b, .number n | .number n, .bool b => n.same (.int (if b then 1 else 0))
  | .foreign x, .foreign y => x.same y
  | k, k' => k = k'

namespace Value

/-- The value of the first key that is the same as a key. -/
def lookupSame (key : Key) (entries : Entries) : Option Value :=
  (entries.find? fun e => e.1.same key).map (·.2)

/-- The items of a value that is a sequence: a list, a pair or bytes. -/
def sequence? : Value → Option (List Value)
  | .list items => some items
  | .pair first second => some [first, second]
  | .foreign (.bytes content) => some (content.map fun b => .int b.toNat)
  | _ => none

/-- Whether values are the numbers of some bytes. -/
def areBytes : List UInt8 → List Value → Bool
  | [], [] => true
  | b :: bs, .number n :: vs => n.same (.int b.toNat) && areBytes bs vs
  | _, _ => false

mutual

/-- Whether two values mean the same. -/
def equals : Value → Value → Bool
  | .null, .null => true
  | .bool b, .bool b' => b = b'
  | .number n, .number n' => n.same n'
  | .string s, .string s' => s = s'
  | .list vs, w =>
    match w.sequence? with
    | some ws => equalsAll vs ws
    | none => false
  | .pair u v, w =>
    match w.sequence? with
    | some [u', v'] => equals u u' && equals v v'
    | _ => false
  | .foreign (.bytes content), w => (w.sequence?.map (areBytes content)).getD false
  | .object es, .object fs => es.length = fs.length && equalsWithin es fs
  | .foreign x, .foreign x' => x.same x'
  | .set ms, .set ms' =>
    ms.all (fun m => ms'.any (m.same ·)) && ms'.all (fun m => ms.any (m.same ·))
  | _, _ => false

/-- Whether two lists mean the same, place by place. -/
def equalsAll : List Value → List Value → Bool
  | [], [] => true
  | v :: vs, w :: ws => equals v w && equalsAll vs ws
  | _, _ => false

/-- Whether every entry of the first list is in the second, with the same meaning. -/
def equalsWithin : List (Key × Value) → List (Key × Value) → Bool
  | [], _ => true
  | (k, v) :: es, fs =>
    (match lookupSame k fs with
      | some w => equals v w
      | none => false) && equalsWithin es fs

end

end Value

end ExtractionSchema
