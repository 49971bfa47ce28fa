import ExtractionSchema.Number.Basic
import ExtractionSchema.Value.Date

/-!
# Values of documents

Schemas, property lists, agent lists and extraction results are all read from documents, and a
document holds a `Value`: the values of JSON, and a few more that only YAML can write (dates,
moments, bytes, sets, pairs, mappings with keys that are no text, and values within themselves). An
object keeps its entries in the order in which they were written and holds each key once.

* `Value.get?` and `put` read and write an entry by its key; `put` keeps the place of a key that is
  there already and adds a new one at the end.
* `Value.isJson` says whether a value holds nothing but what JSON can write.
-/

namespace ExtractionSchema

/-- A value that YAML can write and JSON cannot. -/
inductive Foreign where
  | date (d : Date)
  | moment (t : Moment)
  | bytes (content : List UInt8)
deriving DecidableEq

/-- A key of an object. In JSON every key is a name. -/
inductive Key where
  | name (s : String)
  | null
  | bool (b : Bool)
  | number (n : Number)
  | foreign (x : Foreign)
deriving DecidableEq

/-- A value of a document. YAML can also write pairs of values, and a list or an object within
itself; where it comes again, `enclosing` stands for it. -/
inductive Value where
  | null
  | bool (b : Bool)
  | number (n : Number)
  | string (s : String)
  | list (items : List Value)
  | object (entries : List (Key × Value))
  | foreign (x : Foreign)
  | set (members : List Key)
  | pair (first second : Value)
  | enclosing (isList : Bool)

/-- The key as a value of its own. -/
def Key.value : Key → Value
  | .name s => .string s
  | .null => .null
  | .bool b => .bool b
  | .number n => .number n
  | .foreign x => .foreign x

/-- The key that a value is, if it is one. -/
def Value.key? : Value → Option Key
  | .null => some .null
  | .bool b => some (.bool b)
  | .number n => some (.number n)
  | .string s => some (.name s)
  | .foreign x => some (.foreign x)
  | .list _ | .object _ | .set _ | .pair _ _ | .enclosing _ => none

namespace Value

instance : Inhabited Value := ⟨.null⟩

/-- An integer. -/
abbrev int (i : Int) : Value := .number (.int i)

/-- The entries of an object, in their order. -/
abbrev Entries := List (Key × Value)

/-- Entries whose keys are names. -/
def named (fields : List (String × Value)) : Entries :=
  fields.map fun (name, v) => (.name name, v)

/-- An object whose keys are names. -/
def record (fields : List (String × Value)) : Value := .object (named fields)

@[simp] theorem named_nil : named [] = [] := rfl

@[simp] theorem named_cons (name : String) (v : Value) (fields : List (String × Value)) :
    named ((name, v) :: fields) = (.name name, v) :: named fields := rfl

@[simp] theorem named_append (fields more : List (String × Value)) :
    named (fields ++ more) = named fields ++ named more := List.map_append

/-- The list of some texts. -/
def strings (texts : List String) : Value := .list (texts.map .string)

/-! ## Equality -/

mutual

/-- Equality of values, with the order of entries and the kind of numbers. -/
def decEq : (v w : Value) → Decidable (v = w)
  | .null, w =>
    match w with
    | .null => isTrue rfl
    | .bool _ | .number _ | .string _ | .list _ | .object _ | .foreign _ | .set _
    | .pair _ _ | .enclosing _ => isFalse nofun
  | .bool b, w =>
    match w with
    | .bool b' => decidable_of_iff (b = b') (by simp)
    | .null | .number _ | .string _ | .list _ | .object _ | .foreign _ | .set _
    | .pair _ _ | .enclosing _ => isFalse nofun
  | .number n, w =>
    match w with
    | .number n' => decidable_of_iff (n = n') (by simp)
    | .null | .bool _ | .string _ | .list _ | .object _ | .foreign _ | .set _
    | .pair _ _ | .enclosing _ => isFalse nofun
  | .string s, w =>
    match w with
    | .string s' => decidable_of_iff (s = s') (by simp)
    | .null | .bool _ | .number _ | .list _ | .object _ | .foreign _ | .set _
    | .pair _ _ | .enclosing _ => isFalse nofun
  | .list vs, w =>
    match w with
    | .list ws =>
      match decEqList vs ws with
      | isTrue h => isTrue (h ▸ rfl)
      | isFalse h => isFalse fun e => h (Value.list.inj e)
    | .null | .bool _ | .number _ | .string _ | .object _ | .foreign _ | .set _
    | .pair _ _ | .enclosing _ => isFalse nofun
  | .object es, w =>
    match w with
    | .object fs =>
      match decEqEntries es fs with
      | isTrue h => isTrue (h ▸ rfl)
      | isFalse h => isFalse fun e => h (Value.object.inj e)
    | .null | .bool _ | .number _ | .string _ | .list _ | .foreign _ | .set _
    | .pair _ _ | .enclosing _ => isFalse nofun
  | .foreign x, w =>
    match w with
    | .foreign x' => decidable_of_iff (x = x') (by simp)
    | .null | .bool _ | .number _ | .string _ | .list _ | .object _ | .set _
    | .pair _ _ | .enclosing _ => isFalse nofun
  | .set ms, w =>
    match w with
    | .set ms' => decidable_of_iff (ms = ms') (by simp)
    | .null | .bool _ | .number _ | .string _ | .list _ | .object _ | .foreign _
    | .pair _ _ | .enclosing _ => isFalse nofun

  | .pair v v', w =>
    match w with
    | .pair u u' =>
      match decEq v u, decEq v' u' with
      | isTrue h, isTrue h' => isTrue (by rw [h, h'])
      | isFalse h, _ => isFalse fun e => h (Value.pair.inj e).1
      | _, isFalse h => isFalse fun e => h (Value.pair.inj e).2
    | .null | .bool _ | .number _ | .string _ | .list _ | .object _ | .foreign _ | .set _
    | .enclosing _ => isFalse nofun
  | .enclosing isList, w =>
    match w with
    | .enclosing isList' => decidable_of_iff (isList = isList') (by simp)
    | .null | .bool _ | .number _ | .string _ | .list _ | .object _ | .foreign _ | .set _
    | .pair _ _ => isFalse nofun

/-- Equality of lists of values. -/
def decEqList : (vs ws : List Value) → Decidable (vs = ws)
  | [], [] => isTrue rfl
  | [], _ :: _ => isFalse nofun
  | _ :: _, [] => isFalse nofun
  | v :: vs, w :: ws =>
    match decEq v w with
    | isFalse h => isFalse fun e => h (List.cons.inj e).1
    | isTrue h =>
      match decEqList vs ws with
      | isFalse h' => isFalse fun e => h' (List.cons.inj e).2
      | isTrue h' => isTrue (by rw [h, h'])

/-- Equality of entries. -/
def decEqEntries : (es fs : List (Key × Value)) → Decidable (es = fs)
  | [], [] => isTrue rfl
  | [], _ :: _ => isFalse nofun
  | _ :: _, [] => isFalse nofun
  | (k, v) :: es, (k', w) :: fs =>
    if hk : k = k' then
      match decEq v w with
      | isFalse h => isFalse fun e => h (Prod.mk.inj (List.cons.inj e).1).2
      | isTrue h =>
        match decEqEntries es fs with
        | isFalse h' => isFalse fun e => h' (List.cons.inj e).2
        | isTrue h' => isTrue (by rw [hk, h, h'])
    else isFalse fun e => hk (Prod.mk.inj (List.cons.inj e).1).1

end

instance : DecidableEq Value := decEq

/-! ## Entries -/

/-- The value of a key, if the key is there. -/
def lookup (key : Key) : Entries → Option Value
  | [] => none
  | (k, v) :: rest => if k = key then some v else lookup key rest

/-- The value of a name in an object; `none` for anything else than an object with that name. -/
def get? (v : Value) (name : String) : Option Value :=
  match v with
  | .object entries => lookup (.name name) entries
  | _ => none

/-- The value of a name, `null` when it is not there. -/
def getD (entries : Entries) (name : String) : Value := (lookup (.name name) entries).getD .null

/-- Whether a name is there. -/
def has (entries : Entries) (name : String) : Bool := (lookup (.name name) entries).isSome

/-- Sets the value of a key: in its place if the key is there, else at the end. -/
def put (key : Key) (v : Value) : Entries → Entries
  | [] => [(key, v)]
  | (k, w) :: rest => if k = key then (k, v) :: rest else (k, w) :: put key v rest

theorem lookup_append (key : Key) (es fs : Entries) :
    lookup key (es ++ fs) = (lookup key es).or (lookup key fs) := by
  induction es with
  | nil => rfl
  | cons e es ih =>
    obtain ⟨k, v⟩ := e
    by_cases h : k = key <;> simp [lookup, h, ih]

theorem mem_of_lookup {key : Key} {v : Value} {es : Entries} (h : lookup key es = some v) :
    (key, v) ∈ es := by
  induction es with
  | nil => simp [lookup] at h
  | cons e es ih =>
    obtain ⟨k, w⟩ := e
    by_cases hk : k = key
    · simp only [lookup, hk, if_true, Option.some.injEq] at h
      simp [hk, h]
    · simp only [lookup, hk, if_false] at h
      exact List.mem_cons_of_mem _ (ih h)

theorem lookup_put_self (key : Key) (v : Value) (es : Entries) :
    lookup key (put key v es) = some v := by
  induction es with
  | nil => simp [put, lookup]
  | cons e es ih =>
    obtain ⟨k, w⟩ := e
    by_cases h : k = key <;> simp [put, lookup, h, ih]

theorem lookup_put_of_ne {key other : Key} (h : other ≠ key) (v : Value) (es : Entries) :
    lookup other (put key v es) = lookup other es := by
  induction es with
  | nil => simp [put, lookup, Ne.symm h]
  | cons e es ih =>
    obtain ⟨k, w⟩ := e
    by_cases hk : k = key
    · subst hk
      simp [put, lookup, Ne.symm h]
    · simp only [put, hk, if_false, lookup, ih]

/-- Putting back the value that a key has changes nothing. -/
theorem put_eq_self_of_lookup {key : Key} {v : Value} {es : Entries}
    (h : lookup key es = some v) : put key v es = es := by
  induction es with
  | nil => simp [lookup] at h
  | cons e es ih =>
    obtain ⟨k, w⟩ := e
    by_cases hk : k = key
    · simp [lookup, hk] at h
      simp [put, hk, h]
    · simp only [lookup, hk, if_false] at h
      simp [put, hk, ih h]

/-- The text that a value is, if it is one. -/
def string? : Value → Option String
  | .string s => some s
  | _ => none

/-- Whether a value is an object. -/
def isObject : Value → Bool
  | .object _ | .enclosing false => true
  | _ => false

/-- Whether a condition on the value holds: everything but `null`, `false`, zero and the empty
text, list, object, byte sequence and set. -/
def truthy : Value → Bool
  | .null => false
  | .bool b => b
  | .number n => !n.same (.int 0)
  | .string s => s ≠ ""
  | .list items => !items.isEmpty
  | .object entries => !entries.isEmpty
  | .foreign (.bytes content) => !content.isEmpty
  | .foreign _ => true
  | .set members => !members.isEmpty
  | .pair _ _ | .enclosing _ => true

/-! ## Kinds -/

/-- The name of a value's kind, as reports give it. -/
def typeName : Value → String
  | .null => "null"
  | .bool _ => "boolean"
  | .number (.int _) => "integer"
  | .number (.float _) => "number"
  | .string _ => "string"
  | .list _ => "array"
  | .object _ => "object"
  | .foreign (.date _) => "date"
  | .foreign (.moment _) => "datetime"
  | .foreign (.bytes _) => "bytes"
  | .set _ => "set"
  | .pair _ _ => "array"
  | .enclosing isList => if isList then "array" else "object"

mutual

/-- Whether the value holds nothing but what JSON can write. -/
def isJson : Value → Bool
  | .null | .bool _ | .number _ | .string _ => true
  | .list items => isJsonList items
  | .object entries => isJsonEntries entries
  | .foreign _ | .set _ | .pair _ _ | .enclosing _ => false

/-- Whether every value of a list is one of JSON. -/
def isJsonList : List Value → Bool
  | [] => true
  | v :: vs => v.isJson && isJsonList vs

/-- Whether every key is a name and every value is one of JSON. -/
def isJsonEntries : List (Key × Value) → Bool
  | [] => true
  | (.name _, v) :: es => v.isJson && isJsonEntries es
  | (_, _) :: _ => false

end

end Value

end ExtractionSchema
