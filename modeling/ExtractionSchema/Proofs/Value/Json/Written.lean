import ExtractionSchema.Proofs.Value.Document
import ExtractionSchema.Proofs.Value.Json.Numbers
import ExtractionSchema.Proofs.Value.Json.Strings

/-!
# The shape of written JSON text

Floating-point numbers aside, JSON text holds exactly `null`, truth values, integers, texts, lists,
and objects whose keys are names. A value is written before what follows it, and its text starts
with a character that the reader takes for the start of a value.

* `Value.IsFloatFree` singles these values out.
* `Value.length_le_write`: what follows a value is no longer than both together.
* `Value.IsFloatFree.startsValue` says how a written value starts.
-/

namespace ExtractionSchema

namespace Value

/-! ## Values without floating-point numbers -/

/-- A value of JSON without floating-point numbers: the keys of an object are names, each of them
once. -/
inductive IsFloatFree : Value → Prop
  | null : IsFloatFree .null
  | bool (b : Bool) : IsFloatFree (.bool b)
  | int (i : Int) : IsFloatFree (.int i)
  | string (s : String) : IsFloatFree (.string s)
  | list {vs : List Value} (h : ∀ v ∈ vs, IsFloatFree v) : IsFloatFree (.list vs)
  | record {fields : List (String × Value)} (hkeys : (fields.map Prod.fst).Nodup)
      (h : ∀ field ∈ fields, IsFloatFree field.2) : IsFloatFree (.record fields)

theorem IsFloatFree.of_mem_list {vs : List Value} (h : (Value.list vs).IsFloatFree) :
    ∀ v ∈ vs, v.IsFloatFree := by
  generalize hv : Value.list vs = v at h
  cases h with
  | list hvs =>
    cases hv
    exact hvs
  | _ => cases hv

theorem IsFloatFree.of_mem_entries {es : Entries} (h : (Value.object es).IsFloatFree) :
    ∀ e ∈ es, e.2.IsFloatFree := by
  generalize hv : Value.object es = v at h
  cases h with
  | record _ hfields =>
    cases hv
    rwa [named, List.forall_mem_map]
  | _ => cases hv

theorem IsFloatFree.isDocument {v : Value} (h : v.IsFloatFree) : v.isDocument = true := by
  induction h with
  | null | bool | int | string => rfl
  | list hvs ih => exact isDocument_list.mpr ih
  | @record fields hkeys hfields ih =>
    have hinjective : Function.Injective Key.name := fun _ _ heq => Key.name.inj heq
    have hmap : (named fields).map Prod.fst = (fields.map Prod.fst).map Key.name := by
      rw [named, List.map_map, List.map_map]
      rfl
    rw [Value.record, isDocument_object, hmap]
    refine ⟨hkeys.map hinjective, ?_⟩
    rw [named, List.forall_mem_map]
    exact fun field hfield => ⟨⟨_, rfl⟩, ih field hfield⟩

/-! ## Obstacles -/

theorem obstacle_list_eq_none {vs : List Value} :
    (Value.list vs).obstacle = none ↔ ∀ v ∈ vs, v.obstacle = none := by
  rw [obstacle]
  induction vs with
  | nil => simp [obstacleIn]
  | cons v vs ih => simp [obstacleIn, ih]

theorem obstacle_object_eq_none {es : Entries} : (Value.object es).obstacle = none ↔
    ∀ e ∈ es, e.1.obstacle = none ∧ e.2.obstacle = none := by
  rw [obstacle]
  induction es with
  | nil => simp [obstacleInEntries]
  | cons e es ih =>
    obtain ⟨k, v⟩ := e
    simp [obstacleInEntries, ih, and_assoc]

theorem obstacle_record_eq_none {fields : List (String × Value)} :
    (Value.record fields).obstacle = none ↔ ∀ field ∈ fields, field.2.obstacle = none := by
  rw [record, obstacle_object_eq_none, named, List.forall_mem_map]
  simp [Key.obstacle]

theorem hasTooManyDigits_of_obstacle {i : Int} (h : (Value.int i).obstacle = none) :
    hasTooManyDigits i = false := by
  rw [obstacle, Number.obstacle] at h
  cases hdigits : hasTooManyDigits i with
  | false => rfl
  | true => simp [hdigits] at h

mutual

/-- Nothing stands in the way of writing a value of JSON that can be shown. -/
theorem obstacle_eq_none : (v : Value) → v.isJson = true → v.isShowable = true → v.obstacle = none
  | .null, _, _ | .bool _, _, _ | .string _, _, _ | .number (.float _), _, _ => rfl
  | .number (.int i), _, h => by
    rw [isShowable, Number.isShowable, Bool.not_eq_true'] at h
    rw [obstacle, Number.obstacle, h]
    rfl
  | .list items, hjson, h => obstacleIn_eq_none items hjson h
  | .object entries, hjson, h => obstacleInEntries_eq_none entries hjson h
  | .foreign _, hjson, _ | .set _, hjson, _ | .pair _ _, hjson, _ | .enclosing _, hjson, _ => by
    cases hjson

theorem obstacleIn_eq_none : (vs : List Value) → isJsonList vs = true → areShowable vs = true →
    obstacleIn vs = none
  | [], _, _ => rfl
  | v :: vs, hjson, h => by
    rw [isJsonList, Bool.and_eq_true] at hjson
    rw [areShowable, Bool.and_eq_true] at h
    rw [obstacleIn, obstacle_eq_none v hjson.1 h.1, obstacleIn_eq_none vs hjson.2 h.2]
    rfl

theorem obstacleInEntries_eq_none : (es : Entries) → isJsonEntries es = true →
    areShowableEntries es = true → obstacleInEntries es = none
  | [], _, _ => rfl
  | (.name _, v) :: es, hjson, h => by
    rw [isJsonEntries, Bool.and_eq_true] at hjson
    rw [areShowableEntries, Bool.and_eq_true, Bool.and_eq_true] at h
    rw [obstacleInEntries, obstacle_eq_none v hjson.1 h.1.2,
      obstacleInEntries_eq_none es hjson.2 h.2]
    rfl
  | (.null, _) :: _, hjson, _ | (.bool _, _) :: _, hjson, _ | (.number _, _) :: _, hjson, _
  | (.foreign _, _) :: _, hjson, _ => by cases hjson

end

/-! ## Lengths -/

theorem length_writeString (s : String) (rest : List Char) :
    (writeString s rest).length = (s.toList.flatMap jsonChar).length + rest.length + 2 := by
  simp only [writeString, List.length_cons, List.length_append]
  omega

mutual

/-- A value is written before what follows it. -/
theorem length_le_write : (v : Value) → (level : Option Nat) → (rest : List Char) →
    rest.length ≤ (write level v rest).length
  | .null, level, rest | .bool true, level, rest | .bool false, level, rest
  | .number _, level, rest => by
    simp only [write, List.length_append]
    omega
  | .string _, level, rest | .foreign _, level, rest | .set _, level, rest
  | .enclosing _, level, rest => by
    simp only [write, length_writeString]
    omega
  | .list [], level, rest | .object [], level, rest => by
    simp only [write, List.length_cons]
    omega
  | .list (v :: vs), level, rest => by
    have hfirst := length_le_write v (inner level) (writeItems level vs rest)
    have hmore := length_lt_writeItems vs level rest
    simp only [write, List.length_cons, List.length_append]
    omega
  | .object ((k, v) :: es), level, rest => by
    have hfirst := length_le_write v (inner level) (writeEntries level es rest)
    have hmore := length_lt_writeEntries es level rest
    simp only [write, length_writeString, List.length_cons, List.length_append]
    omega
  | .pair first second, level, rest => by
    have hsecond := length_le_write second (inner level) ((layout level).closing ++ ']' :: rest)
    have hfirst := length_le_write first (inner level)
      ((layout level).between ++ write (inner level) second ((layout level).closing ++ ']' :: rest))
    simp only [write, List.length_cons, List.length_append] at hfirst hsecond ⊢
    omega

theorem length_lt_writeItems : (vs : List Value) → (level : Option Nat) → (rest : List Char) →
    rest.length < (writeItems level vs rest).length
  | [], level, rest => by
    simp only [writeItems, List.length_append, List.length_cons]
    omega
  | v :: vs, level, rest => by
    have hfirst := length_le_write v (inner level) (writeItems level vs rest)
    have hmore := length_lt_writeItems vs level rest
    simp only [writeItems, List.length_append]
    omega

theorem length_lt_writeEntries : (es : List (Key × Value)) → (level : Option Nat) →
    (rest : List Char) → rest.length < (writeEntries level es rest).length
  | [], level, rest => by
    simp only [writeEntries, List.length_append, List.length_cons]
    omega
  | (k, v) :: es, level, rest => by
    have hfirst := length_le_write v (inner level) (writeEntries level es rest)
    have hmore := length_lt_writeEntries es level rest
    simp only [writeEntries, length_writeString, List.length_append, List.length_cons]
    omega

end

/-! ## First characters -/

/-- The first of some characters is one with which a value starts, and none that the reader takes
for something else or that belongs to a fence. -/
def StartsValue (cs : List Char) : Prop :=
  ∃ c rest, cs = c :: rest ∧ Json.isBlank c = false ∧ c ≠ ']' ∧ c ≠ '\uFEFF' ∧ c ≠ '\x60'

theorem startsValue_cons {c : Char} (rest : List Char)
    (h : Json.isBlank c = false ∧ c ≠ ']' ∧ c ≠ '\uFEFF' ∧ c ≠ '\x60') : StartsValue (c :: rest) :=
  ⟨c, rest, rfl, h⟩

theorem startsValue_writeString (s : String) (rest : List Char) :
    StartsValue (writeString s rest) :=
  startsValue_cons _ (by decide)

theorem startsValue_int (i : Int) (rest : List Char) :
    StartsValue ((numberText (.int i)).toList ++ rest) := by
  obtain ⟨c, digits, hcons, rfl | hc⟩ := exists_numberText_eq_cons i
  · rw [hcons]
    exact startsValue_cons _ (by decide)
  · have hne : ∀ d : Char, isDigit d = false → c ≠ d := fun d hd => ne_of_isDigit hc hd
    have hblank : Json.isBlank c = false := by
      simp [Json.isBlank, hne ' ' rfl, hne '\t' rfl, hne '\n' rfl, hne '\r' rfl]
    rw [hcons]
    exact startsValue_cons _ ⟨hblank, hne _ rfl, hne _ rfl, hne _ rfl⟩

theorem startsValue_list (vs : List Value) (level : Option Nat) (rest : List Char) :
    StartsValue (write level (.list vs) rest) := by
  cases vs <;> exact startsValue_cons _ (by decide)

theorem startsValue_record (fields : List (String × Value)) (level : Option Nat)
    (rest : List Char) : StartsValue (write level (.record fields) rest) := by
  cases fields <;> exact startsValue_cons _ (by decide)

/-- A written value starts with a character of its own. -/
theorem IsFloatFree.startsValue {v : Value} (h : v.IsFloatFree) (level : Option Nat)
    (rest : List Char) : StartsValue (write level v rest) := by
  cases h with
  | null => exact startsValue_cons _ (by decide)
  | bool b => cases b <;> exact startsValue_cons _ (by decide)
  | int i => exact startsValue_int i rest
  | string s => exact startsValue_writeString s rest
  | list => exact startsValue_list _ level rest
  | record => exact startsValue_record _ level rest

end Value

end ExtractionSchema
