import ExtractionSchema.Proofs.Value.Json.Written
import Mathlib.Algebra.BigOperators.Group.List.Basic

/-!
# The size of a value

The size of an object is that of its entries and of what stands between them, so it does not depend
on the order of the entries. Nor does it on that of the entries of its parts.

* `Value.IsAsLarge`: two values of the same size that can or cannot be written and shown alike.
* `Value.isAsLarge_of_perm` and `Value.isAsLarge_of_forall₂`: objects with their entries in another
  order, and with entries as large.
-/

namespace ExtractionSchema.Value

/-! ## Sizes of texts -/

/-- The size of some characters of a JSON text in ASCII. -/
def asciiLength (cs : List Char) : Nat := (cs.map asciiSize).sum

theorem asciiLength_append (cs ds : List Char) :
    asciiLength (cs ++ ds) = asciiLength cs + asciiLength ds := by
  simp [asciiLength]

theorem asciiLength_cons (c : Char) (cs : List Char) :
    asciiLength (c :: cs) = asciiSize c + asciiLength cs := by
  simp [asciiLength]

theorem foldl_asciiSize (cs : List Char) (total : Nat) :
    cs.foldl (fun total c => total + asciiSize c) total = total + asciiLength cs := by
  induction cs generalizing total with
  | nil => simp [asciiLength]
  | cons c cs ih => rw [List.foldl_cons, ih, asciiLength_cons, Nat.add_assoc]

/-- The size of the text of a value on one line. -/
def textSize (v : Value) : Nat := asciiLength (write none v [])

theorem serializedSize_eq (v : Value) :
    v.serializedSize = match v.obstacle with
      | some _ => 0
      | none => v.textSize := by
  unfold serializedSize
  cases v.obstacle with
  | some _ => rfl
  | none =>
    have hfold := foldl_asciiSize (write none v []) 0
    simpa [textSize] using hfold

/-! ## What is written before a text -/

theorem writeString_append (s : String) (rest : List Char) :
    writeString s rest = writeString s [] ++ rest := by
  simp [writeString]

mutual

/-- A value is written before the text that follows it. -/
theorem write_append (level : Option Nat) : (v : Value) → (rest : List Char) →
    write level v rest = write level v [] ++ rest
  | .null, rest | .bool true, rest | .bool false, rest | .number _, rest | .list [], rest
  | .object [], rest => by simp [write]
  | .string s, rest => by rw [write, write, writeString_append]
  | .foreign x, rest => by rw [write, write, writeString_append]
  | .set _, rest => by rw [write, write, writeString_append]
  | .enclosing _, rest => by rw [write, write, writeString_append]
  | .pair first second, rest => by
    have hfirst := write_append (inner level) first
    have hsecond := write_append (inner level) second
    rw [write, write, hfirst, hsecond, hfirst ((layout level).between ++ _),
      hsecond ((layout level).closing ++ [']'])]
    simp
  | .list (v :: vs), rest => by
    have hhead := write_append (inner level) v
    rw [write, write, hhead, hhead (writeItems level vs []), writeItems_append level vs rest]
    simp
  | .object ((k, v) :: es), rest => by
    have hhead := write_append (inner level) v
    rw [write, write, writeString_append, writeString_append (keyName k) (':' :: ' ' :: _), hhead,
      hhead (writeEntries level es []), writeEntries_append level es rest]
    simp

theorem writeItems_append (level : Option Nat) : (vs : List Value) → (rest : List Char) →
    writeItems level vs rest = writeItems level vs [] ++ rest
  | [], rest => by simp [writeItems]
  | v :: vs, rest => by
    have hhead := write_append (inner level) v
    rw [writeItems, writeItems, hhead, hhead (writeItems level vs []),
      writeItems_append level vs rest]
    simp

theorem writeEntries_append (level : Option Nat) : (es : List (Key × Value)) →
    (rest : List Char) → writeEntries level es rest = writeEntries level es [] ++ rest
  | [], rest => by simp [writeEntries]
  | (k, v) :: es, rest => by
    have hhead := write_append (inner level) v
    rw [writeEntries, writeEntries, writeString_append,
      writeString_append (keyName k) (':' :: ' ' :: _), hhead, hhead (writeEntries level es []),
      writeEntries_append level es rest]
    simp

end

/-! ## Sizes of objects -/

/-- The size of an entry, with what stands before it. -/
def entrySize (e : Key × Value) : Nat :=
  2 + asciiLength (writeString (keyName e.1) []) + 2 + e.2.textSize

theorem asciiLength_entry (e : Key × Value) (rest : List Char) :
    2 + asciiLength (writeString (keyName e.1) (':' :: ' ' :: write none e.2 rest)) =
      entrySize e + asciiLength rest := by
  have hcolon : asciiSize ':' = 1 := rfl
  have hblank : asciiSize ' ' = 1 := rfl
  rw [writeString_append, write_append none e.2 rest, asciiLength_append, asciiLength_cons,
    asciiLength_cons, asciiLength_append, entrySize, textSize, hcolon, hblank]
  omega

theorem asciiLength_writeEntries (es : Entries) :
    asciiLength (writeEntries none es []) = (es.map entrySize).sum + 1 := by
  induction es with
  | nil => rfl
  | cons e es ih =>
    obtain ⟨k, v⟩ := e
    have hentry := asciiLength_entry (k, v) (writeEntries none es [])
    have hbetween : asciiLength (layout none).between = 2 := rfl
    rw [writeEntries, asciiLength_append, inner, List.map_cons, List.sum_cons]
    dsimp only at hentry
    omega

theorem textSize_object (es : Entries) :
    (Value.object es).textSize = if es = [] then 2 else (es.map entrySize).sum := by
  cases es with
  | nil => rfl
  | cons e es =>
    obtain ⟨k, v⟩ := e
    have hentry := asciiLength_entry (k, v) (writeEntries none es [])
    have hrest := asciiLength_writeEntries es
    have hopening : asciiLength (layout none).opening = 0 := rfl
    have hbrace : asciiSize '\x7b' = 1 := rfl
    rw [if_neg (List.cons_ne_nil _ _), textSize, write, asciiLength_cons, asciiLength_append, inner,
      List.map_cons, List.sum_cons]
    dsimp only at hentry
    omega

/-! ## Entries in other orders -/

/-- Both values are of the same size, and can or cannot be written and shown alike. -/
structure IsAsLarge (v w : Value) : Prop where
  size : v.textSize = w.textSize
  obstacle : v.obstacle = none ↔ w.obstacle = none
  isShowable : v.isShowable = w.isShowable

theorem IsAsLarge.refl (v : Value) : IsAsLarge v v := ⟨rfl, Iff.rfl, rfl⟩

theorem IsAsLarge.trans {u v w : Value} (huv : IsAsLarge u v) (hvw : IsAsLarge v w) :
    IsAsLarge u w :=
  ⟨huv.size.trans hvw.size, huv.obstacle.trans hvw.obstacle,
    huv.isShowable.trans hvw.isShowable⟩

theorem IsAsLarge.serializedSize_eq {v w : Value} (h : IsAsLarge v w) :
    v.serializedSize = w.serializedSize := by
  rw [Value.serializedSize_eq, Value.serializedSize_eq]
  cases hv : v.obstacle with
  | none => rw [h.obstacle.mp hv, h.size]
  | some o =>
    cases hw : w.obstacle with
    | none =>
      rw [h.obstacle.mpr hw] at hv
      cases hv
    | some o' => rfl

/-- Objects with the same entries in different orders are as large. -/
theorem isAsLarge_of_perm {es fs : Entries} (h : es.Perm fs) :
    IsAsLarge (.object es) (.object fs) where
  size := by
    have hnil : es = [] ↔ fs = [] := by
      rw [← List.length_eq_zero_iff, ← List.length_eq_zero_iff, h.length_eq]
    rw [textSize_object, textSize_object, (h.map entrySize).sum_eq]
    simp only [hnil]
  obstacle := by
    simp only [obstacle_object_eq_none, h.mem_iff]
  isShowable := by
    rw [Bool.eq_iff_iff]
    simp only [isShowable_object, h.mem_iff]

/-- Objects with entries that are as large are as large. -/
theorem isAsLarge_of_forall₂ {es fs : Entries}
    (h : List.Forall₂ (fun e f => e.1 = f.1 ∧ IsAsLarge e.2 f.2) es fs) :
    IsAsLarge (.object es) (.object fs) where
  size := by
    have hnil : es = [] ↔ fs = [] := by
      rw [← List.length_eq_zero_iff, ← List.length_eq_zero_iff, h.length_eq]
    have hsizes : es.map entrySize = fs.map entrySize :=
      map_eq_map_of_forall₂ h fun hef => by rw [entrySize, entrySize, hef.1, hef.2.size]
    rw [textSize_object, textSize_object, hsizes]
    simp only [hnil]
  obstacle := by
    rw [obstacle_object_eq_none, obstacle_object_eq_none]
    refine forall_mem_iff_of_forall₂ h fun hef => ?_
    rw [hef.1, hef.2.obstacle]
  isShowable := by
    rw [Bool.eq_iff_iff, isShowable_object, isShowable_object]
    refine forall_mem_iff_of_forall₂ h fun hef => ?_
    rw [hef.1, hef.2.isShowable]

end ExtractionSchema.Value
