import ExtractionSchema.Proofs.Number.Exact
import ExtractionSchema.Proofs.Value.Entries
import ExtractionSchema.Value.Literal
import Mathlib.Data.List.Forall2
import Mathlib.Data.List.Nodup

/-!
# JSON documents

What a JSON document holds, seen as a value: nothing but the kinds of JSON, with names as the keys
of objects, each of them once. The one number without a value that can stand there is the `nan` of
its word.

* `Value.isDocument` decides this.
* `Value.hasDistinctKeys` asks of any value only that no object within it holds a key twice.
* `Value.hasShortLists` bounds the lists within a value, so that every index of an item can be
  shown.
-/

namespace ExtractionSchema.Value

/-! ## Values of JSON documents -/

mutual

/-- Whether the value can stand in a JSON document. -/
def isDocument : Value → Bool
  | .null | .bool _ | .string _ => true
  | .number n => n.isOfJson
  | .list items => areDocuments items
  | .object entries => decide (entries.map Prod.fst).Nodup && areEntriesOfDocument entries
  | .foreign _ | .set _ | .pair _ _ | .enclosing _ => false

/-- Whether every value of a list can stand in a JSON document. -/
def areDocuments : List Value → Bool
  | [] => true
  | v :: vs => v.isDocument && areDocuments vs

/-- Whether every key is a name and every value can stand in a JSON document. -/
def areEntriesOfDocument : List (Key × Value) → Bool
  | [] => true
  | (.name _, v) :: es => v.isDocument && areEntriesOfDocument es
  | (_, _) :: _ => false

end

theorem areDocuments_iff {vs : List Value} :
    areDocuments vs = true ↔ ∀ v ∈ vs, v.isDocument = true := by
  induction vs with
  | nil => simp [areDocuments]
  | cons v vs ih => simp [areDocuments, ih]

theorem areEntriesOfDocument_iff {es : Entries} :
    areEntriesOfDocument es = true ↔
      ∀ e ∈ es, (∃ s, e.1 = .name s) ∧ e.2.isDocument = true := by
  induction es with
  | nil => simp [areEntriesOfDocument]
  | cons e es ih =>
    obtain ⟨k, v⟩ := e
    cases k <;> simp [areEntriesOfDocument, ih]

theorem isDocument_list {vs : List Value} :
    (Value.list vs).isDocument = true ↔ ∀ v ∈ vs, v.isDocument = true := by
  rw [isDocument, areDocuments_iff]

theorem isDocument_object {es : Entries} :
    (Value.object es).isDocument = true ↔
      (es.map Prod.fst).Nodup ∧ ∀ e ∈ es, (∃ s, e.1 = .name s) ∧ e.2.isDocument = true := by
  rw [isDocument, Bool.and_eq_true, decide_eq_true_iff, areEntriesOfDocument_iff]

theorem isDocument_of_lookup {es : Entries} {key : Key} {v : Value}
    (h : (Value.object es).isDocument = true) (hv : lookup key es = some v) :
    v.isDocument = true :=
  ((isDocument_object.mp h).2 _ (mem_of_lookup hv)).2

theorem isDocument_of_perm {es fs : Entries} (h : es.Perm fs)
    (hes : (Value.object es).isDocument = true) : (Value.object fs).isDocument = true := by
  obtain ⟨hkeys, hentries⟩ := isDocument_object.mp hes
  rw [isDocument_object]
  exact ⟨(h.map Prod.fst).nodup_iff.mp hkeys, fun e he => hentries e (h.mem_iff.mpr he)⟩

/-- Under the same keys, values of documents may take the places of others. -/
theorem isDocument_of_forall₂ {es fs : Entries}
    (h : List.Forall₂
      (fun e f => e.1 = f.1 ∧ (e.2.isDocument = true → f.2.isDocument = true)) es fs)
    (hes : (Value.object es).isDocument = true) : (Value.object fs).isDocument = true := by
  obtain ⟨hkeys, hentries⟩ := isDocument_object.mp hes
  have hsame : es.map Prod.fst = fs.map Prod.fst := map_eq_map_of_forall₂ h fun hef => hef.1
  rw [isDocument_object, ← hsame]
  refine ⟨hkeys, fun f hf => ?_⟩
  obtain ⟨e, he, hkey, hdocument⟩ := exists_of_mem_forall₂ h f hf
  obtain ⟨hname, hvalue⟩ := hentries e he
  rw [hkey] at hname
  exact ⟨hname, hdocument hvalue⟩

mutual

/-- What can stand in a document holds nothing but JSON. -/
theorem isJson_of_isDocument : (v : Value) → v.isDocument = true → v.isJson = true
  | .null, _ | .bool _, _ | .number _, _ | .string _, _ => rfl
  | .list items, h => isJsonList_of_areDocuments items h
  | .object entries, h => by
    rw [isDocument, Bool.and_eq_true] at h
    exact isJsonEntries_of_areEntriesOfDocument entries h.2
  | .foreign _, h | .set _, h | .pair _ _, h | .enclosing _, h => by cases h

theorem isJsonList_of_areDocuments : (vs : List Value) → areDocuments vs = true →
    isJsonList vs = true
  | [], _ => rfl
  | v :: vs, h => by
    rw [areDocuments, Bool.and_eq_true] at h
    rw [isJsonList, isJson_of_isDocument v h.1, isJsonList_of_areDocuments vs h.2]
    rfl

theorem isJsonEntries_of_areEntriesOfDocument : (es : Entries) →
    areEntriesOfDocument es = true → isJsonEntries es = true
  | [], _ => rfl
  | (.name _, v) :: es, h => by
    rw [areEntriesOfDocument, Bool.and_eq_true] at h
    rw [isJsonEntries, isJson_of_isDocument v h.1, isJsonEntries_of_areEntriesOfDocument es h.2]
    rfl
  | (.null, _) :: _, h | (.bool _, _) :: _, h | (.number _, _) :: _, h
  | (.foreign _, _) :: _, h => by cases h

end

/-! ## Values that hold each key once -/

mutual

/-- Whether every object within the value holds each key once. -/
def hasDistinctKeys : Value → Bool
  | .list items => haveDistinctKeys items
  | .object entries => decide (entries.map Prod.fst).Nodup && entriesHaveDistinctKeys entries
  | .pair first second => first.hasDistinctKeys && second.hasDistinctKeys
  | .null | .bool _ | .number _ | .string _ | .foreign _ | .set _ | .enclosing _ => true

/-- Whether every object within the values holds each key once. -/
def haveDistinctKeys : List Value → Bool
  | [] => true
  | v :: vs => v.hasDistinctKeys && haveDistinctKeys vs

/-- Whether every object within the values of entries holds each key once. -/
def entriesHaveDistinctKeys : List (Key × Value) → Bool
  | [] => true
  | (_, v) :: es => v.hasDistinctKeys && entriesHaveDistinctKeys es

end

theorem hasDistinctKeys_list {vs : List Value} :
    (Value.list vs).hasDistinctKeys = true ↔ ∀ v ∈ vs, v.hasDistinctKeys = true := by
  rw [hasDistinctKeys]
  induction vs with
  | nil => simp [haveDistinctKeys]
  | cons v vs ih => simp [haveDistinctKeys, ih]

theorem hasDistinctKeys_object {es : Entries} :
    (Value.object es).hasDistinctKeys = true ↔
      (es.map Prod.fst).Nodup ∧ ∀ e ∈ es, e.2.hasDistinctKeys = true := by
  have hall : entriesHaveDistinctKeys es = true ↔ ∀ e ∈ es, e.2.hasDistinctKeys = true := by
    induction es with
    | nil => simp [entriesHaveDistinctKeys]
    | cons e es ih =>
      obtain ⟨k, v⟩ := e
      simp [entriesHaveDistinctKeys, ih]
  rw [hasDistinctKeys, Bool.and_eq_true, decide_eq_true_iff, hall]

theorem hasDistinctKeys_pair {v w : Value} :
    (Value.pair v w).hasDistinctKeys = true ↔
      v.hasDistinctKeys = true ∧ w.hasDistinctKeys = true := by
  rw [hasDistinctKeys, Bool.and_eq_true]

theorem hasDistinctKeys_value (key : Key) : key.value.hasDistinctKeys = true := by
  cases key <;> rfl

theorem hasDistinctKeys_of_lookup {es : Entries} {key : Key} {v : Value}
    (h : (Value.object es).hasDistinctKeys = true) (hv : lookup key es = some v) :
    v.hasDistinctKeys = true :=
  (hasDistinctKeys_object.mp h).2 _ (mem_of_lookup hv)

/-! ## Values whose parts can be shown -/

theorem areShowable_iff {vs : List Value} :
    areShowable vs = true ↔ ∀ v ∈ vs, v.isShowable = true := by
  induction vs with
  | nil => simp [areShowable]
  | cons v vs ih => simp [areShowable, ih]

theorem areShowableEntries_iff {es : Entries} :
    areShowableEntries es = true ↔
      ∀ e ∈ es, e.1.isShowable = true ∧ e.2.isShowable = true := by
  induction es with
  | nil => simp [areShowableEntries]
  | cons e es ih =>
    obtain ⟨k, v⟩ := e
    simp [areShowableEntries, ih]

theorem isShowable_list {vs : List Value} :
    (Value.list vs).isShowable = true ↔ ∀ v ∈ vs, v.isShowable = true := by
  rw [isShowable, areShowable_iff]

theorem isShowable_object {es : Entries} :
    (Value.object es).isShowable = true ↔
      ∀ e ∈ es, e.1.isShowable = true ∧ e.2.isShowable = true := by
  rw [isShowable, areShowableEntries_iff]

theorem isShowable_of_lookup {es : Entries} {key : Key} {v : Value}
    (h : (Value.object es).isShowable = true) (hv : lookup key es = some v) :
    v.isShowable = true :=
  (isShowable_object.mp h _ (mem_of_lookup hv)).2

mutual

/-- Whether no list within the value is so long that the index of an item has too many digits. -/
def hasShortLists : Value → Bool
  | .list items => decide (items.length ≤ Nat.pow 10 digitLimit) && haveShortLists items
  | .object entries => entriesHaveShortLists entries
  | .pair first second => first.hasShortLists && second.hasShortLists
  | .null | .bool _ | .number _ | .string _ | .foreign _ | .set _ | .enclosing _ => true

/-- Whether no list within the values is too long. -/
def haveShortLists : List Value → Bool
  | [] => true
  | v :: vs => v.hasShortLists && haveShortLists vs

/-- Whether no list within the values of entries is too long. -/
def entriesHaveShortLists : List (Key × Value) → Bool
  | [] => true
  | (_, v) :: es => v.hasShortLists && entriesHaveShortLists es

end

theorem hasShortLists_list {vs : List Value} :
    (Value.list vs).hasShortLists = true ↔
      vs.length ≤ Nat.pow 10 digitLimit ∧ ∀ v ∈ vs, v.hasShortLists = true := by
  have hall : haveShortLists vs = true ↔ ∀ v ∈ vs, v.hasShortLists = true := by
    induction vs with
    | nil => simp [haveShortLists]
    | cons v vs ih => simp [haveShortLists, ih]
  rw [hasShortLists, Bool.and_eq_true, decide_eq_true_iff, hall]

theorem hasShortLists_object {es : Entries} :
    (Value.object es).hasShortLists = true ↔ ∀ e ∈ es, e.2.hasShortLists = true := by
  rw [hasShortLists]
  induction es with
  | nil => simp [entriesHaveShortLists]
  | cons e es ih =>
    obtain ⟨k, v⟩ := e
    simp [entriesHaveShortLists, ih]

end ExtractionSchema.Value
