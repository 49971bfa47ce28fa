import ExtractionSchema.Proofs.Value.Entries
import ExtractionSchema.Reading.Coercion
import Mathlib.Data.List.Forall2

/-!
# Readings of lists and fields

A list is read exactly when each of its items is, and the results stand in the order of the items.
A field that must be there is read exactly when its key is there and its value is read.

* `Checked.each_eq_ok_iff` says this of lists, `Reading.required_eq_ok_iff` of fields.
-/

namespace ExtractionSchema

theorem bind_eq_ok_iff {ε α β : Type} {x : Except ε α} {f : α → Except ε β} {b : β} :
    x >>= f = .ok b ↔ ∃ a, x = .ok a ∧ f a = .ok b := by
  cases x <;> simp [bind, Except.bind]

theorem bind_eq_error_iff {ε α β : Type} {x : Except ε α} {f : α → Except ε β} {e : ε} :
    x >>= f = .error e ↔ x = .error e ∨ ∃ a, x = .ok a ∧ f a = .error e := by
  cases x <;> simp [bind, Except.bind]

namespace Checked

variable {α : Type}

theorem eachFrom_eq_ok_iff {read : Value → Checked α} {i : Nat} {vs : List Value} {as : List α} :
    eachFrom read i vs = .ok as ↔ List.Forall₂ (fun v a => read v = .ok a) vs as := by
  induction vs generalizing i as with
  | nil => cases as <;> simp [eachFrom]
  | cons v vs ih =>
    simp only [eachFrom, seq_eq_ok_iff, map_eq_ok_iff, under_eq_ok_iff, ih]
    constructor
    · rintro ⟨_, rest, ⟨a, ha, rfl⟩, hrest, rfl⟩
      exact .cons ha hrest
    · rintro (_ | ⟨ha, hrest⟩)
      exact ⟨_, _, ⟨_, ha, rfl⟩, hrest, rfl⟩

theorem each_eq_ok_iff {read : Value → Checked α} {vs : List Value} {as : List α} :
    each read vs = .ok as ↔ List.Forall₂ (fun v a => read v = .ok a) vs as :=
  eachFrom_eq_ok_iff

/-- Whatever stands in a list that was read is the reading of one of its items. -/
theorem read_of_mem_each {read : Value → Checked α} {vs : List Value} {as : List α}
    (h : each read vs = .ok as) : ∀ a ∈ as, ∃ v ∈ vs, read v = .ok a :=
  exists_of_mem_forall₂ (each_eq_ok_iff.mp h)

/-- Items that are written forms are read back. -/
theorem each_map {read : Value → Checked α} {write : α → Value} {as : List α}
    (h : ∀ a ∈ as, read (write a) = .ok a) : each read (as.map write) = .ok as := by
  rw [each_eq_ok_iff, List.forall₂_map_left_iff, List.forall₂_same]
  exact h

theorem each_ok (vs : List Value) : each .ok vs = .ok vs := by
  rw [each_eq_ok_iff]
  exact List.forall₂_same.mpr fun _ _ => rfl

end Checked

namespace Reading

variable {α : Type}

theorem required_eq_ok_iff {name : String} {read : Value → Checked α} {entries : Value.Entries}
    {a : α} : required name read entries = .ok a ↔
      ∃ v, Value.lookup (.name name) entries = some v ∧ read v = .ok a := by
  unfold required
  cases Value.lookup (.name name) entries <;> simp [Checked.under_eq_ok_iff]

/-! ## Fields by their keys -/

theorem required_of_lookup {name : String} {read : Value → Checked α} {entries : Value.Entries}
    {v : Value} {a : α} (hv : Value.lookup (.name name) entries = some v) (ha : read v = .ok a) :
    required name read entries = .ok a :=
  required_eq_ok_iff.mpr ⟨v, hv, ha⟩

theorem field_of_lookup {name : String} {names : List String} {default : α}
    {read : Value → Checked α} {entries : Value.Entries} {v : Value} {a : α}
    (hv : Value.lookup (.name name) entries = some v) (ha : read v = .ok a) :
    field (name :: names) default read entries = .ok a := by
  simp [field, find, hv, ha, Checked.under]

theorem field_skip {name : String} {names : List String} {default : α}
    {read : Value → Checked α} {entries : Value.Entries}
    (h : Value.lookup (.name name) entries = none) :
    field (name :: names) default read entries = field names default read entries := by
  simp [field, find, h]

theorem optional_eq_some_iff {read : Value → Checked α} {v : Value} {a : α} :
    optional read v = .ok (some a) ↔ v ≠ .null ∧ read v = .ok a := by
  unfold optional
  split <;> simp_all [Checked.map_eq_ok_iff]

/-- An optional value that is written, or left out, is read back. -/
theorem optional_written {read : Value → Checked α} {write : α → Value} {o : Option α}
    (h : ∀ a ∈ o, read (write a) = .ok a ∧ write a ≠ .null) :
    optional read ((o.map write).getD .null) = .ok o := by
  cases o with
  | none => rfl
  | some a =>
    obtain ⟨hread, hnull⟩ := h a rfl
    exact optional_eq_some_iff.mpr ⟨hnull, hread⟩

/-- An optional field that states something was read from one of its keys. -/
theorem lookup_of_field {names : List String} {read : Value → Checked α}
    {entries : Value.Entries} {a : α}
    (h : field names none (optional read) entries = .ok (some a)) :
    ∃ name v, Value.lookup (.name name) entries = some v ∧ read v = .ok a := by
  unfold field at h
  split at h
  · rename_i name v hfind
    obtain ⟨key, -, hkey⟩ := List.exists_of_findSome?_eq_some hfind
    obtain ⟨w, hw, heq⟩ := Option.map_eq_some_iff.mp hkey
    cases heq
    exact ⟨name, v, hw, (optional_eq_some_iff.mp (Checked.under_eq_ok_iff.mp h)).2⟩
  · simp at h

/-- The result of an optional field, if it states one, is the result of reading its value. -/
theorem read_of_field {names : List String} {read : Value → Checked α}
    {entries : Value.Entries} {a : α}
    (h : field names none (optional read) entries = .ok (some a)) : ∃ v, read v = .ok a := by
  obtain ⟨name, v, -, hread⟩ := lookup_of_field h
  exact ⟨v, hread⟩

theorem eq_object_of_entriesOf {model : String} {v : Value} {entries : Value.Entries}
    (h : entriesOf model v = .ok entries) : v = .object entries := by
  unfold entriesOf at h
  split at h
  · cases h
    rfl
  · simp [Checked.fail] at h

/-- Of the values of JSON only lists are read as lists. -/
theorem exists_item_of_mem_list {read : Value → Checked α} {v : Value} {as : List α}
    (hv : v.isJson = true) (h : list read v = .ok as) :
    ∀ a ∈ as, ∃ items w, v = .list items ∧ w ∈ items ∧ read w = .ok a := by
  cases v with
  | list items =>
    intro a ha
    obtain ⟨w, hw, hread⟩ := Checked.read_of_mem_each h a ha
    exact ⟨items, w, rfl, hw, hread⟩
  | set | pair => cases hv
  | _ => simp [list, Checked.fail] at h

/-- A list that was read holds readings of values only. -/
theorem read_of_mem_list {read : Value → Checked α} {v : Value} {as : List α}
    (h : list read v = .ok as) : ∀ a ∈ as, ∃ w, read w = .ok a := by
  intro a ha
  have hread : ∃ vs, Checked.each read vs = .ok as := by
    unfold list at h
    split at h
    · exact ⟨_, h⟩
    · exact ⟨_, h⟩
    · exact ⟨_, h⟩
    · simp [Checked.fail] at h
  obtain ⟨vs, hvs⟩ := hread
  obtain ⟨w, -, hw⟩ := Checked.read_of_mem_each hvs a ha
  exact ⟨w, hw⟩

end Reading

end ExtractionSchema
