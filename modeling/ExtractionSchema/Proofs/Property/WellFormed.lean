import ExtractionSchema.Proofs.Property.Duplicates
import ExtractionSchema.Proofs.Reading.Items

/-!
# The shape of properties that were read

A property that was read has a name and a title, states the type `list` exactly when it is a list,
and a list of objects has nested fields, at least one, with names of their own that differ.

* `Property.listOfValue_wellFormed`: every list of properties that was read is well formed.
-/

namespace ExtractionSchema

/-! ## Well-formed properties -/

/-- A field is called something and shown as something. -/
structure FieldInfo.WellFormed (info : FieldInfo) : Prop where
  name_ne : info.name ≠ ""
  title_ne : info.title ≠ ""

/-- Only a list states the type of lists. -/
def SimpleShape.WellFormed : SimpleShape → Prop
  | .plain type => type ≠ listType
  | .list _ => True

/-- A nested property is well formed when what it says and its shape are. -/
structure NestedProperty.WellFormed (p : NestedProperty) : Prop where
  info : p.info.WellFormed
  shape : p.shape.WellFormed

/-- A list of objects has nested fields, whose names differ. -/
def Shape.WellFormed : Shape → Prop
  | .simple shape => shape.WellFormed
  | .objects fields =>
    fields ≠ [] ∧ (∀ f ∈ fields, f.WellFormed) ∧ (fields.map NestedProperty.name).Nodup

/-- A property is well formed when what it says and its shape are. -/
structure Property.WellFormed (p : Property) : Prop where
  info : p.info.WellFormed
  shape : p.shape.WellFormed

/-- A list of well-formed properties whose names differ. -/
structure Property.ListWellFormed (ps : List Property) : Prop where
  each : ∀ p ∈ ps, p.WellFormed
  names : (ps.map Property.name).Nodup

/-! ## Reading gives well-formed properties -/

theorem Reading.ne_of_nonEmptyText {v : Value} {s : String}
    (h : Reading.nonEmptyText v = .ok s) : s ≠ "" := by
  obtain ⟨t, -, ht⟩ := Checked.andThen_eq_ok_iff.mp h
  split at ht
  · simp [Checked.fail] at ht
  · rename_i hne
    cases ht
    exact hne

theorem Reading.draft_name_ne {ι : Type} {items : List (String × ι)} {entries : Value.Entries}
    {d : Draft ι} (h : Reading.draft items entries = .ok d) : d.name ≠ "" := by
  simp only [Reading.draft, Checked.seq_eq_ok_iff, Checked.map_eq_ok_iff,
    Reading.required_eq_ok_iff] at h
  obtain ⟨_, _, ⟨_, _, ⟨_, _, ⟨_, _, ⟨_, _, ⟨_, _, ⟨_, _, ⟨_, _, ⟨name, ⟨_, -, hname⟩, rfl⟩, -,
    rfl⟩, -, rfl⟩, -, rfl⟩, -, rfl⟩, -, rfl⟩, -, rfl⟩, -, rfl⟩, -, rfl⟩ := h
  exact Reading.ne_of_nonEmptyText hname

namespace Draft

variable {ι : Type}

theorem displayTitle_ne {d : Draft ι} (h : d.name ≠ "") : d.displayTitle ≠ "" := by
  unfold displayTitle
  split
  · split
    · exact h
    · assumption
  · exact h

theorem info_wellFormed {d : Draft ι} (h : d.name ≠ "") : d.info.WellFormed :=
  ⟨h, displayTitle_ne h⟩

theorem nestedShape_wellFormed {d : Draft ScalarItem} {shape : SimpleShape}
    (h : d.nestedShape = .ok shape) : shape.WellFormed := by
  unfold nestedShape at h
  split at h
  · cases h
    trivial
  · rename_i hlist
    split at h
    · cases h
    · cases h
      exact hlist

theorem objectsShape_wellFormed {d : Draft ι} {fields : Option (List NestedProperty)}
    {shape : Shape} (hfields : ∀ fs ∈ fields, ∀ f ∈ fs, f.WellFormed)
    (h : d.objectsShape fields = .ok shape) : shape.WellFormed := by
  unfold objectsShape at h
  split at h
  · cases h
  · rename_i f fs hget
    split at h
    · rename_i hnone
      cases h
      have hsome : fields = some (f :: fs) := by
        cases fields with
        | none => simp at hget
        | some gs => simpa using hget
      exact ⟨by simp, hfields _ hsome, findDuplicates_eq_nil_iff.mp hnone⟩
    · cases h

theorem shape_wellFormed {d : Draft ItemType} {fields : Option (List NestedProperty)}
    {shape : Shape} (hfields : ∀ fs ∈ fields, ∀ f ∈ fs, f.WellFormed)
    (h : d.shape fields = .ok shape) : shape.WellFormed := by
  unfold Draft.shape at h
  split at h
  · split at h
    · exact objectsShape_wellFormed hfields h
    · split at h
      · cases h
      · cases h
        trivial
  · rename_i hlist
    split at h
    · cases h
    · cases h
      exact hlist

/-- The nested fields of a shape are those that were read. -/
theorem fields_of_shape {d : Draft ItemType} {fields : Option (List NestedProperty)}
    {shape : Shape} (h : d.shape fields = .ok shape) :
    ∀ fs ∈ shape.fields?, fields = some fs := by
  unfold Draft.shape at h
  split at h
  · split at h
    · unfold Draft.objectsShape at h
      split at h
      · cases h
      · rename_i f fs hget
        split at h
        · cases h
          rintro _ ⟨⟩
          cases fields with
          | none => simp at hget
          | some gs => exact congrArg some hget
        · cases h
    · split at h
      · cases h
      · cases h
        simp [Shape.fields?]
  · split at h
    · cases h
    · cases h
      simp [Shape.fields?]

end Draft

namespace Reading

theorem checkedBy_eq_ok_iff {α : Type} {v : Value} {x : Except ShapeFault α} {a : α} :
    checkedBy v x = .ok a ↔ x = .ok a := by
  cases x <;> simp [checkedBy, Checked.fail]

theorem nestedProperty_wellFormed {v : Value} {p : NestedProperty}
    (h : nestedProperty v = .ok p) : p.WellFormed := by
  unfold nestedProperty at h
  split at h
  · simp [Checked.fail] at h
  · obtain ⟨entries, -, h⟩ := Checked.andThen_eq_ok_iff.mp h
    obtain ⟨d, hd, h⟩ := Checked.andThen_eq_ok_iff.mp h
    obtain ⟨shape, hshape, rfl⟩ := Checked.map_eq_ok_iff.mp h
    exact ⟨Draft.info_wellFormed (draft_name_ne hd),
      Draft.nestedShape_wellFormed (checkedBy_eq_ok_iff.mp hshape)⟩

theorem propertyWith_wellFormed {nested : Value.Entries → Checked (Option (List NestedProperty))}
    {v : Value} {p : Property}
    (hnested : ∀ entries fs, nested entries = .ok (some fs) → ∀ f ∈ fs, f.WellFormed)
    (h : propertyWith nested v = .ok p) : p.WellFormed := by
  obtain ⟨entries, -, h⟩ := Checked.andThen_eq_ok_iff.mp h
  obtain ⟨⟨d, fields⟩, hd, h⟩ := Checked.andThen_eq_ok_iff.mp h
  obtain ⟨shape, hshape, rfl⟩ := Checked.map_eq_ok_iff.mp h
  obtain ⟨_, _, hpair, hfields, heq⟩ := Checked.seq_eq_ok_iff.mp hd
  obtain ⟨_, hdraft, rfl⟩ := Checked.map_eq_ok_iff.mp hpair
  cases heq
  refine ⟨Draft.info_wellFormed (draft_name_ne hdraft),
    Draft.shape_wellFormed ?_ (checkedBy_eq_ok_iff.mp hshape)⟩
  rintro fs rfl
  exact hnested entries fs hfields

theorem property_wellFormed {v : Value} {p : Property} (h : property v = .ok p) :
    p.WellFormed := by
  refine propertyWith_wellFormed ?_ h
  intro entries fs hfs f hf
  obtain ⟨w, hw⟩ := read_of_field hfs
  obtain ⟨u, hu⟩ := read_of_mem_list hw f hf
  exact nestedProperty_wellFormed hu

end Reading

namespace Property

theorem ofValue_wellFormed {v : Value} {p : Property} (h : ofValue v = .ok p) : p.WellFormed :=
  Reading.property_wellFormed (Checked.orRefuse_eq_ok_iff.mp h)

theorem ofValues_wellFormed {vs : List Value} {ps : List Property} (h : ofValues vs = .ok ps) :
    ∀ p ∈ ps, p.WellFormed := by
  induction vs generalizing ps with
  | nil =>
    cases h
    simp
  | cons v vs ih =>
    simp only [ofValues, bind, Except.bind, pure, Except.pure] at h
    split at h
    · cases h
    · rename_i p hp
      split at h
      · cases h
      · rename_i rest hrest
        cases h
        intro q hq
        rcases List.mem_cons.mp hq with rfl | hq
        · exact ofValue_wellFormed hp
        · exact ih hrest q hq

/-- Every list of properties that was read is well formed. -/
theorem listOfValue_wellFormed {v : Value} {ps : List Property} (h : listOfValue v = .ok ps) :
    ListWellFormed ps := by
  unfold listOfValue at h
  split at h
  · split at h
    · cases h
    · rename_i qs hqs
      split at h
      · rename_i hnames
        cases h
        exact ⟨ofValues_wellFormed hqs, findDuplicates_eq_nil_iff.mp hnames⟩
      · cases h
  · cases h

end Property

end ExtractionSchema
