import ExtractionSchema.Proofs.Conversion.ReadOff
import ExtractionSchema.Proofs.Value.Json.Plain

/-!
# Properties that are stored as they are

A property holds values of its own only as the outputs of its examples, and these are taken from the
document that it is read from. Where the document is plain, so are the outputs, and the property is
written without loss.

* `Property.isPlain_of_listOfValue`: the outputs of a property list that was read are plain.
* `Property.isPlain_listToValue`: the written form of such a list is plain.
-/

namespace ExtractionSchema

/-- All outputs of the examples of a field are plain. -/
def FieldInfo.IsPlain (info : FieldInfo) : Prop :=
  ∀ es ∈ info.examples, ∀ e ∈ es, e.output.IsPlain

/-- All outputs of the examples of a property and of its nested fields are plain. -/
structure Property.IsPlain (p : Property) : Prop where
  info : p.info.IsPlain
  fields : ∀ fs ∈ p.shape.fields?, ∀ f ∈ fs, f.info.IsPlain

/-! ## Properties that were read -/

namespace Reading

variable {α : Type}

theorem isPlain_of_mem_list {read : Value → Checked α} {v : Value} {as : List α} (hv : v.IsPlain)
    (h : list read v = .ok as) : ∀ a ∈ as, ∃ w : Value, w.IsPlain ∧ read w = .ok a := by
  intro a ha
  obtain ⟨items, w, rfl, hw, hread⟩ := exists_item_of_mem_list hv.isFloatFree.isJson h a ha
  exact ⟨w, Value.isPlain_list.mp hv w hw, hread⟩

theorem isPlain_output {v : Value} {e : Example} (hv : v.IsPlain)
    (h : propertyExample v = .ok e) : e.output.IsPlain := by
  obtain ⟨entries, rfl, hlookup⟩ := lookup_output h
  exact hv.of_lookup hlookup

theorem isPlain_draft {ι : Type} {items : List (String × ι)} {entries : Value.Entries}
    {d : Draft ι} (hentries : (Value.object entries).IsPlain)
    (h : draft items entries = .ok d) : d.info.IsPlain := by
  simp only [draft, Checked.seq_eq_ok_iff, Checked.map_eq_ok_iff] at h
  obtain ⟨_, _, ⟨_, examples, ⟨_, _, ⟨_, _, ⟨_, _, ⟨_, _, ⟨_, _, ⟨_, _, ⟨_, -, rfl⟩, -, rfl⟩, -,
    rfl⟩, -, rfl⟩, -, rfl⟩, -, rfl⟩, -, rfl⟩, hexamples, rfl⟩, -, rfl⟩ := h
  rintro es rfl e he
  obtain ⟨name, w, hw, hread⟩ := lookup_of_field hexamples
  obtain ⟨u, hu, hexample⟩ := isPlain_of_mem_list (hentries.of_lookup hw) hread e he
  exact isPlain_output hu hexample

theorem isPlain_nestedProperty {v : Value} {f : NestedProperty} (hv : v.IsPlain)
    (h : nestedProperty v = .ok f) : f.info.IsPlain := by
  unfold nestedProperty at h
  split at h
  · simp [Checked.fail] at h
  · obtain ⟨entries, hentries, h⟩ := Checked.andThen_eq_ok_iff.mp h
    obtain ⟨d, hd, h⟩ := Checked.andThen_eq_ok_iff.mp h
    obtain ⟨shape, -, rfl⟩ := Checked.map_eq_ok_iff.mp h
    obtain rfl := eq_object_of_entriesOf hentries
    exact isPlain_draft hv hd

end Reading

namespace Property

theorem isPlain_of_ofValue {v : Value} {p : Property} (hv : v.IsPlain) (h : ofValue v = .ok p) :
    p.IsPlain := by
  have hread := Checked.orRefuse_eq_ok_iff.mp h
  obtain ⟨entries, hentries, hread⟩ := Checked.andThen_eq_ok_iff.mp hread
  obtain ⟨⟨d, fields⟩, hparts, hread⟩ := Checked.andThen_eq_ok_iff.mp hread
  obtain ⟨shape, hshape, rfl⟩ := Checked.map_eq_ok_iff.mp hread
  obtain ⟨_, _, hpair, hfields, heq⟩ := Checked.seq_eq_ok_iff.mp hparts
  obtain ⟨_, hdraft, rfl⟩ := Checked.map_eq_ok_iff.mp hpair
  cases heq
  obtain rfl := Reading.eq_object_of_entriesOf hentries
  refine ⟨Reading.isPlain_draft hv hdraft, ?_⟩
  intro fs hfs f hf
  obtain rfl := Draft.fields_of_shape (Reading.checkedBy_eq_ok_iff.mp hshape) fs hfs
  obtain ⟨name, w, hw, hlist⟩ := Reading.lookup_of_field hfields
  obtain ⟨u, hu, hnested⟩ := Reading.isPlain_of_mem_list (hv.of_lookup hw) hlist f hf
  exact Reading.isPlain_nestedProperty hu hnested

theorem ofValues_eq_ok_iff {vs : List Value} {ps : List Property} :
    ofValues vs = .ok ps ↔ List.Forall₂ (fun v p => ofValue v = .ok p) vs ps := by
  induction vs generalizing ps with
  | nil => cases ps <;> simp [ofValues]
  | cons v vs ih =>
    simp only [ofValues, bind_eq_ok_iff, ih]
    constructor
    · rintro ⟨p, hp, rest, hrest, heq⟩
      cases heq
      exact .cons hp hrest
    · rintro (_ | ⟨hp, hrest⟩)
      exact ⟨_, hp, _, hrest, rfl⟩

/-- The outputs of a property list that is read from a plain value are plain. -/
theorem isPlain_of_listOfValue {v : Value} {ps : List Property} (hv : v.IsPlain)
    (h : listOfValue v = .ok ps) : ∀ p ∈ ps, p.IsPlain := by
  unfold listOfValue at h
  split at h
  · rename_i items
    split at h
    · cases h
    · rename_i qs hqs
      split at h
      · cases h
        intro p hp
        obtain ⟨w, hw, hread⟩ := exists_of_mem_forall₂ (ofValues_eq_ok_iff.mp hqs) p hp
        exact isPlain_of_ofValue (Value.isPlain_list.mp hv w hw) hread
      · cases h
  · cases h

end Property

/-! ## Written properties -/

theorem sublist_keys_stated (name : String) (o : Option Value) :
    ((stated name o).map Prod.fst).Sublist [name] := by
  cases o <;> simp [stated]

theorem isPlain_stated {name : String} {o : Option Value} (h : ∀ v ∈ o, v.IsPlain) :
    ∀ field ∈ stated name o, field.2.IsPlain := by
  cases o with
  | none => simp [stated]
  | some v => simpa [stated] using h v rfl

theorem Example.isPlain_toValue {e : Example} (h : e.output.IsPlain) : e.toValue.IsPlain := by
  have hkeys : (([("id", Value.string e.id), ("input", .string e.input)] ++ stated "output"
      (if e.output = .null then none else some e.output.interchange)).map Prod.fst).Nodup := by
    have hhead := List.Sublist.refl ["id", "input"]
    rw [List.map_append]
    exact (hhead.append (sublist_keys_stated _ _)).nodup (by decide)
  rw [toValue, Value.isPlain_record hkeys, List.forall_mem_append]
  constructor
  · simp [Value.isPlain_string]
  · refine isPlain_stated fun v hv => ?_
    split at hv
    · cases hv
    · cases hv
      rwa [h.isFloatFree.hasFiniteNumbers.interchange_eq]

namespace FieldInfo

/-- The keys under which a property states what its field says. -/
def keys : List String :=
  ["name", "type", "title", "description", "importance", "required", "extractionInstructions",
    "examples"]

theorem sublist_keys_fields (info : FieldInfo) (type : String) (shape : List (String × Value)) :
    ((info.fields type shape).map Prod.fst).Sublist (keys ++ shape.map Prod.fst) := by
  have himportance := sublist_keys_stated "importance" (info.importance.map fun i => .string i.name)
  have hinstructions := sublist_keys_stated "extractionInstructions"
    (info.instructions.map .string)
  have hexamples := sublist_keys_stated "examples"
    (info.examples.map fun es => .list (es.map Example.toValue))
  have hhead := List.Sublist.refl ["name", "type", "title", "description"]
  have hall := (((hhead.append himportance).append (List.Sublist.refl ["required"])).append
    hinstructions).append hexamples
  simp only [fields, List.map_append]
  exact hall.append (List.Sublist.refl _)

/-- The written form of a field, with its element type and nested fields. -/
theorem isPlain_record {info : FieldInfo} (h : info.IsPlain) (type : String)
    {shape : List (String × Value)}
    (hkeys : (shape.map Prod.fst).Sublist ["itemType", "fields"])
    (hshape : ∀ field ∈ shape, field.2.IsPlain) :
    (Value.record (info.fields type shape)).IsPlain := by
  have hall := (info.sublist_keys_fields type shape).trans ((List.Sublist.refl keys).append hkeys)
  have hnodup : ((info.fields type shape).map Prod.fst).Nodup := hall.nodup (by decide)
  have hexamples : ∀ v ∈ info.examples.map fun es => Value.list (es.map Example.toValue),
      v.IsPlain := by
    intro v hv
    obtain ⟨es, hes, rfl⟩ := Option.mem_map.mp hv
    rw [Value.isPlain_list, List.forall_mem_map]
    exact fun e he => Example.isPlain_toValue (h es hes e he)
  have htexts : ∀ o : Option String, ∀ v ∈ o.map Value.string, v.IsPlain := by
    intro o v hv
    obtain ⟨s, -, rfl⟩ := Option.mem_map.mp hv
    exact Value.isPlain_string s
  have himportance : ∀ v ∈ info.importance.map fun i => Value.string i.name, v.IsPlain := by
    intro v hv
    obtain ⟨i, -, rfl⟩ := Option.mem_map.mp hv
    exact Value.isPlain_string i.name
  rw [Value.isPlain_record hnodup]
  simp only [fields, List.forall_mem_append]
  refine ⟨⟨⟨⟨⟨?_, isPlain_stated himportance⟩, ?_⟩, isPlain_stated (htexts _)⟩,
    isPlain_stated hexamples⟩, hshape⟩
  · simp [Value.isPlain_string]
  · simp [Value.isPlain_bool]

end FieldInfo

theorem isPlain_itemType {α : Type} (name : α → String) (item : Option α) :
    ∀ field ∈ stated "itemType" (item.map fun i => .string (name i)), field.2.IsPlain := by
  refine isPlain_stated fun v hv => ?_
  obtain ⟨i, -, rfl⟩ := Option.mem_map.mp hv
  exact Value.isPlain_string (name i)

theorem NestedProperty.isPlain_toValue {f : NestedProperty} (h : f.info.IsPlain) :
    f.toValue.IsPlain := by
  have hkeys : ((stated "itemType" (f.shape.item?.map fun i => .string i.name)).map
      Prod.fst).Sublist ["itemType", "fields"] :=
    (sublist_keys_stated _ _).trans (by decide)
  exact FieldInfo.isPlain_record h _ hkeys (isPlain_itemType ScalarItem.name _)

namespace Property

theorem IsPlain.toValue {p : Property} (h : p.IsPlain) : p.toValue.IsPlain := by
  have hfields : ∀ v ∈ p.shape.fields?.map fun fs => Value.list (fs.map NestedProperty.toValue),
      v.IsPlain := by
    intro v hv
    obtain ⟨fs, hfs, rfl⟩ := Option.mem_map.mp hv
    rw [Value.isPlain_list, List.forall_mem_map]
    exact fun f hf => NestedProperty.isPlain_toValue (h.fields fs hfs f hf)
  refine FieldInfo.isPlain_record h.info _ ?_ ?_
  · rw [List.map_append]
    exact (sublist_keys_stated _ _).append (sublist_keys_stated _ _)
  · rw [List.forall_mem_append]
    exact ⟨isPlain_itemType ItemType.name _, isPlain_stated hfields⟩

/-- A property is written if the outputs of its examples are values of JSON. -/
theorem obstacle_of_isJson {p : Property}
    (hinfo : ∀ es ∈ p.info.examples, ∀ e ∈ es, e.output.isJson = true)
    (hfields : ∀ fs ∈ p.shape.fields?, ∀ f ∈ fs, ∀ es ∈ f.info.examples, ∀ e ∈ es,
      e.output.isJson = true) :
    p.obstacle = none := by
  have hnested : (p.shape.fields?.getD []).findSome? (fun f => f.info.obstacle) = none := by
    rw [List.findSome?_eq_none_iff]
    intro f hf
    cases hstated : p.shape.fields? with
    | none => simp [hstated] at hf
    | some fs =>
      rw [hstated] at hf
      exact FieldInfo.obstacle_eq_none (hfields fs hstated f hf)
  rw [obstacle, FieldInfo.obstacle_eq_none hinfo, hnested]
  rfl

theorem IsPlain.obstacle_eq {p : Property} (h : p.IsPlain) : p.obstacle = none :=
  obstacle_of_isJson (fun es hes e he => (h.info es hes e he).isFloatFree.isJson)
    fun fs hfs f hf es hes e he => (h.fields fs hfs f hf es hes e he).isFloatFree.isJson

theorem listToValue?_of_obstacle {ps : List Property} (h : ∀ p ∈ ps, p.obstacle = none) :
    listToValue? ps = .ok (.list (ps.map Property.toValue)) := by
  rw [listToValue?, List.findSome?_eq_none_iff.mpr h]

/-- A list of properties with plain outputs is written, and its written form is plain. -/
theorem isPlain_listToValue {ps : List Property} (h : ∀ p ∈ ps, p.IsPlain) :
    listToValue? ps = .ok (.list (ps.map Property.toValue)) ∧
      (Value.list (ps.map Property.toValue)).IsPlain := by
  constructor
  · exact listToValue?_of_obstacle fun p hp => (h p hp).obstacle_eq
  · rw [Value.isPlain_list, List.forall_mem_map]
    exact fun p hp => (h p hp).toValue

end Property

end ExtractionSchema
