import ExtractionSchema.Proofs.Value.Entries
import ExtractionSchema.Wire.Printer

/-!
# What a written node says

The fields of a node are written side by side, and what is stated under a key is found under that
key: no two parts of a node share one.

* `Presentation.lookup_fields`: a presentation says nothing under keys of other parts.
* `lookup_putAll`: of fields that are set over others, those that are set count.
* `lookup_objectEntries`: the children, the required names and the closure of an object stand in
  its written form under their keys.
-/

namespace ExtractionSchema.Wire

/-! ## Looking up what was written -/

theorem lookup_whenStated {α : Type} (name key : String) (write : α → Value) (o : Option α) :
    Value.lookup (.name name) (Value.named (whenStated key write o)) =
      if name = key then o.map write else none := by
  cases o with
  | none => simp [whenStated, Value.lookup]
  | some a =>
    by_cases h : name = key
    · simp [whenStated, Value.lookup, h]
    · simp [whenStated, Value.lookup, h, Ne.symm h]

theorem sublist_keys_whenStated {α : Type} (key : String) (write : α → Value) (o : Option α) :
    List.Sublist ((whenStated key write o).map Prod.fst) [key] := by
  cases o <;> simp [whenStated]

/-- The keys under which a node is presented. -/
def presentationKeys : List String :=
  ["title", "description", "importance", "extractionInstructions", "displayName", "examples",
    "enum", "order"]

theorem Presentation.sublist_keys_fields (about : Presentation) :
    List.Sublist (about.fields.map Prod.fst) presentationKeys := by
  simp only [Presentation.fields, List.map_append]
  exact ((((((((sublist_keys_whenStated _ _ _).append (sublist_keys_whenStated _ _ _)).append
    (sublist_keys_whenStated _ _ _)).append (sublist_keys_whenStated _ _ _)).append
    (sublist_keys_whenStated _ _ _)).append (sublist_keys_whenStated _ _ _)).append
    (sublist_keys_whenStated _ _ _)).append (sublist_keys_whenStated _ _ _))

theorem Presentation.lookup_fields {about : Presentation} {key : String}
    (h : key ∉ presentationKeys) :
    Value.lookup (.name key) (Value.named about.fields) = none :=
  Value.lookup_named_eq_none fun hmem => h (about.sublist_keys_fields.subset hmem)

theorem Presentation.nodup_keys (about : Presentation) (type : Value) :
    ((("type", type) :: about.fields).map Prod.fst).Nodup := by
  rw [List.map_cons, List.nodup_cons]
  refine ⟨fun hmem => ?_, about.sublist_keys_fields.nodup (by decide)⟩
  have hkey : "type" ∈ presentationKeys := about.sublist_keys_fields.subset hmem
  exact absurd hkey (by decide)

theorem notMem_presentationKeys {fields : List (String × Value)} (keys : List String)
    (hsub : List.Sublist (fields.map Prod.fst) keys)
    (hkeys : ∀ key ∈ keys, key ∉ presentationKeys) :
    ∀ name ∈ fields.map Prod.fst, name ∉ presentationKeys :=
  fun name hname => hkeys name (hsub.subset hname)

/-- A key that is stated as soon as the fields that frame a presentation do not state it. -/
theorem lookup_framed {before fields after : List (String × Value)} {key : String}
    (hbefore : key ∉ before.map Prod.fst) (hafter : key ∉ after.map Prod.fst) :
    Value.lookup (.name key) (Value.named (before ++ fields ++ after)) =
      Value.lookup (.name key) (Value.named fields) := by
  simp only [Value.named_append, Value.lookup_append, Value.lookup_named_eq_none hbefore,
    Value.lookup_named_eq_none hafter, Option.none_or, Option.or_none]

theorem getD_framed {before fields after : List (String × Value)} {key : String}
    (hbefore : key ∉ before.map Prod.fst) (hafter : key ∉ after.map Prod.fst) :
    Value.getD (Value.named (before ++ fields ++ after)) key =
      Value.getD (Value.named fields) key := by
  rw [Value.getD, Value.getD, lookup_framed hbefore hafter]

/-! ## Fields set over others -/

theorem exists_name_of_mem_putAll {fields : List (String × Value)} {es : Value.Entries}
    (h : ∀ e ∈ es, ∃ s, e.1 = .name s) : ∀ e ∈ putAll fields es, ∃ s, e.1 = Key.name s := by
  induction fields generalizing es with
  | nil => exact h
  | cons field fields ih => exact ih (Value.exists_name_of_mem_put h)

/-- Of fields that were set, those that were set count. -/
theorem lookup_putAll {fields : List (String × Value)} {es : Value.Entries}
    (h : (fields.map Prod.fst).Nodup) (key : String) :
    Value.lookup (.name key) (putAll fields es) =
      (Value.lookup (.name key) (Value.named fields)).or (Value.lookup (.name key) es) := by
  induction fields generalizing es with
  | nil => simp [putAll, Value.lookup]
  | cons field fields ih =>
    obtain ⟨name, v⟩ := field
    rw [List.map_cons, List.nodup_cons] at h
    have hstep : putAll ((name, v) :: fields) es = putAll fields (Value.put (.name name) v es) :=
      rfl
    rw [hstep, ih h.2]
    by_cases hkey : name = key
    · subst hkey
      rw [Value.lookup_named_eq_none h.1, Value.lookup_put_self]
      simp [Value.lookup]
    · rw [Value.lookup_put_of_ne (by simpa using Ne.symm hkey)]
      simp [Value.lookup, hkey]

theorem putAll_eq_self {fields : List (String × Value)} {es : Value.Entries}
    (h : ∀ field ∈ fields, Value.lookup (.name field.1) es = some field.2) :
    putAll fields es = es := by
  induction fields with
  | nil => rfl
  | cons field fields ih =>
    rw [List.forall_mem_cons] at h
    have hstep : putAll (field :: fields) es =
        putAll fields (Value.put (.name field.1) field.2 es) := rfl
    rw [hstep, Value.put_eq_self_of_lookup h.1, ih h.2]

/-- Fields that are set once more change nothing. -/
theorem putAll_putAll {fields : List (String × Value)} {es : Value.Entries}
    (h : (fields.map Prod.fst).Nodup) :
    putAll fields (putAll fields es) = putAll fields es := by
  refine putAll_eq_self fun field hfield => ?_
  rw [lookup_putAll h, Value.lookup_named_of_mem h hfield]
  rfl

theorem putAll_eq_append {fields : List (String × Value)} {es : Value.Entries}
    (h : (fields.map Prod.fst).Nodup)
    (hfresh : ∀ name ∈ fields.map Prod.fst, Value.lookup (.name name) es = none) :
    putAll fields es = es ++ Value.named fields := by
  induction fields generalizing es with
  | nil => simp [putAll]
  | cons field fields ih =>
    obtain ⟨name, v⟩ := field
    rw [List.map_cons, List.nodup_cons] at h
    have hstep : putAll ((name, v) :: fields) es = putAll fields (Value.put (.name name) v es) :=
      rfl
    have hrest : ∀ other ∈ fields.map Prod.fst,
        Value.lookup (.name other) (Value.put (.name name) v es) = none := by
      intro other hother
      have hne : Key.name other ≠ Key.name name := by
        rintro ⟨rfl⟩
        exact h.1 hother
      rw [Value.lookup_put_of_ne hne]
      exact hfresh other (List.mem_cons_of_mem _ hother)
    rw [hstep, ih h.2 hrest, Value.put_of_lookup_eq_none (hfresh name List.mem_cons_self)]
    simp

theorem Node.toValue_array (about : Presentation) (items : Node) :
    (Node.array about items).toValue =
      .record ([("type", .string arrayType)] ++ about.fields ++ [("items", items.toValue)]) := by
  rw [Node.toValue]

/-- A node of an unknown type that keeps nothing is written as its type and its presentation. -/
theorem Node.toValue_unknown (about : Presentation) (type : String) :
    (Node.unknown about type []).toValue = .record (("type", .string type) :: about.fields) := by
  have hput : putAll (("type", .string type) :: about.fields) [] =
      [] ++ Value.named (("type", .string type) :: about.fields) :=
    putAll_eq_append (about.nodup_keys (.string type)) fun _ _ => rfl
  rw [Node.toValue, Value.named_nil, hput]
  rfl

theorem Node.toValue_eq_object (node : Node) :
    ∃ entries, node.toValue = .object entries ∧
      Value.getD entries "type" = .string node.type := by
  cases node with
  | primitive about kind limits => exact ⟨_, rfl, rfl⟩
  | array about items => exact ⟨_, rfl, rfl⟩
  | object about properties required additional => exact ⟨_, rfl, rfl⟩
  | unknown about type raw =>
    refine ⟨_, rfl, ?_⟩
    rw [Value.getD, lookup_putAll (about.nodup_keys _)]
    simp [Value.lookup, Node.type]

/-! ## Constraints and children -/

/-- The keys under which the constraints of a primitive node stand. -/
def boundsKeys : List String := ["format", "minLength", "maxLength", "minimum", "maximum"]

theorem Bounds.sublist_keys_limits (limits : Bounds) :
    List.Sublist (limits.limits.map Prod.fst) ["minLength", "maxLength", "minimum", "maximum"] := by
  simp only [Bounds.limits, List.map_append]
  exact (((sublist_keys_whenStated _ _ _).append (sublist_keys_whenStated _ _ _)).append
    (sublist_keys_whenStated _ _ _)).append (sublist_keys_whenStated _ _ _)

/-- What is written about a primitive node beside its presentation stands under other keys. -/
theorem notMem_primitiveFrame (type : Value) (limits : Bounds) :
    (∀ name ∈ ([("type", type)] ++ whenStated "format" .string limits.format).map Prod.fst,
        name ∉ presentationKeys) ∧
      ∀ name ∈ limits.limits.map Prod.fst, name ∉ presentationKeys := by
  constructor
  · refine notMem_presentationKeys ["type", "format"] ?_ (by decide)
    exact (List.Sublist.refl ["type"]).append (sublist_keys_whenStated _ _ _)
  · exact notMem_presentationKeys _ limits.sublist_keys_limits (by decide)

/-- What is written about an object beside its presentation. -/
theorem keys_objectFields (children : List (String × Value)) (required : List String)
    (additional : Option Bool) :
    List.Sublist ((objectFields children required additional).map Prod.fst)
      ["properties", "required", "additionalProperties"] := by
  cases required <;> cases additional <;> simp [objectFields, whenStated]

theorem childValues_eq_map (kids : Properties) :
    childValues kids = kids.map fun kid => (kid.1, kid.2.toValue) := by
  induction kids with
  | nil => rfl
  | cons kid kids ih => rw [childValues, ih, List.map_cons]

/-- An object that is no tree states its type before anything else. -/
theorem sublist_keys_type (type : Value) :
    ([("type", type)].map Prod.fst).Sublist ["$schema", "type"] := by
  simp

section WrittenObject

variable {about : Presentation} {before children : List (String × Value)}
  {required : List String} {more : Option Bool}

/-- The entries of a written object, after those that tell what it is. -/
abbrev objectEntries (before : List (String × Value)) (about : Presentation)
    (children : List (String × Value)) (required : List String) (more : Option Bool) :
    Value.Entries :=
  Value.named (before ++ about.fields ++ objectFields children required more)

/-- The entries that every object states stand after its presentation. -/
theorem lookup_objectEntries {key : String}
    (hbefore : (before.map Prod.fst).Sublist ["$schema", "type"])
    (hkey : key ∈ ["properties", "required", "additionalProperties"]) :
    Value.lookup (.name key) (objectEntries before about children required more) =
      Value.lookup (.name key) (Value.named (objectFields children required more)) := by
  have hnot : key ∉ ["$schema", "type"] ∧ key ∉ presentationKeys := by
    revert key
    decide
  have hnone : key ∉ before.map Prod.fst := fun hmem => hnot.1 (hbefore.subset hmem)
  simp only [objectEntries, Value.named_append, Value.lookup_append,
    Value.lookup_named_eq_none hnone, Presentation.lookup_fields hnot.2, Option.none_or]

theorem lookup_properties_objectEntries
    (hbefore : (before.map Prod.fst).Sublist ["$schema", "type"]) :
    Value.lookup (.name "properties") (objectEntries before about children required more) =
      some (.record children) := by
  rw [lookup_objectEntries hbefore (by decide)]
  rfl

end WrittenObject

end ExtractionSchema.Wire
