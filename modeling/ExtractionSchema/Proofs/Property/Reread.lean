import ExtractionSchema.Proofs.Property.Plain

/-!
# Written properties are read again

A property is written with what it states, and what it leaves out is read as not stated, or as the
default that it is. One thing is lost on the way: an output that is `null` is left out, while an
example must state its output.

* `Property.ofValue_toValue`: a written property is read as it is, unless it has such examples, and
  then each of them is a fault.
* `Property.listOfValue_written` says this of property lists.
-/

namespace ExtractionSchema

/-! ## Readings whose faults are known -/

namespace Checked

variable {α β : Type}

/-- A result, unless there are faults. -/
def verdict (faults : List Fault) (a : α) : Checked α :=
  match faults with
  | [] => .ok a
  | fault :: more => .faulty (fault :: more)

theorem map_verdict (f : α → β) (faults : List Fault) (a : α) :
    f <$> verdict faults a = verdict faults (f a) := by
  cases faults <;> rfl

theorem seq_verdict (faults more : List Fault) (f : α → β) (a : α) :
    verdict faults f <*> verdict more a = verdict (faults ++ more) (f a) := by
  cases faults with
  | nil => cases more <;> rfl
  | cons fault faults =>
    cases more with
    | nil => simp [verdict, Seq.seq, seq]
    | cons => rfl

theorem under_verdict (step : Step) (faults : List Fault) (a : α) :
    (verdict faults a).under step = verdict (faults.map (Fault.under step)) a := by
  cases faults <;> rfl

theorem andThen_verdict {f : α → Checked β} {a : α} {b : β} (h : f a = .ok b)
    (faults : List Fault) : (verdict faults a).andThen f = verdict faults b := by
  cases faults with
  | nil => exact h
  | cons => rfl

/-- The faults of the items of a list, each with the index of its item. -/
def faultsFrom (faults : α → List Fault) (i : Nat) (as : List α) : List Fault :=
  (as.zipIdx i).flatMap fun (a, i) => (faults a).map (Fault.under (.item i))

theorem each_verdict {read : Value → Checked α} {write : α → Value} {faults : α → List Fault}
    {as : List α} (h : ∀ a ∈ as, read (write a) = verdict (faults a) a) :
    each read (as.map write) = verdict (faultsFrom faults 0 as) as := by
  have hfrom : ∀ i, eachFrom read i (as.map write) = verdict (faultsFrom faults i as) as := by
    induction as with
    | nil => exact fun _ => rfl
    | cons a as ih =>
      intro i
      rw [List.forall_mem_cons] at h
      rw [List.map_cons, eachFrom, h.1, ih h.2, under_verdict, map_verdict, seq_verdict]
      rfl
  exact hfrom 0

theorem faultsFrom_eq_nil_iff {faults : α → List Fault} {i : Nat} {as : List α} :
    faultsFrom faults i as = [] ↔ ∀ a ∈ as, faults a = [] := by
  induction as generalizing i with
  | nil => simp [faultsFrom]
  | cons a as ih =>
    have hcons : faultsFrom faults i (a :: as) =
        (faults a).map (Fault.under (.item i)) ++ faultsFrom faults (i + 1) as := rfl
    rw [hcons, List.append_eq_nil_iff, List.map_eq_nil_iff, ih, List.forall_mem_cons]

end Checked

/-! ## Outputs that are left out -/

/-- The fault of a written example whose output is left out. -/
def Example.omissions (e : Example) : List Fault :=
  if e.output = .null then [⟨[.name "output"], .missing, e.toValue⟩] else []

/-- The faults of the written examples of a field whose outputs are left out. -/
def FieldInfo.omissions (info : FieldInfo) : List Fault :=
  (Checked.faultsFrom Example.omissions 0 (info.examples.getD [])).map
    (Fault.under (.name "examples"))

/-- The faults of the written examples of a property and of its nested fields. -/
def Property.omissions (p : Property) : List Fault :=
  p.info.omissions ++
    (Checked.faultsFrom (fun f : NestedProperty => f.info.omissions) 0
      (p.shape.fields?.getD [])).map (Fault.under (.name "fields"))

/-- The examples of a property and of its nested fields. -/
def Property.examples (p : Property) : List Example :=
  p.info.examples.getD [] ++ (p.shape.fields?.getD []).flatMap fun f => f.info.examples.getD []

theorem Example.omissions_eq_nil_iff {e : Example} : e.omissions = [] ↔ e.output ≠ .null := by
  unfold omissions
  split <;> simp_all

theorem FieldInfo.omissions_eq_nil_iff {info : FieldInfo} :
    info.omissions = [] ↔ ∀ e ∈ info.examples.getD [], e.output ≠ .null := by
  rw [omissions, List.map_eq_nil_iff, Checked.faultsFrom_eq_nil_iff]
  simp only [Example.omissions_eq_nil_iff]

/-- A property has no faults exactly when no example has `null` for its output. -/
theorem Property.omissions_eq_nil_iff {p : Property} :
    p.omissions = [] ↔ ∀ e ∈ p.examples, e.output ≠ .null := by
  rw [omissions, List.append_eq_nil_iff, List.map_eq_nil_iff, Checked.faultsFrom_eq_nil_iff,
    examples, List.forall_mem_append, List.forall_mem_flatMap]
  simp only [FieldInfo.omissions_eq_nil_iff]

/-! ## Reading what a field states -/

theorem lookup_named_stated (key name : String) (o : Option Value) :
    Value.lookup (.name key) (Value.named (stated name o)) = if name = key then o else none := by
  cases o <;> simp [stated, Value.lookup]

namespace Reading

variable {α : Type} {name : String} {names : List String} {entries : Value.Entries}

theorem field_of_absent {default : α} {read : Value → Checked α}
    (h : ∀ name ∈ names, Value.lookup (.name name) entries = none) :
    field names default read entries = .ok default := by
  have hfind : find entries names = none := by
    rw [find, List.findSome?_eq_none_iff]
    intro name hname
    rw [h name hname]
    rfl
  rw [field, hfind]

/-- An optional field that is written where it is stated is read back. -/
theorem field_of_optional {read : Value → Checked α} (write : α → Value) {o : Option α}
    (hlookup : Value.lookup (.name name) entries = o.map write)
    (hnames : ∀ other ∈ names, Value.lookup (.name other) entries = none)
    (h : ∀ a ∈ o, read (write a) = .ok a ∧ write a ≠ .null) :
    field (name :: names) none (optional read) entries = .ok o := by
  cases o with
  | none => exact field_of_absent (List.forall_mem_cons.mpr ⟨hlookup, hnames⟩)
  | some a =>
    obtain ⟨hread, hnull⟩ := h a rfl
    exact field_of_lookup hlookup (optional_eq_some_iff.mpr ⟨hnull, hread⟩)

/-- An optional list that is written where it is stated is read as its items are. -/
theorem field_written {read : Value → Checked α} {write : α → Value} {faults : α → List Fault}
    {o : Option (List α)}
    (hlookup : Value.lookup (.name name) entries = o.map fun as => .list (as.map write))
    (h : ∀ a ∈ o.getD [], read (write a) = Checked.verdict (faults a) a) :
    field [name] none (optional (list read)) entries =
      Checked.verdict ((Checked.faultsFrom faults 0 (o.getD [])).map (Fault.under (.name name)))
        o := by
  cases o with
  | none => exact field_of_absent (by simpa using hlookup)
  | some as =>
    have hfield : field [name] none (optional (list read)) entries =
        (some <$> Checked.each read (as.map write)).under (.name name) := by
      simp only [field, find, List.findSome?_cons, hlookup, Option.map_some]
      rfl
    rw [Option.getD_some] at h
    rw [hfield, Checked.each_verdict h, Checked.map_verdict, Checked.under_verdict]
    rfl

theorem propertyExample_toValue {e : Example} (h : e.output.HasFiniteNumbers) :
    propertyExample e.toValue = Checked.verdict e.omissions e := by
  obtain ⟨id, input, output⟩ := e
  by_cases hnull : output = .null
  · subst hnull
    rfl
  · simp only [Example.toValue, Example.omissions, if_neg hnull, h.interchange_eq]
    rfl

theorem field_examples {info : FieldInfo}
    (houtputs : ∀ e ∈ info.examples.getD [], e.output.HasFiniteNumbers)
    (hlookup : Value.lookup (.name "examples") entries =
      info.examples.map fun es => .list (es.map Example.toValue)) :
    field ["examples"] none (optional (list propertyExample)) entries =
      Checked.verdict info.omissions info.examples :=
  field_written hlookup fun e he => propertyExample_toValue (houtputs e he)

/-- What a written field says is read from it, with its element type. -/
theorem draft_written {ι : Type} {items : List (String × ι)} {itemName : ι → String}
    {info : FieldInfo} {type : String} {item : Option ι} {nested : Option Value}
    (hinfo : info.WellFormed)
    (houtputs : ∀ e ∈ info.examples.getD [], e.output.HasFiniteNumbers)
    (hitems : ∀ i : ι, choice items (.string (itemName i)) = .ok i) :
    draft items (Value.named (info.fields type
        (stated "itemType" (item.map fun i => .string (itemName i)) ++ stated "fields" nested))) =
      Checked.verdict info.omissions (info.draft type item) := by
  generalize hentries : Value.named (info.fields type
    (stated "itemType" (item.map fun i => .string (itemName i)) ++ stated "fields" nested)) =
      entries
  have hlookup : ∀ key, Value.lookup (.name key) entries = Value.lookup (.name key)
      (Value.named (info.fields type (stated "itemType" (item.map fun i => .string (itemName i)) ++
        stated "fields" nested))) := fun key => by rw [hentries]
  simp only [FieldInfo.fields, Value.named_append, Value.lookup_append, lookup_named_stated,
    Value.named_cons, Value.named_nil, Value.lookup, Key.name.injEq] at hlookup
  have hname : required "name" nonEmptyText entries = .ok info.name :=
    required_of_lookup (by simp [hlookup]) (nonEmptyText_string hinfo.name_ne)
  have htype : required "type" text entries = .ok type :=
    required_of_lookup (v := .string type) (by simp [hlookup]) rfl
  have htitle : field ["title"] none (optional text) entries = .ok (some info.title) :=
    field_of_lookup (v := .string info.title) (by simp [hlookup]) rfl
  have hdescription : field ["description"] "" text entries = .ok info.description :=
    field_of_lookup (v := .string info.description) (by simp [hlookup]) rfl
  have himportance : field ["importance", "priority"] none
      (optional (choice Importance.names)) entries = .ok info.importance := by
    refine field_of_optional (fun i => .string i.name) (by simp [hlookup])
      (by simp [hlookup]) fun i _ => ⟨?_, by simp⟩
    cases i <;> rfl
  have hrequired : field ["required"] false flag entries = .ok info.required :=
    field_of_lookup (v := .bool info.required) (by simp [hlookup]) rfl
  have hinstructions : field ["extractionInstructions", "extraction_instructions"] none
      (optional text) entries = .ok info.instructions :=
    field_of_optional .string (by simp [hlookup]) (by simp [hlookup])
      fun _ _ => ⟨rfl, by simp⟩
  have hexamples : field ["examples"] none (optional (list propertyExample)) entries =
      Checked.verdict info.omissions info.examples :=
    field_examples houtputs (by simp [hlookup])
  have hitem : field ["itemType", "item_type"] none (optional (choice items)) entries =
      .ok item :=
    field_of_optional (fun i => .string (itemName i)) (by simp [hlookup])
      (by simp [hlookup]) fun i _ => ⟨hitems i, by simp⟩
  simp only [draft, hname, htype, htitle, hdescription, himportance, hrequired, hinstructions,
    hexamples, hitem]
  cases info.omissions <;> rfl

end Reading

/-! ## Reading written properties -/

open Conversion (choice_scalarItem choice_itemType nestedShape_draft shape_draft
  shape_draft_objects)

theorem NestedProperty.toValue_eq (f : NestedProperty) : f.toValue =
    .record (f.info.fields f.shape.type
      (stated "itemType" (f.shape.item?.map fun i => .string i.name) ++ stated "fields" none)) := by
  rw [toValue, stated, List.append_nil]

theorem NestedProperty.statesFields_toValue (f : NestedProperty) :
    Reading.statesFields f.toValue = false := by
  have hlookup : f.toValue.get? "fields" = none := by
    simp [toValue, Value.record, Value.get?, FieldInfo.fields, Value.lookup_append,
      lookup_named_stated, Value.lookup]
  rw [Reading.statesFields, hlookup]

/-- A written nested property is read as it is, apart from the outputs that are left out. -/
theorem NestedProperty.nestedProperty_toValue {f : NestedProperty} (hf : f.WellFormed)
    (houtputs : ∀ e ∈ f.info.examples.getD [], e.output.HasFiniteNumbers) :
    Reading.nestedProperty f.toValue = Checked.verdict f.info.omissions f := by
  have hdraft : Reading.draft ScalarItem.names (Value.named (f.info.fields f.shape.type
      (stated "itemType" (f.shape.item?.map fun i => .string i.name) ++ stated "fields" none))) =
        Checked.verdict f.info.omissions (f.info.draft f.shape.type f.shape.item?) :=
    Reading.draft_written hf.info houtputs choice_scalarItem
  have hshape : (f.info.draft f.shape.type f.shape.item?).nestedShape = .ok f.shape := by
    have hmapped : (f.info.draft f.shape.type (f.shape.item?.map fun i => i)).nestedShape =
        .ok f.shape := nestedShape_draft hf.shape
    rwa [Option.map_id'] at hmapped
  rw [Reading.nestedProperty, f.statesFields_toValue, f.toValue_eq]
  simp only [Bool.false_eq_true, if_false, Reading.entriesOf, Checked.andThen, Value.record, hdraft]
  refine Checked.andThen_verdict ?_ _
  rw [hshape, FieldInfo.info_draft hf.info]
  rfl

/-- The nested fields that a written property states are read as they are. -/
theorem Shape.fields_written (info : FieldInfo) {shape : Shape} (item : Option Value)
    (hshape : shape.WellFormed)
    (houtputs : ∀ f ∈ shape.fields?.getD [], ∀ e ∈ f.info.examples.getD [],
      e.output.HasFiniteNumbers) :
    Reading.field ["fields"] none (Reading.optional (Reading.list Reading.nestedProperty))
        (Value.named (info.fields shape.type (stated "itemType" item ++
          stated "fields" (shape.fields?.map fun fs => .list (fs.map NestedProperty.toValue))))) =
      Checked.verdict ((Checked.faultsFrom (fun f : NestedProperty => f.info.omissions) 0
        (shape.fields?.getD [])).map (Fault.under (.name "fields"))) shape.fields? := by
  have hfields : ∀ f ∈ shape.fields?.getD [], f.WellFormed := by
    cases shape with
    | simple => exact nofun
    | objects fs => exact hshape.2.1
  refine Reading.field_written ?_ fun f hf =>
    NestedProperty.nestedProperty_toValue (hfields f hf) (houtputs f hf)
  simp [FieldInfo.fields, Value.lookup_append, lookup_named_stated, Value.lookup]

namespace Property

theorem shape_of_draft {p : Property} (hp : p.WellFormed) :
    (p.info.draft p.shape.type p.shape.item?).shape p.shape.fields? = .ok p.shape := by
  obtain ⟨info, shape⟩ := p
  cases shape with
  | simple shape => exact shape_draft hp.shape
  | objects fs =>
    obtain ⟨hne, -, hnames⟩ := hp.shape
    exact shape_draft_objects hne hnames

/-- A written property is read as it is, apart from the outputs that are left out. -/
theorem ofValue_toValue {p : Property} (hp : p.WellFormed)
    (houtputs : ∀ e ∈ p.examples, e.output.HasFiniteNumbers) :
    ofValue p.toValue = (Checked.verdict p.omissions p).orRefuse "Property" := by
  rw [examples, List.forall_mem_append, List.forall_mem_flatMap] at houtputs
  have hdraft : Reading.draft ItemType.names (Value.named (p.info.fields p.shape.type
      (stated "itemType" (p.shape.item?.map fun i => .string i.name) ++ stated "fields"
        (p.shape.fields?.map fun fs => .list (fs.map NestedProperty.toValue))))) =
        Checked.verdict p.info.omissions (p.info.draft p.shape.type p.shape.item?) :=
    Reading.draft_written hp.info houtputs.1 choice_itemType
  have hfields := Shape.fields_written p.info (p.shape.item?.map fun i => .string i.name) hp.shape
    houtputs.2
  have hread : Reading.property p.toValue = Checked.verdict p.omissions p := by
    simp only [Reading.property, Reading.propertyWith, toValue, Value.record, Reading.entriesOf,
      Checked.andThen, hdraft, hfields, Checked.map_verdict, Checked.seq_verdict]
    refine Checked.andThen_verdict ?_ _
    rw [shape_of_draft hp, FieldInfo.info_draft hp.info]
    rfl
  rw [ofValue, hread]

/-- Whether an example of a property has `null` for its output. -/
def hasNullOutput (p : Property) : Bool := p.examples.any fun e => e.output = .null

theorem hasNullOutput_eq_false_iff {p : Property} :
    p.hasNullOutput = false ↔ ∀ e ∈ p.examples, e.output ≠ .null := by
  simp [hasNullOutput]

/-- Written properties are read up to the first that has an example without an output. -/
theorem ofValues_map_toValue {ps : List Property} (hps : ∀ p ∈ ps, p.WellFormed)
    (houtputs : ∀ p ∈ ps, ∀ e ∈ p.examples, e.output.HasFiniteNumbers) :
    ofValues (ps.map toValue) =
      match ps.find? hasNullOutput with
      | none => .ok ps
      | some p => .error ⟨"Property", p.omissions⟩ := by
  induction ps with
  | nil => rfl
  | cons p ps ih =>
    rw [List.forall_mem_cons] at hps houtputs
    have hread := ofValue_toValue hps.1 houtputs.1
    rw [List.map_cons, ofValues, hread, ih hps.2 houtputs.2, List.find?_cons]
    cases hnull : p.hasNullOutput with
    | false =>
      rw [omissions_eq_nil_iff.mpr (hasNullOutput_eq_false_iff.mp hnull)]
      dsimp only
      cases ps.find? hasNullOutput <;> rfl
    | true =>
      have hne : p.omissions ≠ [] := fun hnil => by
        rw [hasNullOutput_eq_false_iff.mpr (omissions_eq_nil_iff.mp hnil)] at hnull
        cases hnull
      obtain ⟨fault, more, hfaults⟩ := List.exists_cons_of_ne_nil hne
      dsimp only
      rw [hfaults]
      rfl

/-- Two fields: a list of objects whose nested field has an example with a fraction, and a list of
numbers of high importance. -/
def measuredDocument : Value :=
  .list [
    .record [("name", .string "rows"), ("type", .string "list"), ("item_type", .string "object"),
      ("fields", .list [.record [("name", .string "width"), ("type", .string "number"),
        ("examples", .list [.record [("input", .string "1.5 m"),
          ("output", .number (.float (.finite (.ofOdd 3 1 (by decide)))))]])]])],
    .record [("name", .string "totals"), ("type", .string "list"), ("itemType", .string "number"),
      ("priority", .string "high"), ("extraction_instructions", .string "")]]

/-- The property list of the document. -/
def measuredProperties : List Property := [
  { info := { name := "rows", title := "rows", description := "", importance := none,
              required := false, instructions := none, examples := none },
    shape := .objects [
      { info := { name := "width", title := "width", description := "", importance := none,
                  required := false, instructions := none,
                  examples := some [⟨"", "1.5 m",
                    .number (.float (.finite (.ofOdd 3 1 (by decide))))⟩] },
        shape := .plain "number" }] },
  { info := { name := "totals", title := "totals", description := "", importance := some .high,
              required := false, instructions := some "", examples := none },
    shape := .simple (.list .number) }]

/-- A property whose only example has `null` for its output. -/
def unstatedProperty : Property where
  info := { name := "a", title := "a", description := "", importance := none, required := false,
            instructions := none, examples := some [⟨"", "x", .null⟩] }
  shape := .simple (.plain "string")

end Property

end ExtractionSchema
