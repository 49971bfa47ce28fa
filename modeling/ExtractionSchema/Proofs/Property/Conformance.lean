import ExtractionSchema.Proofs.Compilation
import ExtractionSchema.Proofs.Conversion.Rearranged
import ExtractionSchema.Proofs.Record.Conformance

/-!
# Records that conform to a property list

A record conforms to a property list when it is an object that has the required fields, and each
field that is there has a value of the type that its property states, or `null` if it is not
required. Undeclared fields do not matter. A compiled property list accepts exactly the records
that conform to it: the tree of a property list asks for the same, field by field, also after it
was written and read again.

* `Property.ListConforms` says when a record conforms, by the stated types alone.
* `compileProperties_validate_iff`: validation with a compiled property list decides it.
-/

namespace ExtractionSchema

open Conversion Wire

/-! ## Conformance -/

/-- A value of an element type of lists. -/
def ScalarItem.Matches : ScalarItem → Value → Prop
  | .string, v => ∃ s, v = .string s
  | .number, v => ∃ n, v = .number n
  | .boolean, v => ∃ b, v = .bool b
  | .date, v => ∃ s, v = .string s ∧ IsDateForm s

/-- A value of a type other than a list; a type that is not known admits every value. -/
def TypeMatches (type : String) (v : Value) : Prop :=
  if type = "string" then ∃ s, v = .string s
  else if type = "number" then ∃ n, v = .number n
  else if type = "integer" then ∃ n, v = .number n ∧ ∃ i : Int, n.value? = some (.point i)
  else if type = "boolean" then ∃ b, v = .bool b
  else if type = "date" then ∃ s, v = .string s ∧ IsDateForm s
  else if type = "object" then ∃ entries, v = .object entries
  else True

/-- A value of a simple shape. -/
def SimpleShape.Matches : SimpleShape → Value → Prop
  | .plain type, v => TypeMatches type v
  | .list item, v => ∃ vs, v = .list vs ∧ ∀ w ∈ vs, item.Matches w

/-- A record that has the required fields, and in each field that is there a value that matches it,
or `null` if it is not required. -/
def FieldsConform {α : Type} (info : α → FieldInfo) (fits : α → Value → Prop) (ps : List α)
    (record : Value) : Prop :=
  ∃ entries, record = .object entries ∧ ∀ p ∈ ps,
    ((info p).required = true → ∃ w, Value.lookup (.name (info p).name) entries = some w) ∧
      ∀ w, Value.lookup (.name (info p).name) entries = some w →
        (w = .null ∧ (info p).required = false) ∨ fits p w

/-- A value of a shape: an element of a list of objects conforms to the nested fields. -/
def Shape.Matches : Shape → Value → Prop
  | .simple shape, v => shape.Matches v
  | .objects fields, v =>
    ∃ vs, v = .list vs ∧
      ∀ w ∈ vs, FieldsConform NestedProperty.info (fun f => f.shape.Matches) fields w

/-- Whether a record conforms to a property list. -/
def Property.ListConforms (ps : List Property) (record : Value) : Prop :=
  FieldsConform Property.info (fun p => p.shape.Matches) ps record

/-! ## What nodes of fields ask for -/

/-- A node asks for nothing but types and forms: no allowed values are stated. -/
theorem Wire.Presentation.lists_of_enum {about : Presentation} (h : about.enum = none) (v : Value) :
    about.Lists v := by
  simp [Presentation.Lists, h]

theorem conforms_dateNode {about : Presentation} (h : about.enum = none) {v : Value} :
    (dateNode about).Conforms v ↔ ∃ s, v = .string s ∧ IsDateForm s := by
  have hlists := Presentation.lists_of_enum h v
  simp only [dateNode, Node.Conforms, Primitive.Holds, Bounds.Hold, hlists, and_true]
  constructor
  · rintro ⟨⟨s, rfl⟩, hhold⟩
    exact ⟨s, rfl, (hhold s rfl).1 trivial⟩
  · rintro ⟨s, rfl, hdate⟩
    refine ⟨⟨s, rfl⟩, ?_⟩
    rintro _ ⟨⟩
    exact ⟨fun _ => hdate, by simp, by simp⟩

theorem conforms_plain {about : Presentation} (h : about.enum = none) {kind : Primitive}
    {v : Value} : (Node.primitive about kind {}).Conforms v ↔ kind.Holds v := by
  have hlists := Presentation.lists_of_enum h v
  have hhold : ({} : Bounds).Hold kind v := by
    cases kind <;> simp [Bounds.Hold]
  simp only [Node.Conforms, hlists, hhold, and_true]

theorem conforms_scalarItem {item : ScalarItem} {v : Value} :
    item.node.Conforms v ↔ item.Matches v := by
  cases item with
  | date => exact conforms_dateNode rfl
  | string | number | boolean => exact conforms_plain rfl

theorem typeMatches_of_ofName? {type : String} {kind : Primitive}
    (h : Primitive.ofName? type = some kind) {v : Value} : TypeMatches type v ↔ kind.Holds v := by
  rw [← Primitive.name_of_ofName? h]
  cases kind <;> rfl

theorem typeMatches_of_unknown {type : String} (hdate : type ≠ dateType)
    (hname : Primitive.ofName? type = none) {v : Value} :
    TypeMatches type v ↔ (type = objectType → ∃ entries, v = .object entries) := by
  have hne : type ≠ "string" ∧ type ≠ "number" ∧ type ≠ "integer" ∧ type ≠ "boolean" := by
    refine ⟨?_, ?_, ?_, ?_⟩ <;>
      · rintro rfl
        exact absurd hname (by decide)
  have hdate' : type ≠ "date" := hdate
  rw [TypeMatches, if_neg hne.1, if_neg hne.2.1, if_neg hne.2.2.1, if_neg hne.2.2.2,
    if_neg hdate']
  by_cases hobject : type = "object"
  · simp [hobject, objectType]
  · simp [hobject, objectType]

/-- The node of a field of a simple shape, written and read again, asks for a value of the shape. -/
theorem SimpleShape.conforms_reread {about : Presentation} (h : about.enum = none)
    {shape : SimpleShape} {v : Value} : (shape.node about).reread.Conforms v ↔ shape.Matches v := by
  cases shape with
  | list item =>
    have hlists := Presentation.lists_of_enum h v
    have hnode : (SimpleShape.node about (.list item)).reread = .array about item.node := by
      cases item <;> rfl
    simp only [hnode, Node.Conforms, hlists, and_true, SimpleShape.Matches, conforms_scalarItem]
  | plain type =>
    unfold SimpleShape.node
    dsimp only
    split
    · rename_i hdate
      subst hdate
      exact conforms_dateNode h
    · rename_i hdate
      split
      · rename_i kind hkind
        exact (conforms_plain h).trans (typeMatches_of_ofName? hkind).symm
      · rename_i hname
        rw [SimpleShape.Matches, typeMatches_of_unknown hdate hname]
        by_cases hobject : type = objectType
        · have hlists := Presentation.lists_of_enum h v
          simp [Node.reread, hobject, Node.Conforms, ChildrenConform, hlists]
        · simp [Node.reread, hobject, Node.Conforms]

/-! ## What children ask for -/

section Children

variable {α : Type} {info : α → FieldInfo} {node : Presentation → α → Node}
  {fits : α → Value → Prop}

theorem childrenConform_iff {required : List String} {entries : Value.Entries} {i : Nat}
    {ps : List α}
    (hnode : ∀ about, about.enum = none → ∀ p ∈ ps, ∀ v,
      (node about p).reread.Conforms v ↔ fits p v) :
    ChildrenConform required (rereadAll (childrenFrom info node i ps)) entries ↔
      ∀ p ∈ ps, ∀ w, Value.lookup (.name (info p).name) entries = some w →
        fits p w ∨ ((info p).name ∉ required ∧ w = .null) := by
  induction ps generalizing i with
  | nil => simp [childrenFrom, rereadAll, ChildrenConform]
  | cons p ps ih =>
    have hrest := ih (i := i + 1) fun about h q hq => hnode about h q (List.mem_cons_of_mem _ hq)
    have hhead := hnode ((info p).presentation i) rfl p List.mem_cons_self
    rw [childrenFrom, rereadAll, ChildrenConform, hrest, List.forall_mem_cons]
    simp only [hhead]

/-- An object whose children are made from fields, written and read again, asks that a record
conform to the fields. -/
theorem conforms_object_reread {about : Presentation} {ps : List α} {record : Value}
    (habout : about.enum = none) (hnames : (ps.map fun p => (info p).name).Nodup)
    (hnode : ∀ about, about.enum = none → ∀ p ∈ ps, ∀ v,
      (node about p).reread.Conforms v ↔ fits p v) :
    (Node.object about (rereadAll (childrenFrom info node 0 ps)) (requiredOf info ps)
      none).Conforms record ↔ FieldsConform info fits ps record := by
  have hlists := Presentation.lists_of_enum habout record
  have hrequired : ∀ p ∈ ps, ((info p).name ∉ requiredOf info ps ↔ (info p).required = false) := by
    intro p hp
    rw [← List.contains_iff_mem, Bool.not_eq_true, contains_requiredOf hnames p hp]
  have hthere : ∀ entries : Value.Entries,
      (∀ name ∈ requiredOf info ps, ∃ w, Value.lookup (.name name) entries = some w) ↔
        ∀ p ∈ ps, (info p).required = true →
          ∃ w, Value.lookup (.name (info p).name) entries = some w := by
    intro entries
    simp only [requiredOf, List.forall_mem_map, List.mem_filter, and_imp]
  simp only [Node.Conforms, hlists, and_true, FieldsConform, hthere, childrenConform_iff hnode,
    reduceCtorEq, false_implies]
  refine exists_congr fun entries => and_congr_right fun _ => ?_
  constructor
  · rintro ⟨h1, h2⟩ p hp
    refine ⟨h1 p hp, fun w hw => ?_⟩
    rcases h2 p hp w hw with hfits | ⟨hname, hnull⟩
    · exact .inr hfits
    · exact .inl ⟨hnull, (hrequired p hp).mp hname⟩
  · intro h
    refine ⟨fun p hp => (h p hp).1, fun p hp w hw => ?_⟩
    rcases (h p hp).2 w hw with ⟨hnull, hfield⟩ | hfits
    · exact .inr ⟨(hrequired p hp).mpr hfield, hnull⟩
    · exact .inl hfits

end Children

theorem Shape.conforms_reread {about : Presentation} (h : about.enum = none) {shape : Shape}
    (hshape : shape.WellFormed) {v : Value} :
    (shape.node about).reread.Conforms v ↔ shape.Matches v := by
  cases shape with
  | simple shape => exact SimpleShape.conforms_reread h
  | objects fields =>
    have hlists := Presentation.lists_of_enum h v
    have hitems : ∀ w, (Node.object {} (nestedChildren fields)
        (requiredOf NestedProperty.info fields) none).reread.Conforms w ↔
          FieldsConform NestedProperty.info (fun f => f.shape.Matches) fields w :=
      fun w => conforms_object_reread rfl hshape.2.2 fun about habout f _ v =>
        SimpleShape.conforms_reread habout
    rw [Shape.node, Node.reread, Node.Conforms]
    simp only [hitems, hlists, and_true, Shape.Matches]

/-- The tree of a property list, written and read again, asks that a record conform to the list. -/
theorem Property.conforms_root_reread {ps : List Property} (hps : Property.ListWellFormed ps)
    {record : Value} :
    (Wire.Tree.ofProperties ps).reread.root.Conforms record ↔
      Property.ListConforms ps record :=
  conforms_object_reread rfl hps.names fun _ habout p hp _ =>
    Shape.conforms_reread habout (hps.each p hp).shape

/-! ## Nothing else is asked for -/

/-- A presentation that states no allowed values. -/
def Wire.Presentation.IsOpen (about : Presentation) : Prop := about.enum = none

/-- Constraints without limits. -/
structure Wire.Bounds.IsUnlimited (limits : Bounds) : Prop where
  minLength : limits.minLength = none
  maxLength : limits.maxLength = none
  minimum : limits.minimum = none
  maximum : limits.maximum = none

/-- A node within which nothing but types and forms is asked for. -/
def Wire.Node.AsksForTypes (node : Node) : Prop :=
  node.All Presentation.IsOpen Bounds.IsUnlimited

theorem Wire.Node.AsksForTypes.hasDistinctKeys {node : Node} (h : node.AsksForTypes) :
    node.HasDistinctKeys := by
  refine Node.All.imp ?_ (fun _ _ => trivial) node h
  intro about hopen allowed hallowed
  rw [hopen] at hallowed
  cases hallowed

theorem Wire.Node.AsksForTypes.isShowable {node : Node} (h : node.AsksForTypes) :
    node.All Presentation.IsShowable Bounds.IsShowable := by
  refine Node.All.imp ?_ ?_ node h
  · intro about hopen allowed hallowed
    rw [hopen] at hallowed
    cases hallowed
  · intro limits hlimits
    constructor <;> simp [hlimits.minLength, hlimits.maxLength, hlimits.minimum, hlimits.maximum]

theorem SimpleShape.asksForTypes_reread {about : Presentation} (h : about.enum = none)
    (shape : SimpleShape) : (shape.node about).reread.AsksForTypes := by
  cases shape with
  | list item => cases item <;> exact ⟨h, rfl, rfl, rfl, rfl, rfl⟩
  | plain type =>
    unfold SimpleShape.node
    dsimp only
    split
    · exact ⟨h, rfl, rfl, rfl, rfl⟩
    · split
      · exact ⟨h, rfl, rfl, rfl, rfl⟩
      · unfold Node.reread
        split
        · exact ⟨h, trivial⟩
        · exact h

theorem asksForTypes_children {α : Type} {info : α → FieldInfo} {node : Presentation → α → Node}
    (hnode : ∀ about p, about.enum = none → (node about p).reread.AsksForTypes) (i : Nat)
    (ps : List α) : AllWithin Presentation.IsOpen Bounds.IsUnlimited
      (rereadAll (childrenFrom info node i ps)) := by
  induction ps generalizing i with
  | nil => trivial
  | cons p ps ih => exact ⟨hnode _ p rfl, ih (i + 1)⟩

theorem Shape.asksForTypes_reread {about : Presentation} (h : about.enum = none) (shape : Shape) :
    (shape.node about).reread.AsksForTypes := by
  cases shape with
  | simple shape => exact shape.asksForTypes_reread h
  | objects fields =>
    exact ⟨h, rfl, asksForTypes_children (fun _ f habout => f.shape.asksForTypes_reread habout) 0
      fields⟩

theorem Wire.Tree.asksForTypes_reread (ps : List Property) :
    (Wire.Tree.ofProperties ps).reread.root.AsksForTypes :=
  ⟨rfl, asksForTypes_children (fun _ p habout => p.shape.asksForTypes_reread habout) 0 ps⟩

/-! ## Compiled property lists -/

theorem contract_of_compile {settings : Settings} {definition : Value} {companions : Companions}
    {c : CompiledSchema} (h : compile settings definition companions = .ok c) :
    ∃ t, Wire.Tree.ofValue definition = .ok t ∧ c.contract = t.contract := by
  have hcompiled := compile_eq_ok_iff.mp h
  exact ⟨c.tree, hcompiled.tree, hcompiled.contract⟩

/-- A compiled property list accepts exactly the records that conform to the property list, and
nothing stands in the way of telling the mismatches of a record whose integers can be shown. -/
theorem compileProperties_validate_iff {settings : Settings} {v record : Value}
    {ps : List Property} {companions : Companions} {c : CompiledSchema}
    (hps : Property.listOfValue v = .ok ps) (hc : compileProperties settings ps companions = .ok c)
    (hrecord : record.isDocument = true) :
    (c.validate record = [] ↔ Property.ListConforms ps record) ∧
      (record.isShowable = true → record.hasShortLists = true →
        c.contract.obstacle record = none) := by
  -- the list was compiled, so its tree was read, and it comes back as the tree read again
  obtain ⟨t, ht, hcontract⟩ := contract_of_compile hc
  obtain rfl := Wire.Tree.eq_reread_of_ofValue ht
  have hasks := Wire.Tree.asksForTypes_reread ps
  constructor
  · have hroot := Node.violations_eq_nil_iff _ hasks.hasDistinctKeys false record hrecord
    have hconforms : (Wire.Tree.ofProperties ps).reread.root.Conforms record ↔
        Property.ListConforms ps record :=
      Property.conforms_root_reread (Property.listOfValue_wellFormed hps)
    rw [CompiledSchema.validate, validate_eq_nil_iff, Contract.accepts_iff, hcontract,
      Wire.Tree.contract, hroot, ← hconforms]
    simp
  · intro hshow hlists
    refine Contract.obstacle_eq_none ?_ hshow hlists
    rw [hcontract]
    exact Node.isShowable_contract _ hasks.isShowable false

/-- A record of the three fields of `sampleDocument`, one of which may be left out. -/
def sampleAnswer : Value :=
  .record [("due", .string "2024-05-01"),
    ("rows", .list [.record [("paid", .string "2024-01-02"), ("tags", .null)]])]

theorem compileProperties_validate_iff_sample :
    ∃ c, compileProperties {} sampleProperties {} = .ok c ∧
      Property.ListConforms sampleProperties sampleAnswer ∧
      c.contract.obstacle sampleAnswer = none := by
  have hrecord : sampleAnswer.isDocument = true := by rfl
  have hlists : sampleAnswer.hasShortLists = true := by decide +kernel
  have hok : (match compileProperties {} sampleProperties {} with
      | .ok c => (c.validate sampleAnswer).isEmpty
      | .error _ => false) = true := by decide +kernel
  cases hc : compileProperties {} sampleProperties {} with
  | error _ => simp [hc] at hok
  | ok c =>
    rw [hc] at hok
    obtain ⟨hvalid, hobstacle⟩ :=
      compileProperties_validate_iff Property.listOfValue_sample hc hrecord
    exact ⟨c, rfl, hvalid.mp (List.isEmpty_iff.mp hok), hobstacle rfl hlists⟩

end ExtractionSchema
