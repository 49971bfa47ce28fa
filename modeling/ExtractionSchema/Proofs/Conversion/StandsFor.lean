import ExtractionSchema.Conversion
import ExtractionSchema.Proofs.Property.WellFormed
import ExtractionSchema.Proofs.Wire.DisplayOrder

/-!
# Nodes that stand for properties

A node stands for a field when it is presented as the field at its place in the list and tells its
type. A property list can be read off any tree whose children stand for its properties, in
whatever order the children and the required names stand: the order of a child tells its place, and
being named as required tells the rest.

* `Conversion.StandsFor` says that a node stands for a field.
* `Wire.Tree.toProperties_of_standForAll` reads the property list off such a tree.
-/

namespace ExtractionSchema

open Wire (Node)

/-- The draft of a property that says what is given. -/
def FieldInfo.draft {ι : Type} (info : FieldInfo) (type : String) (item : Option ι) : Draft ι where
  name := info.name
  type := type
  title := some info.title
  description := info.description
  importance := info.importance
  required := info.required
  instructions := info.instructions
  examples := info.examples
  item := item

theorem FieldInfo.info_draft {ι : Type} {info : FieldInfo} (h : info.WellFormed) (type : String)
    (item : Option ι) : (info.draft type item).info = info := by
  simp [FieldInfo.draft, Draft.info, Draft.displayTitle, h.title_ne]

/-! ## Reading back what a node says -/

namespace Reading

theorem propertyExample_entries (e : Example) :
    propertyExample (.record e.entries) = .ok e := by
  rfl

theorem nonEmptyText_string {s : String} (h : s ≠ "") : nonEmptyText (.string s) = .ok s := by
  simp [nonEmptyText, text, Checked.andThen, h]

theorem optional_orNull {α : Type} {read : Value → Checked α} {write : α → Value} {o : Option α}
    (h : ∀ a ∈ o, read (write a) = .ok a ∧ write a ≠ .null) :
    optional read (Conversion.orNull write o) = .ok o := by
  have hnull : Conversion.orNull write o = (o.map write).getD .null := by
    cases o <;> rfl
  rw [hnull]
  exact optional_written h

end Reading

theorem optional_importance (importance : Option Importance) :
    Reading.optional (Reading.choice Importance.names)
      (Conversion.orNull .string (importance.map Importance.name)) = .ok importance := by
  cases importance with
  | none => rfl
  | some level => cases level <;> rfl

theorem optional_examples (examples : Option (List Example)) :
    Reading.optional (Reading.list Reading.propertyExample)
      (Conversion.orNull (fun es => .list (es.map Value.record))
        (examples.map (·.map Example.entries))) = .ok examples := by
  cases examples with
  | none => rfl
  | some es =>
    have h : Checked.each Reading.propertyExample (es.map fun e => .record e.entries) = .ok es :=
      Checked.each_map fun e _ => Reading.propertyExample_entries e
    simp only [Option.map_some, Conversion.orNull, Reading.optional, Reading.list, List.map_map]
    exact Checked.map_eq_ok_iff.mpr ⟨es, h, rfl⟩

theorem draft_fields {ι : Type} {items : List (String × ι)} {info : FieldInfo} {i : Nat}
    {node : Node} {type : String} {item : Option ι} {tail : List (String × Value)}
    (hinfo : info.WellFormed) (habout : node.about = info.presentation i)
    (htype : Conversion.typeFields node = ("type", .string type) :: tail)
    (halias : Value.lookup (.name "extractionInstructions")
      (Value.named tail) = none)
    (hitem : Reading.field ["itemType", "item_type"] none (Reading.optional (Reading.choice items))
      (Value.named tail) = .ok item) :
    ∃ entries, Conversion.fields info.name info.required node = .object entries ∧
      Reading.draft items entries = .ok (info.draft type item) := by
  let entries : Value.Entries := [
    (.name "name", .string info.name),
    (.name "title", .string (Conversion.textOr info.name (some info.title))),
    (.name "description", .string info.description),
    (.name "importance", Conversion.orNull .string (info.importance.map Importance.name)),
    (.name "required", .bool info.required),
    (.name "extraction_instructions", Conversion.orNull .string info.instructions),
    (.name "examples", Conversion.orNull (fun es => .list (es.map Value.record))
      (info.examples.map (·.map Example.entries))),
    (.name "type", .string type)] ++ Value.named tail
  have hfields : Conversion.fields info.name info.required node = .object entries := by
    simp [Conversion.fields, Value.record, habout, htype, entries, FieldInfo.presentation]
  have htitle : Conversion.textOr info.name (some info.title) = info.title := by
    simp [Conversion.textOr, hinfo.title_ne]
  have h1 : Reading.required "name" Reading.nonEmptyText entries = .ok info.name :=
    Reading.required_of_lookup rfl (Reading.nonEmptyText_string hinfo.name_ne)
  have h2 : Reading.required "type" Reading.text entries = .ok type :=
    Reading.required_of_lookup rfl rfl
  have h3 : Reading.field ["title"] none (Reading.optional Reading.text) entries =
      .ok (some info.title) :=
    Reading.field_of_lookup rfl (by rw [htitle]; rfl)
  have h4 : Reading.field ["description"] "" Reading.text entries = .ok info.description :=
    Reading.field_of_lookup rfl rfl
  have h5 : Reading.field ["importance", "priority"] none
      (Reading.optional (Reading.choice Importance.names)) entries = .ok info.importance :=
    Reading.field_of_lookup rfl (optional_importance info.importance)
  have h6 : Reading.field ["required"] false Reading.flag entries = .ok info.required :=
    Reading.field_of_lookup rfl rfl
  have h7 : Reading.field ["extractionInstructions", "extraction_instructions"] none
      (Reading.optional Reading.text) entries = .ok info.instructions := by
    have hskip : Value.lookup (.name "extractionInstructions") entries = none := halias
    rw [Reading.field_skip hskip]
    exact Reading.field_of_lookup rfl (Reading.optional_orNull fun _ _ => ⟨rfl, by simp⟩)
  have h8 : Reading.field ["examples"] none
      (Reading.optional (Reading.list Reading.propertyExample)) entries = .ok info.examples :=
    Reading.field_of_lookup rfl (optional_examples info.examples)
  have h9 : Reading.field ["itemType", "item_type"] none
      (Reading.optional (Reading.choice items)) entries = .ok item := hitem
  refine ⟨entries, hfields, ?_⟩
  simp only [Reading.draft, h1, h2, h3, h4, h5, h6, h7, h8, h9]
  rfl

/-! ## Nodes that stand for fields -/

/-- The fields that tell the type of a property of a simple shape. -/
def SimpleShape.typeFields : SimpleShape → List (String × Value)
  | .plain type => [("type", .string type)]
  | .list item => [("type", .string listType), ("item_type", .string item.name)]

namespace Conversion

/-- A node stands for a field of a simple shape: it is presented as the field and tells its type. -/
structure StandsForSimple (about : Wire.Presentation) (shape : SimpleShape) (node : Node) :
    Prop where
  about_eq : node.about = about
  typeFields_eq : typeFields node = shape.typeFields

/-- Children in display order stand for fields, the first at a place in the order. -/
inductive StandFrom {α : Type} (info : α → FieldInfo)
    (stands : Wire.Presentation → α → Node → Prop) : Nat → List α → Wire.Properties → Prop
  | nil {i : Nat} : StandFrom info stands i [] []
  | cons {i : Nat} {p : α} {ps : List α} {node : Node} {kids : Wire.Properties}
      (head : stands ((info p).presentation i) p node)
      (tail : StandFrom info stands (i + 1) ps kids) :
      StandFrom info stands i (p :: ps) (((info p).name, node) :: kids)

/-- Children, in any order, and required names, in any order, stand for fields. -/
def StandForAll {α : Type} (info : α → FieldInfo) (stands : Wire.Presentation → α → Node → Prop)
    (ps : List α) (kids : Wire.Properties) (required : List String) : Prop :=
  (∃ ordered, kids.Perm ordered ∧ StandFrom info stands 0 ps ordered) ∧
    required.Perm (requiredOf info ps)

/-- A node stands for a field: a list of objects is an array whose elements stand for the nested
fields. -/
def StandsFor (about : Wire.Presentation) : Shape → Node → Prop
  | .simple shape, node => StandsForSimple about shape node
  | .objects fields, node =>
    ∃ itemsAbout kids required additional,
      node = .array about (.object itemsAbout kids required additional) ∧
        StandForAll NestedProperty.info (fun about f => StandsForSimple about f.shape) fields kids
          required

variable {α : Type} {info : α → FieldInfo} {stands : Wire.Presentation → α → Node → Prop}

/-! ## The display order of children -/

/-- The orders of children that stand for fields are counted from a place on. -/
theorem StandFrom.orders {i : Nat} {ps : List α} {kids : Wire.Properties}
    (habout : ∀ about p node, stands about p node → node.about = about)
    (h : StandFrom info stands i ps kids) :
    (kids.map fun kid => kid.2.about.order) =
      (List.range' i ps.length).map fun n : Nat => some (n : Int) := by
  induction h with
  | nil => rfl
  | cons head tail ih =>
    simp only [List.map_cons, List.length_cons, List.range'_succ, ih, habout _ _ _ head]
    rfl

theorem StandFrom.orderedProperties_eq {ps : List α} {kids ordered : Wire.Properties}
    (habout : ∀ about p node, stands about p node → node.about = about)
    (hperm : kids.Perm ordered) (h : StandFrom info stands 0 ps ordered) :
    Wire.orderedProperties kids = ordered := by
  -- no two children have the same order, so only one permutation of them is sorted
  have horders := h.orders habout
  have hnodup : (ordered.map fun kid => kid.2.about.order).Nodup := by
    rw [horders]
    refine List.Nodup.map ?_ List.nodup_range'
    intro m n hmn
    have hcast := Option.some.inj hmn
    omega
  have hsorted : ordered.Pairwise fun a b =>
      Wire.comesBefore a.2.about.order b.2.about.order = true := by
    have hmap : (ordered.map fun kid => kid.2.about.order).Pairwise fun m n =>
        Wire.comesBefore m n = true := by
      rw [horders, List.pairwise_map]
      refine (List.pairwise_lt_range' 1).imp ?_
      intro m n hmn
      simp only [Wire.comesBefore, decide_eq_true_eq]
      omega
    exact List.pairwise_map.mp hmap
  rw [Wire.orderedProperties_of_perm hperm hnodup]
  exact Wire.orderedProperties_of_pairwise hsorted

/-! ## Required names -/

theorem contains_requiredOf {ps : List α} (hnames : (ps.map fun p => (info p).name).Nodup) :
    ∀ p ∈ ps, (requiredOf info ps).contains (info p).name = (info p).required := by
  intro p hp
  rw [Bool.eq_iff_iff, List.contains_iff_mem]
  simp only [requiredOf, List.mem_map, List.mem_filter]
  constructor
  · rintro ⟨q, ⟨hq, hreq⟩, hname⟩
    rwa [List.inj_on_of_nodup_map hnames hq hp hname] at hreq
  · intro hreq
    exact ⟨p, ⟨hp, hreq⟩, rfl⟩

theorem contains_of_perm_requiredOf {ps : List α} {required : List String}
    (hnames : (ps.map fun p => (info p).name).Nodup) (hperm : required.Perm (requiredOf info ps)) :
    ∀ p ∈ ps, required.contains (info p).name = (info p).required := by
  intro p hp
  rw [← contains_requiredOf hnames p hp, Bool.eq_iff_iff, List.contains_iff_mem,
    List.contains_iff_mem]
  exact hperm.mem_iff

/-! ## Reading the property that a node stands for -/

theorem choice_scalarItem (item : ScalarItem) :
    Reading.choice ScalarItem.names (.string item.name) = .ok item := by
  cases item <;> rfl

theorem choice_itemType (item : ItemType) :
    Reading.choice ItemType.names (.string item.name) = .ok item := by
  cases item with
  | scalar item => cases item <;> rfl
  | object => rfl

/-- A node that stands for a field of a simple shape is no list of objects. -/
theorem StandsForSimple.not_objects {about about' itemsAbout : Wire.Presentation}
    {shape : SimpleShape} {kids : Wire.Properties} {required : List String}
    {additional : Option Bool} :
    ¬ StandsForSimple about shape
        (.array about' (.object itemsAbout kids required additional)) := by
  intro h
  have htype := h.typeFields_eq
  cases shape <;> simp [typeFields, SimpleShape.typeFields, Wire.Node.isObject] at htype

theorem StandsForSimple.draft {ι : Type} {items : List (String × ι)} {wrap : ScalarItem → ι}
    {info : FieldInfo} {i : Nat} {shape : SimpleShape} {node : Node} (hinfo : info.WellFormed)
    (hitems : ∀ item : ScalarItem, Reading.choice items (.string item.name) = .ok (wrap item))
    (h : StandsForSimple (info.presentation i) shape node) :
    ∃ entries, fields info.name info.required node = .object entries ∧
      Reading.draft items entries = .ok (info.draft shape.type (shape.item?.map wrap)) := by
  cases shape with
  | plain type =>
    exact draft_fields hinfo h.about_eq h.typeFields_eq rfl rfl
  | list item =>
    refine draft_fields hinfo h.about_eq h.typeFields_eq rfl ?_
    have hopt : Reading.optional (Reading.choice items) (.string item.name) =
        .ok (some (wrap item)) := by
      simp [Reading.optional, hitems, Functor.map, Checked.map]
    rw [Reading.field_skip rfl]
    exact Reading.field_of_lookup rfl hopt

theorem StandsForSimple.statesFields {about : Wire.Presentation} {shape : SimpleShape}
    {node : Node} (name : String) (required : Bool) (h : StandsForSimple about shape node) :
    Reading.statesFields (fields name required node) = false := by
  unfold fields
  rw [h.typeFields_eq]
  cases shape <;> rfl

theorem nestedShape_draft {info : FieldInfo} {shape : SimpleShape} (h : shape.WellFormed) :
    (info.draft shape.type (shape.item?.map fun item => item)).nestedShape = .ok shape := by
  cases shape with
  | plain type => simp [Draft.nestedShape, FieldInfo.draft, SimpleShape.type, SimpleShape.item?,
      show type ≠ listType from h]
  | list item => rfl

/-- The nested property of a node that stands for it is read back. -/
theorem nestedProperty_of_standsFor {path : Wire.Path} {p : NestedProperty} {i : Nat}
    {node : Node} (hp : p.WellFormed)
    (h : StandsForSimple (p.info.presentation i) p.shape node) :
    nestedProperty path p.info.name p.info.required node = .ok p := by
  obtain ⟨entries, hfields, hdraft⟩ := h.draft hp.info choice_scalarItem
  have hread : Reading.nestedProperty (fields p.info.name p.info.required node) = .ok p := by
    unfold Reading.nestedProperty
    rw [h.statesFields, hfields]
    simp only [Bool.false_eq_true, if_false, Reading.entriesOf, Checked.andThen, hdraft,
      nestedShape_draft hp.shape, Reading.checkedBy, FieldInfo.info_draft hp.info]
    rfl
  unfold nestedProperty
  split
  · exact absurd h StandsForSimple.not_objects
  · rw [Checked.orRefuse_eq_ok_iff.mpr hread]

theorem nestedProperties_of_standFrom {path : Wire.Path} {required : List String} {i : Nat}
    {fs : List NestedProperty} {kids : Wire.Properties} (hfs : ∀ f ∈ fs, f.WellFormed)
    (hrequired : ∀ f ∈ fs, required.contains f.info.name = f.info.required)
    (h : StandFrom NestedProperty.info (fun about f => StandsForSimple about f.shape) i fs kids) :
    nestedProperties path required kids = .ok fs := by
  induction h with
  | nil => rfl
  | @cons i f fs node kids head tail ih =>
    have hf : nestedProperty (path ++ [.items, .child f.info.name]) f.info.name f.info.required
        node = .ok f := nestedProperty_of_standsFor (hfs f List.mem_cons_self) head
    have hrest := ih (fun g hg => hfs g (List.mem_cons_of_mem _ hg))
      (fun g hg => hrequired g (List.mem_cons_of_mem _ hg))
    simp only [nestedProperties, hrequired f List.mem_cons_self, hf, hrest, bind, Except.bind,
      pure, Except.pure]

theorem StandsForSimple.about_of {α : Type} {shape : α → SimpleShape} :
    ∀ about p node, StandsForSimple about (shape p) node → node.about = about :=
  fun _ _ _ h => h.about_eq

/-- The nested fields of a list of objects are read off a node that stands for it. -/
theorem nestedFields_of_standForAll {path : Wire.Path} {about itemsAbout : Wire.Presentation}
    {fs : List NestedProperty} {kids : Wire.Properties} {required : List String}
    {additional : Option Bool} (hfs : ∀ f ∈ fs, f.WellFormed)
    (hnames : (fs.map NestedProperty.name).Nodup)
    (h : StandForAll NestedProperty.info (fun about f => StandsForSimple about f.shape) fs kids
      required) :
    nestedFields path (.array about (.object itemsAbout kids required additional)) =
      .ok (some fs) := by
  obtain ⟨⟨ordered, hperm, hstand⟩, hrequired⟩ := h
  have hread : nestedProperties path required ordered = .ok fs :=
    nestedProperties_of_standFrom hfs (contains_of_perm_requiredOf hnames hrequired) hstand
  simp only [nestedFields, hstand.orderedProperties_eq StandsForSimple.about_of hperm, hread]
  rfl

theorem shape_draft {info : FieldInfo} {shape : SimpleShape} (h : shape.WellFormed) :
    (info.draft shape.type (shape.item?.map ItemType.scalar)).shape none =
      .ok (.simple shape) := by
  cases shape with
  | plain type => simp [Draft.shape, FieldInfo.draft, SimpleShape.type, SimpleShape.item?,
      show type ≠ listType from h]
  | list item => rfl

theorem shape_draft_objects {info : FieldInfo} {fs : List NestedProperty} (hne : fs ≠ [])
    (hnames : (fs.map NestedProperty.name).Nodup) :
    (info.draft listType (some ItemType.object)).shape (some fs) = .ok (.objects fs) := by
  cases fs with
  | nil => exact absurd rfl hne
  | cons f fs =>
    simp only [Draft.shape, FieldInfo.draft, if_true, Option.getD_some, Draft.objectsShape,
      findDuplicates_eq_nil_iff.mpr hnames]

theorem propertyWith_of_draft {nested : Value.Entries → Checked (Option (List NestedProperty))}
    {entries : Value.Entries} {d : Draft ItemType} {fs : Option (List NestedProperty)}
    {shape : Shape} (hdraft : Reading.draft ItemType.names entries = .ok d)
    (hnested : nested entries = .ok fs) (hshape : d.shape fs = .ok shape) :
    Reading.propertyWith nested (.object entries) = .ok ⟨d.info, shape⟩ := by
  have hpair : Prod.mk <$> Reading.draft ItemType.names entries <*> nested entries =
      .ok (d, fs) := by
    rw [hdraft, hnested]
    rfl
  simp only [Reading.propertyWith, Reading.entriesOf, Checked.andThen, hpair, hshape,
    Reading.checkedBy]
  rfl

theorem draft_objects {info : FieldInfo} (i : Nat) (itemsAbout : Wire.Presentation)
    (kids : Wire.Properties) (required : List String) (additional : Option Bool)
    (hinfo : info.WellFormed) :
    ∃ entries, fields info.name info.required
        (.array (info.presentation i) (.object itemsAbout kids required additional)) =
          .object entries ∧
      Reading.draft ItemType.names entries = .ok (info.draft listType (some .object)) := by
  refine draft_fields hinfo rfl rfl rfl ?_
  rw [Reading.field_skip rfl]
  exact Reading.field_of_lookup rfl rfl

/-- The property of a node that stands for it is read back. -/
theorem property_of_standsFor {p : Property} {i : Nat} {node : Node} (hp : p.WellFormed)
    (h : StandsFor (p.info.presentation i) p.shape node) :
    property p.info.name p.info.required node = .ok p := by
  obtain ⟨info, shape⟩ := p
  cases shape with
  | simple shape =>
    obtain ⟨entries, hfields, hdraft⟩ := StandsForSimple.draft hp.info
      (fun item => choice_itemType (.scalar item)) h
    have hnested : nestedFields [.child info.name] node = .ok none := by
      unfold nestedFields
      split
      · exact absurd h StandsForSimple.not_objects
      · rfl
    have hread : Reading.propertyWith (fun _ => .ok none) (.object entries) = .ok ⟨_, _⟩ :=
      propertyWith_of_draft hdraft rfl (shape_draft hp.shape)
    rw [FieldInfo.info_draft hp.info, ← hfields] at hread
    simp only [property, hnested, bind, Except.bind, Checked.orRefuse_eq_ok_iff.mpr hread]
  | objects fs =>
    obtain ⟨hne, hfs, hnames⟩ := hp.shape
    obtain ⟨itemsAbout, kids, required, additional, rfl, hall⟩ := h
    have hnested : nestedFields [.child info.name]
        (.array (info.presentation i) (.object itemsAbout kids required additional)) =
          .ok (some fs) := nestedFields_of_standForAll hfs hnames hall
    obtain ⟨entries, hfields, hdraft⟩ :=
      draft_objects i itemsAbout kids required additional hp.info
    have hread : Reading.propertyWith (fun _ => .ok (some fs)) (.object entries) = .ok ⟨_, _⟩ :=
      propertyWith_of_draft hdraft rfl (shape_draft_objects hne hnames)
    rw [FieldInfo.info_draft hp.info, ← hfields] at hread
    simp only [property, hnested, bind, Except.bind, Checked.orRefuse_eq_ok_iff.mpr hread]

theorem properties_of_standFrom {required : List String} {i : Nat} {ps : List Property}
    {kids : Wire.Properties} (hps : ∀ p ∈ ps, p.WellFormed)
    (hrequired : ∀ p ∈ ps, required.contains p.info.name = p.info.required)
    (h : StandFrom Property.info (fun about p => StandsFor about p.shape) i ps kids) :
    properties required kids = .ok ps := by
  induction h with
  | nil => rfl
  | @cons i p ps node kids head tail ih =>
    have hp := property_of_standsFor (hps p List.mem_cons_self) head
    have hrest := ih (fun q hq => hps q (List.mem_cons_of_mem _ hq))
      (fun q hq => hrequired q (List.mem_cons_of_mem _ hq))
    simp only [properties, hrequired p List.mem_cons_self, hp, hrest, bind, Except.bind, pure,
      Except.pure]

theorem StandsFor.about_eq {about : Wire.Presentation} {shape : Shape} {node : Node}
    (h : StandsFor about shape node) : node.about = about := by
  cases shape with
  | simple shape => exact StandsForSimple.about_eq h
  | objects fs =>
    obtain ⟨itemsAbout, kids, required, additional, rfl, -⟩ := h
    rfl

end Conversion

open Conversion

/-- The properties of a tree whose children stand for them are read back, in their order. -/
theorem Wire.Tree.toProperties_of_standForAll {t : Wire.Tree} {ps : List Property}
    (hps : Property.ListWellFormed ps)
    (h : StandForAll Property.info (fun about p => StandsFor about p.shape) ps t.properties
      t.required) :
    t.toProperties = .ok ps := by
  obtain ⟨⟨ordered, hperm, hstand⟩, hrequired⟩ := h
  unfold Wire.Tree.toProperties
  rw [hstand.orderedProperties_eq (fun _ _ _ => StandsFor.about_eq) hperm]
  exact properties_of_standFrom hps.each (contains_of_perm_requiredOf hps.names hrequired) hstand

end ExtractionSchema
