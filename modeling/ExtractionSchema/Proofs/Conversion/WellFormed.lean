import ExtractionSchema.Proofs.Conversion.ReadOff
import ExtractionSchema.Proofs.Wire.Names

/-!
# The shape of properties from either source

A property list comes from a document that lists properties or from a wire tree. Either way each
property fits together: only lists have an element type, only lists of objects have nested fields,
and these have no nested fields of their own. The readers of both sources check drafts in the same
way, but the names of a list are compared for documents only; those of a tree are the names of its
children.

* `Conversion.property_wellFormed`: what is read off a node is well formed.
* `Property.areCoherent_of_read`: what properties from either source are like.
-/

namespace ExtractionSchema

open Wire

/-! ## Properties that fit together -/

/-- A property is called and shown as something. It has an element type exactly if it states the
type of lists, and nested fields exactly if its elements are objects. -/
structure Property.IsCoherent (p : Property) : Prop where
  name_ne : p.info.name ≠ ""
  title_ne : p.info.title ≠ ""
  item_iff : p.shape.item?.isSome ↔ p.shape.type = listType
  fields_iff : p.shape.fields?.isSome ↔ p.shape.item? = some .object

/-- A nested property as a property of its own. -/
def NestedProperty.toProperty (f : NestedProperty) : Property := ⟨f.info, .simple f.shape⟩

/-- The nested fields of a property are there, under distinct names. Each fits together and is no
list of objects, so that fields are nested one level deep at most. -/
structure NestedProperty.AreCoherent (fields : List NestedProperty) : Prop where
  ne_nil : fields ≠ []
  names : (fields.map NestedProperty.name).Nodup
  each : ∀ f ∈ fields, f.toProperty.IsCoherent ∧ f.toProperty.shape.item? ≠ some .object ∧
    f.toProperty.shape.fields? = none

/-- The properties of a list fit together, with their nested fields, and have distinct names. -/
structure Property.AreCoherent (ps : List Property) : Prop where
  each : ∀ p ∈ ps, p.IsCoherent
  nested : ∀ p ∈ ps, ∀ fields ∈ p.shape.fields?, NestedProperty.AreCoherent fields
  names : (ps.map Property.name).Nodup

namespace Property

theorem WellFormed.isCoherent {p : Property} (h : p.WellFormed) : p.IsCoherent := by
  refine ⟨h.info.name_ne, h.info.title_ne, ?_, ?_⟩
  · have hshape := h.shape
    cases hp : p.shape with
    | simple shape =>
      rw [hp] at hshape
      cases shape with
      | plain type => exact iff_of_false nofun hshape
      | list item => exact iff_of_true rfl rfl
    | objects fields => exact iff_of_true rfl rfl
  · cases p.shape <;> simp [Shape.item?, Shape.fields?]

theorem ListWellFormed.areCoherent {ps : List Property} (h : ListWellFormed ps) :
    AreCoherent ps := by
  refine ⟨fun p hp => (h.each p hp).isCoherent, fun p hp fields hfields => ?_, h.names⟩
  have hshape := (h.each p hp).shape
  cases hobjects : p.shape with
  | simple shape =>
    rw [hobjects] at hfields
    cases hfields
  | objects fs =>
    rw [hobjects] at hfields hshape
    cases hfields
    obtain ⟨hne, hfs, hnames⟩ := hshape
    refine ⟨hne, hnames, fun f hf => ⟨?_, ?_, rfl⟩⟩
    · exact WellFormed.isCoherent ⟨(hfs f hf).info, (hfs f hf).shape⟩
    · simp [NestedProperty.toProperty, Shape.item?]

end Property

/-! ## Properties of nodes -/

namespace Conversion

theorem nestedProperty_wellFormed {path : Path} {name : String} {required : Bool} {node : Node}
    {f : NestedProperty} (h : nestedProperty path name required node = .ok f) : f.WellFormed := by
  obtain ⟨-, d, hdraft, hshape, hinfo⟩ := (nestedProperty_eq_ok_iff rfl).mp h
  refine ⟨?_, Draft.nestedShape_wellFormed hshape⟩
  rw [← hinfo]
  exact Draft.info_wellFormed (Reading.draft_name_ne hdraft)

/-- What is read off a node is well formed, since its nested fields are. -/
theorem property_wellFormed {name : String} {required : Bool} {node : Node} {p : Property}
    (h : property name required node = .ok p) : p.WellFormed := by
  obtain ⟨nested, d, hnested, hdraft, hshape, hinfo⟩ := (property_eq_ok_iff rfl).mp h
  have hfields : ∀ fs ∈ nested, ∀ f ∈ fs, f.WellFormed := by
    rcases nestedFields_eq_ok hnested with ⟨-, rfl⟩ | ⟨_, _, kids, names, _, gs, -, rfl, hgs⟩
    · rintro fs ⟨⟩
    · rintro fs ⟨⟩ f hf
      obtain ⟨kid, -, place, hread⟩ := exists_of_mem_nestedProperties hgs f hf
      exact nestedProperty_wellFormed hread
  refine ⟨?_, Draft.shape_wellFormed hfields hshape⟩
  rw [← hinfo]
  exact Draft.info_wellFormed (Reading.draft_name_ne hdraft)

end Conversion

/-- The properties of a tree are well formed if its children have distinct names. -/
theorem Wire.Tree.toProperties_wellFormed {t : Tree} {ps : List Property}
    (hnames : (t.properties.map Prod.fst).Nodup) (h : t.toProperties = .ok ps) :
    Property.ListWellFormed ps := by
  constructor
  case each =>
    intro p hp
    obtain ⟨kid, -, hread⟩ := Conversion.exists_of_mem_properties h p hp
    exact Conversion.property_wellFormed hread
  case names =>
    rw [Conversion.map_name_properties h]
    exact ((orderedProperties_perm t.properties).map Prod.fst).nodup_iff.mpr hnames

/-! ## Either source -/

/-- Properties that are read from a list, whatever value it is, off a tree whose children have
distinct names, or off a document that holds a tree, fit together with their nested fields, and have
distinct names. -/
theorem Property.areCoherent_of_read :
    (∀ v ps, listOfValue v = .ok ps → AreCoherent ps) ∧
    (∀ (t : Tree) ps, (t.properties.map Prod.fst).Nodup → t.toProperties = .ok ps →
      AreCoherent ps) ∧
    ∀ d ps, d.isDocument = true → listOfTree d = .ok ps → AreCoherent ps := by
  have htree : ∀ (t : Tree) ps, (t.properties.map Prod.fst).Nodup → t.toProperties = .ok ps →
      AreCoherent ps :=
    fun t ps hnames h => (Tree.toProperties_wellFormed hnames h).areCoherent
  refine ⟨fun v ps h => (listOfValue_wellFormed h).areCoherent, htree, fun d ps hd h => ?_⟩
  unfold listOfTree at h
  split at h
  · rename_i t ht
    have hdistinct : t.root.hasDistinctNames = true := Tree.hasDistinctNames_of_ofValue hd ht
    exact htree t ps (Node.hasDistinctNames_object.mp hdistinct).1 h
  · cases h

/-- The properties of a parcel: a note, and contents of which each has a weight and some codes. -/
def parcelProperties : List Property := [
  { info := { name := "note", title := "note", description := "", importance := none,
              required := false, instructions := none, examples := none },
    shape := .simple (.plain "string") },
  { info := { name := "contents", title := "contents", description := "", importance := none,
              required := false, instructions := none, examples := none },
    shape := .objects [
      { info := { name := "weight", title := "weight", description := "", importance := none,
                  required := false, instructions := none, examples := none },
        shape := .plain "number" },
      { info := { name := "codes", title := "codes", description := "", importance := none,
                  required := false, instructions := none, examples := none },
        shape := .list .string }] }]

/-- They are listed without titles and without types of elements. -/
def parcelList : Value := .list [
  .record [("name", .string "note"), ("type", .string "string"), ("title", .string "")],
  .record [("name", .string "contents"), ("type", .string "list"), ("fields", .list [
    .record [("name", .string "weight"), ("type", .string "number")],
    .record [("name", .string "codes"), ("type", .string "list")]])]]

/-- The items of the codes in the tree are of an unknown type. -/
def parcelDocument : Value :=
  .record [("type", .string "object"), ("properties", .record [
    ("note", .record [("type", .string "string"), ("order", .int 0)]),
    ("contents", .record [("type", .string "array"), ("items", .record [
      ("type", .string "object"), ("properties", .record [
        ("weight", .record [("type", .string "number"), ("order", .int (-1))]),
        ("codes", .record [("type", .string "array"),
          ("items", .record [("type", .string "code")])])])])])])]

/-- The children of the elements of the contents. -/
def parcelKids : Properties := [
  ("weight", .primitive { order := some (-1) } .number {}),
  ("codes", .array {} (.unknown {} "code" [("type", .string "code")]))]

/-- The tree that the document holds. -/
def parcelTree : Tree :=
  ⟨none, {}, [("note", .primitive { order := some 0 } .string {}),
    ("contents", .array {} (.object {} parcelKids [] none))], [], none⟩

theorem toProperties_parcelTree : parcelTree.toProperties = .ok parcelProperties := by
  have hkids : orderedProperties parcelKids = parcelKids :=
    orderedProperties_of_pairwise (by decide)
  have hnested : Conversion.nestedFields [.child "contents"]
      (.array {} (.object {} parcelKids [] none)) =
        some <$> Conversion.nestedProperties [.child "contents"] [] parcelKids := by
    rw [Conversion.nestedFields, hkids]
  rw [Tree.toProperties, orderedProperties_of_pairwise (by decide)]
  simp only [parcelTree, Conversion.properties, Conversion.property, hnested]
  rfl

theorem Property.areCoherent_of_read_parcel :
    listOfValue parcelList = .ok parcelProperties ∧ parcelDocument.isDocument = true ∧
      listOfTree parcelDocument = .ok parcelProperties ∧
      (parcelTree.properties.map Prod.fst).Nodup ∧
      parcelTree.toProperties = .ok parcelProperties ∧ AreCoherent parcelProperties := by
  have hlist : listOfValue parcelList = .ok parcelProperties := rfl
  have hnames : (parcelTree.properties.map Prod.fst).Nodup := by decide
  have hd : parcelDocument.isDocument = true := by decide
  have hread : Tree.ofValue parcelDocument = .ok parcelTree := rfl
  have hparcel : listOfTree parcelDocument = .ok parcelProperties := by
    rw [listOfTree, hread]
    exact toProperties_parcelTree
  exact ⟨hlist, hd, hparcel, hnames, toProperties_parcelTree,
    Property.areCoherent_of_read.2.2 _ _ hd hparcel⟩

end ExtractionSchema
