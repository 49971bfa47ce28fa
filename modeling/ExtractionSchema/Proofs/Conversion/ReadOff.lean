import ExtractionSchema.Proofs.Conversion.StandsFor
import ExtractionSchema.Prompt
import ExtractionSchema.Proofs.Wire.Literals
import ExtractionSchema.Property.Printer

/-!
# What properties say of their nodes

A property that is read off a node has the name of the node, is required as the node is, and tells
its type: whatever else the fields of the node make it fail on, they leave no choice in these. The
nested properties of a list of objects are read off the fields of the elements.

* `Conversion.nestedProperty_tells` and `Conversion.property_tells`: what one property says.
* `Conversion.exists_of_mem_properties` and `Conversion.map_name_properties`: the properties of
  children.
* `FieldInfo.obstacle_eq_none`: a field can be written if the outputs of its examples are JSON, as
  they are when its node holds nothing but JSON.
-/

namespace ExtractionSchema

open Wire

/-! ## Values that can be written -/

namespace Value

mutual

/-- Nothing stands in the way of writing a value of JSON. -/
theorem interchangeObstacle_of_isJson : (v : Value) → v.isJson = true →
    v.interchangeObstacle = none
  | .null, _ | .bool _, _ | .number _, _ | .string _, _ => rfl
  | .list items, h => interchangeObstacleIn_of_isJson items h
  | .object entries, h => interchangeObstacleInEntries_of_isJson entries h
  | .foreign _, h | .set _, h | .pair _ _, h | .enclosing _, h => by cases h

theorem interchangeObstacleIn_of_isJson : (vs : List Value) → isJsonList vs = true →
    interchangeObstacleIn vs = none
  | [], _ => rfl
  | v :: vs, h => by
    rw [isJsonList, Bool.and_eq_true] at h
    rw [interchangeObstacleIn, interchangeObstacle_of_isJson v h.1,
      interchangeObstacleIn_of_isJson vs h.2]
    rfl

theorem interchangeObstacleInEntries_of_isJson : (es : List (Key × Value)) →
    isJsonEntries es = true → interchangeObstacleInEntries es = none
  | [], _ => rfl
  | (.name _, v) :: es, h => by
    rw [isJsonEntries, Bool.and_eq_true] at h
    rw [interchangeObstacleInEntries, interchangeObstacle_of_isJson v h.1,
      interchangeObstacleInEntries_of_isJson es h.2]
    rfl
  | (.null, _) :: _, h | (.bool _, _) :: _, h | (.number _, _) :: _, h
  | (.foreign _, _) :: _, h => by cases h

end

end Value

/-- The output of an example is taken from its entry. -/
theorem Reading.lookup_output {v : Value} {e : Example}
    (h : Reading.propertyExample v = .ok e) :
    ∃ entries, v = .object entries ∧ Value.lookup (.name "output") entries = some e.output := by
  obtain ⟨entries, hentries, h⟩ := Checked.andThen_eq_ok_iff.mp h
  simp only [Checked.seq_eq_ok_iff, Checked.map_eq_ok_iff, Reading.required_eq_ok_iff] at h
  obtain ⟨_, output, ⟨_, _, ⟨_, -, rfl⟩, -, rfl⟩, ⟨w, hw, hread⟩, rfl⟩ := h
  cases hread
  exact ⟨entries, Reading.eq_object_of_entriesOf hentries, hw⟩

theorem isJson_output {v : Value} {e : Example} (hv : v.isJson = true)
    (h : Reading.propertyExample v = .ok e) : e.output.isJson = true := by
  obtain ⟨entries, rfl, hlookup⟩ := Reading.lookup_output h
  exact Value.isJson_of_lookup hv hlookup

theorem FieldInfo.obstacle_eq_none {info : FieldInfo}
    (h : ∀ es ∈ info.examples, ∀ e ∈ es, e.output.isJson = true) : info.obstacle = none := by
  rw [FieldInfo.obstacle, List.findSome?_eq_none_iff]
  intro e he
  cases hexamples : info.examples with
  | none => simp [hexamples] at he
  | some es =>
    rw [hexamples] at he
    exact Value.interchangeObstacle_of_isJson _ (h es hexamples e he)

namespace Conversion

/-! ## What one property says -/

/-- A field has the name of its node and is required as the node is, and if the node holds nothing
but JSON, the field can be written. -/
structure IsReadOff (name : String) (required : Bool) (node : Node) (info : FieldInfo) :
    Prop where
  name_eq : info.name = name
  required_eq : info.required = required
  obstacle_eq : node.about.IsJson → info.obstacle = none

/-- The outputs of the examples of a field are taken from the examples of its node. -/
theorem isJson_outputs {node : Node} {examples : Option (List Example)}
    (hnode : node.about.IsJson)
    (h : Reading.optional (Reading.list Reading.propertyExample)
      (orNull (fun es => .list (es.map Value.record)) node.about.examples) = .ok examples) :
    ∀ es ∈ examples, ∀ e ∈ es, e.output.isJson = true := by
  rintro es rfl e he
  obtain ⟨-, hread⟩ := Reading.optional_eq_some_iff.mp h
  have hvalue : (orNull (fun es => .list (es.map Value.record)) node.about.examples).isJson =
      true := by
    cases hstated : node.about.examples with
    | none => rfl
    | some entries =>
      refine Value.isJson_list.mpr fun v hv => ?_
      obtain ⟨fields, hfields, rfl⟩ := List.mem_map.mp hv
      refine Value.isJson_object.mpr fun entry hentry => ?_
      obtain ⟨field, hfield, rfl⟩ := List.mem_map.mp hentry
      exact ⟨⟨_, rfl⟩, hnode.examples entries hstated fields hfields field hfield⟩
  obtain ⟨v, hv, houtput⟩ := exists_of_mem_list isInherited_isJson hvalue hread e he
  exact isJson_output hv houtput

/-- The fields that a property is read off leave no choice in its type and the type of its
elements, either. -/
theorem draft_tells {ι : Type} {items : List (String × ι)} {name type : String} {required : Bool}
    {node : Node} {tail : List (String × Value)} {entries : Value.Entries} {d : Draft ι}
    (htype : typeFields node = ("type", .string type) :: tail)
    (hentries : fields name required node = .object entries)
    (hdraft : Reading.draft items entries = .ok d) :
    IsReadOff name required node d.info ∧ d.type = type ∧
      Reading.field ["itemType", "item_type"] none (Reading.optional (Reading.choice items))
        (Value.named tail) = .ok d.item := by
  simp only [fields, Value.record, htype, Value.object.injEq] at hentries
  subst hentries
  simp only [Reading.draft, Checked.seq_eq_ok_iff, Checked.map_eq_ok_iff] at hdraft
  obtain ⟨_, item, ⟨_, examples, ⟨_, _, ⟨_, flag, ⟨_, _, ⟨_, _, ⟨_, _, ⟨_, stated, ⟨called, hname,
    rfl⟩, hstated, rfl⟩, -, rfl⟩, -, rfl⟩, -, rfl⟩, hflag, rfl⟩, -, rfl⟩, hexamples, rfl⟩, hitem,
    rfl⟩ := hdraft
  refine ⟨⟨?_, ?_, fun hnode => ?_⟩, ?_, hitem⟩
  · obtain ⟨v, hv, hread⟩ := Reading.required_eq_ok_iff.mp hname
    cases hv
    simp only [Reading.nonEmptyText, Reading.text, Checked.andThen] at hread
    split at hread
    · simp [Checked.fail] at hread
    · exact (Checked.ok.inj hread).symm
  · exact Checked.ok.inj (hflag.symm.trans (Reading.field_of_lookup rfl rfl))
  · have hread := Checked.under_eq_ok_iff.mp hexamples
    exact FieldInfo.obstacle_eq_none (isJson_outputs hnode hread)
  · obtain ⟨v, hv, hread⟩ := Reading.required_eq_ok_iff.mp hstated
    cases hv
    exact (Checked.ok.inj hread).symm

theorem exists_scalarItem {items : Node} (h : items.isObject = false) :
    ∃ item : ScalarItem, itemName items = item.name := by
  cases items with
  | object => cases h
  | primitive about kind limits =>
    unfold itemName
    dsimp only
    split
    · exact ⟨.date, rfl⟩
    · cases kind with
      | string => exact ⟨.string, rfl⟩
      | number | integer => exact ⟨.number, rfl⟩
      | boolean => exact ⟨.boolean, rfl⟩
  | array | unknown => exact ⟨.string, rfl⟩

/-- A node that is no list of objects tells the type of a simple shape. -/
theorem exists_simpleShape {node : Node} (hobjects : node.elementProperties? = none)
    (htype : node.type ≠ listType) :
    ∃ shape : SimpleShape, shape.WellFormed ∧ typeFields node = shape.typeFields := by
  cases node with
  | array about items =>
    have hitems : items.isObject = false := by
      cases items with
      | object => simp [Node.elementProperties?] at hobjects
      | primitive | array | unknown => rfl
    obtain ⟨item, hitem⟩ := exists_scalarItem hitems
    refine ⟨.list item, trivial, ?_⟩
    simp [typeFields, hitem, hitems, SimpleShape.typeFields]
  | primitive about kind limits =>
    have hne : (if (Node.primitive about kind limits).isDate then dateType else kind.name) ≠
        listType := by
      split
      · decide
      · exact htype
    exact ⟨.plain _, hne, rfl⟩
  | object about kids required more => exact ⟨.plain objectType, htype, rfl⟩
  | unknown about type raw => exact ⟨.plain type, htype, rfl⟩

theorem exists_of_map_eq_ok {ε α β : Type} {f : α → β} {x : Except ε α} {b : β}
    (h : f <$> x = .ok b) : ∃ a, x = .ok a ∧ f a = b := by
  cases x with
  | error e => cases h
  | ok a => exact ⟨a, rfl, Except.ok.inj h⟩

/-- A draft that is read off a node of a simple shape has that shape. -/
theorem draft_tells_simple {ι : Type} {items : List (String × ι)} {wrap : ScalarItem → ι}
    {name : String} {required : Bool} {node : Node} {shape : SimpleShape}
    {entries : Value.Entries} {d : Draft ι}
    (hitems : ∀ item : ScalarItem, Reading.choice items (.string item.name) = .ok (wrap item))
    (hshape : typeFields node = shape.typeFields)
    (hentries : fields name required node = .object entries)
    (hdraft : Reading.draft items entries = .ok d) :
    IsReadOff name required node d.info ∧ d.type = shape.type ∧
      d.item = shape.item?.map wrap := by
  cases shape with
  | plain type =>
    obtain ⟨hinfo, htype, hitem⟩ := draft_tells hshape hentries hdraft
    exact ⟨hinfo, htype, (Checked.ok.inj hitem).symm⟩
  | list item =>
    obtain ⟨hinfo, htype, hitem⟩ := draft_tells hshape hentries hdraft
    have hread : Reading.optional (Reading.choice items) (.string item.name) =
        .ok (some (wrap item)) := by
      simp [Reading.optional, hitems, Functor.map, Checked.map]
    rw [Reading.field_skip rfl] at hitem
    exact ⟨hinfo, htype, Checked.ok.inj (hitem.symm.trans (Reading.field_of_lookup rfl hread))⟩

theorem elementProperties?_eq_none {node : Node}
    (h : ∀ about itemsAbout kids required more,
      node ≠ .array about (.object itemsAbout kids required more)) :
    node.elementProperties? = none := by
  unfold Node.elementProperties?
  split
  · exact absurd rfl (h _ _ _ _ _)
  · rfl

/-! ## What it takes to read one property -/

theorem statesFields_fields {node : Node} (h : node.elementProperties? = none) (name : String)
    (required : Bool) : Reading.statesFields (fields name required node) = false := by
  cases node with
  | array about items =>
    cases items with
    | object => cases h
    | primitive | array | unknown => rfl
  | primitive | object | unknown => rfl

/-- A nested property is read off a node that is no list of objects when its fields are read and
have the shape. -/
theorem nestedProperty_eq_ok_iff {path : Path} {name : String} {required : Bool} {node : Node}
    {entries : Value.Entries} {p : NestedProperty}
    (hentries : fields name required node = .object entries) :
    nestedProperty path name required node = .ok p ↔ node.elementProperties? = none ∧
      ∃ d, Reading.draft ScalarItem.names entries = .ok d ∧ d.nestedShape = .ok p.shape ∧
        d.info = p.info := by
  obtain ⟨info, shape⟩ := p
  unfold nestedProperty
  split
  · simp [Node.elementProperties?]
  · rename_i hobjects
    have hplain := elementProperties?_eq_none hobjects
    have hread : Reading.nestedProperty (fields name required node) = .ok ⟨info, shape⟩ ↔
        ∃ d, Reading.draft ScalarItem.names entries = .ok d ∧ d.nestedShape = .ok shape ∧
          d.info = info := by
      rw [Reading.nestedProperty, statesFields_fields hplain, if_neg (by simp), hentries]
      simp only [Reading.entriesOf, Checked.andThen_eq_ok_iff, Checked.map_eq_ok_iff,
        Reading.checkedBy_eq_ok_iff, Checked.ok.injEq, exists_eq_left', NestedProperty.mk.injEq]
      constructor
      · rintro ⟨d, hd, _, hshape, rfl, rfl⟩
        exact ⟨d, hd, hshape, rfl⟩
      · rintro ⟨d, hd, hshape, rfl⟩
        exact ⟨d, hd, shape, hshape, rfl, rfl⟩
    rw [← hread, ← @Checked.orRefuse_eq_ok_iff _ "NestedProperty"]
    cases (Reading.nestedProperty (fields name required node)).orRefuse "NestedProperty" <;>
      simp [hplain]

/-- A property is read off a node when its nested properties and its fields are read and have the
shape. -/
theorem property_eq_ok_iff {name : String} {required : Bool} {node : Node}
    {entries : Value.Entries} {p : Property}
    (hentries : fields name required node = .object entries) :
    property name required node = .ok p ↔
      ∃ nested d, nestedFields [.child name] node = .ok nested ∧
        Reading.draft ItemType.names entries = .ok d ∧ d.shape nested = .ok p.shape ∧
        d.info = p.info := by
  obtain ⟨info, shape⟩ := p
  rw [property, bind_eq_ok_iff]
  refine exists_congr fun nested => ?_
  have hread : Reading.propertyWith (fun _ => .ok nested) (fields name required node) =
      .ok ⟨info, shape⟩ ↔ ∃ d, Reading.draft ItemType.names entries = .ok d ∧
        d.shape nested = .ok shape ∧ d.info = info := by
    rw [Reading.propertyWith, hentries]
    simp only [Reading.entriesOf, Checked.andThen_eq_ok_iff, Checked.seq_eq_ok_iff,
      Checked.map_eq_ok_iff, Reading.checkedBy_eq_ok_iff, Checked.ok.injEq, exists_eq_left',
      Property.mk.injEq]
    constructor
    · rintro ⟨_, ⟨_, _, ⟨d, hd, rfl⟩, heq, rfl⟩, _, hshape, rfl, rfl⟩
      cases heq
      exact ⟨d, hd, hshape, rfl⟩
    · rintro ⟨d, hd, hshape, rfl⟩
      exact ⟨_, ⟨_, _, ⟨d, hd, rfl⟩, rfl, rfl⟩, shape, hshape, rfl, rfl⟩
  rw [exists_and_left, ← hread, ← @Checked.orRefuse_eq_ok_iff _ "Property"]
  cases (Reading.propertyWith (fun _ => .ok nested) (fields name required node)).orRefuse
    "Property" <;> simp

/-! ## What one property says of its node -/

theorem exists_typeFields_eq_cons (node : Node) :
    ∃ type tail, typeFields node = ("type", .string type) :: tail := by
  cases node <;> exact ⟨_, _, rfl⟩

/-- A nested property is read off its node, whatever the node is. -/
theorem nestedProperty_isReadOff {path : Path} {name : String} {required : Bool} {node : Node}
    {p : NestedProperty} (h : nestedProperty path name required node = .ok p) :
    IsReadOff name required node p.info := by
  obtain ⟨-, d, hdraft, -, hinfo⟩ := (nestedProperty_eq_ok_iff rfl).mp h
  obtain ⟨type, tail, htype⟩ := exists_typeFields_eq_cons node
  rw [← hinfo]
  exact (draft_tells htype rfl hdraft).1

/-- A property is read off its node, whatever the node is. -/
theorem property_isReadOff {name : String} {required : Bool} {node : Node} {p : Property}
    (h : property name required node = .ok p) : IsReadOff name required node p.info := by
  obtain ⟨-, d, -, hdraft, -, hinfo⟩ := (property_eq_ok_iff rfl).mp h
  obtain ⟨type, tail, htype⟩ := exists_typeFields_eq_cons node
  rw [← hinfo]
  exact (draft_tells htype rfl hdraft).1

/-! ## What one property says of its type -/

/-- A nested property is read off its node and tells its type. -/
theorem nestedProperty_tells {path : Path} {name : String} {required : Bool} {node : Node}
    {p : NestedProperty} (h : nestedProperty path name required node = .ok p)
    (htype : node.type ≠ listType) :
    IsReadOff name required node p.info ∧ typeFields node = p.shape.typeFields := by
  obtain ⟨hplain, d, hdraft, hnested, hinfo⟩ := (nestedProperty_eq_ok_iff rfl).mp h
  obtain ⟨shape, hwell, hshape⟩ := exists_simpleShape hplain htype
  obtain ⟨hreadOff, hstated, hitem⟩ := draft_tells_simple choice_scalarItem hshape rfl hdraft
  have hsame : (d.info.draft d.type d.item).nestedShape = .ok shape := by
    rw [hstated, hitem]
    exact nestedShape_draft hwell
  rw [← hinfo, hshape, Except.ok.inj (hsame.symm.trans hnested)]
  exact ⟨hreadOff, rfl⟩

/-- What the shape of a property says of the node: the type that the node tells, or the nested
properties of the elements of a list of objects. -/
def Tells (node : Node) : Shape → Prop
  | .simple shape => typeFields node = shape.typeFields
  | .objects fs => ∃ about itemsAbout kids names more path,
    node = .array about (.object itemsAbout kids names more) ∧
      nestedProperties path names (orderedProperties kids) = .ok fs

theorem objectsShape_eq_ok_iff {ι : Type} {d : Draft ι} {fs : List NestedProperty} {shape : Shape} :
    d.objectsShape (some fs) = .ok shape ↔
      fs ≠ [] ∧ (fs.map NestedProperty.name).Nodup ∧ shape = .objects fs := by
  rw [← findDuplicates_eq_nil_iff]
  cases fs with
  | nil => simp [Draft.objectsShape]
  | cons f fs =>
    dsimp only [Draft.objectsShape, Option.getD_some]
    cases findDuplicates ((f :: fs).map NestedProperty.name) <;> simp [eq_comm]

theorem nestedFields_eq_ok {path : Path} {node : Node} {nested : Option (List NestedProperty)}
    (h : nestedFields path node = .ok nested) :
    (node.elementProperties? = none ∧ nested = none) ∨
      ∃ about itemsAbout kids names more fs,
        node = .array about (.object itemsAbout kids names more) ∧ nested = some fs ∧
          nestedProperties path names (orderedProperties kids) = .ok fs := by
  unfold nestedFields at h
  split at h
  · obtain ⟨fs, hfs, rfl⟩ := exists_of_map_eq_ok h
    exact .inr ⟨_, _, _, _, _, fs, rfl, rfl, hfs⟩
  · rename_i hobjects
    exact .inl ⟨elementProperties?_eq_none hobjects, (Except.ok.inj h).symm⟩

/-- A property is read off its node. It tells the type of the node, or is a list of objects with the
nested properties of the elements. -/
theorem property_tells {name : String} {required : Bool} {node : Node} {p : Property}
    (h : property name required node = .ok p) (htype : node.type ≠ listType) :
    IsReadOff name required node p.info ∧ Tells node p.shape := by
  obtain ⟨nested, d, hnested, hdraft, hshape, hinfo⟩ := (property_eq_ok_iff rfl).mp h
  rw [← hinfo]
  rcases nestedFields_eq_ok hnested with
    ⟨hplain, rfl⟩ | ⟨about, itemsAbout, kids, names, more, gs, rfl, rfl, hgs⟩
  · obtain ⟨simple, hwell, hsimple⟩ := exists_simpleShape hplain htype
    obtain ⟨hreadOff, hstated, hitem⟩ :=
      draft_tells_simple (fun item => choice_itemType (.scalar item)) hsimple rfl hdraft
    have hsame : (d.info.draft d.type d.item).shape none = .ok (.simple simple) := by
      rw [hstated, hitem]
      exact shape_draft hwell
    refine ⟨hreadOff, ?_⟩
    rw [← Except.ok.inj (hsame.symm.trans hshape)]
    exact hsimple
  · obtain ⟨hreadOff, hstated, hitem⟩ := draft_tells rfl rfl hdraft
    rw [Reading.field_skip rfl] at hitem
    have hobject : d.item = some .object :=
      Checked.ok.inj (hitem.symm.trans (Reading.field_of_lookup rfl rfl))
    rw [Draft.shape, if_pos hstated, hobject] at hshape
    refine ⟨hreadOff, ?_⟩
    rw [(objectsShape_eq_ok_iff.mp hshape).2.2]
    exact ⟨about, itemsAbout, kids, names, more, _, rfl, hgs⟩

/-! ## The properties of children -/

theorem nestedProperties_eq_ok_iff {path : Path} {required : List String} {kids : Properties}
    {fs : List NestedProperty} : nestedProperties path required kids = .ok fs ↔
      List.Forall₂ (fun kid f => nestedProperty (path ++ [.items, .child kid.1]) kid.1
        (required.contains kid.1) kid.2 = .ok f) kids fs := by
  induction kids generalizing fs with
  | nil => cases fs <;> simp [nestedProperties]
  | cons kid kids ih =>
    simp only [nestedProperties, bind_eq_ok_iff, ih]
    constructor
    · rintro ⟨f, hf, rest, hrest, heq⟩
      cases heq
      exact .cons hf hrest
    · rintro (_ | ⟨hf, hrest⟩)
      exact ⟨_, hf, _, hrest, rfl⟩

theorem properties_eq_ok_iff {required : List String} {kids : Properties} {ps : List Property} :
    properties required kids = .ok ps ↔
      List.Forall₂ (fun kid p => property kid.1 (required.contains kid.1) kid.2 = .ok p)
        kids ps := by
  induction kids generalizing ps with
  | nil => cases ps <;> simp [properties]
  | cons kid kids ih =>
    simp only [properties, bind_eq_ok_iff, ih]
    constructor
    · rintro ⟨p, hp, rest, hrest, heq⟩
      cases heq
      exact .cons hp hrest
    · rintro (_ | ⟨hp, hrest⟩)
      exact ⟨_, hp, _, hrest, rfl⟩

theorem exists_of_mem_nestedProperties {path : Path} {required : List String} {kids : Properties}
    {fs : List NestedProperty} (h : nestedProperties path required kids = .ok fs) :
    ∀ f ∈ fs, ∃ kid ∈ kids, ∃ place,
      nestedProperty place kid.1 (required.contains kid.1) kid.2 = .ok f := by
  intro f hf
  obtain ⟨kid, hkid, hread⟩ := exists_of_mem_forall₂ (nestedProperties_eq_ok_iff.mp h) f hf
  exact ⟨kid, hkid, _, hread⟩

theorem exists_of_mem_properties {required : List String} {kids : Properties} {ps : List Property}
    (h : properties required kids = .ok ps) :
    ∀ p ∈ ps, ∃ kid ∈ kids, property kid.1 (required.contains kid.1) kid.2 = .ok p :=
  exists_of_mem_forall₂ (properties_eq_ok_iff.mp h)

/-- The properties have the names of the children, in their order. -/
theorem map_name_properties {required : List String} {kids : Properties} {ps : List Property}
    (h : properties required kids = .ok ps) : ps.map Property.name = kids.map Prod.fst :=
  (map_eq_map_of_forall₂ (properties_eq_ok_iff.mp h) fun hp =>
    (property_isReadOff hp).name_eq.symm).symm

end Conversion

end ExtractionSchema
