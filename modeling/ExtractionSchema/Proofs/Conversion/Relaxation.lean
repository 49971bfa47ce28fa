import ExtractionSchema.Proofs.Contract.Relaxation
import ExtractionSchema.Proofs.Conversion.ReadOff
import ExtractionSchema.Proofs.Conversion.Rearranged
import ExtractionSchema.Proofs.Wire.NormalForm

/-!
# Trees that are edited as property lists

Reading the property list off a tree and making a tree of it again forgets much: bounds, allowed
values, what is within a plain object, required names without a child, and that elements are
integers. What is forgotten was asked for, and nothing new is asked for, so every record of the
first tree is a record of the second one.

* `Node.Editable` says of a field that a property stands for it.
* `SimpleShape.entails_node` and `Shape.entails_node`: the node that is made of a property asks for
  no more than the node that the property is read off.
* `Property.entails_ofProperties`: the tree that is made of the property list of a tree.
-/

namespace ExtractionSchema

open Wire

open Conversion

/-! ## Fields that properties stand for -/

/-- A field that a property stands for: no array of arrays or of elements of an unknown type, and of
no unknown type that goes by the name of the lists or dates of properties. -/
def Wire.Node.Editable : Node → Prop
  | .array _ (.array _ _) | .array _ (.unknown _ _ _) => False
  | .unknown _ type _ => type ≠ listType ∧ type ≠ dateType
  | _ => True

/-- All fields of the tree and all nested fields of its lists of objects are such fields. -/
def Wire.Tree.Editable (t : Tree) : Prop :=
  ∀ kid ∈ t.properties, kid.2.Editable ∧
    ∀ nested ∈ kid.2.elementProperties?, ∀ field ∈ nested, field.2.Editable

theorem Wire.Node.Editable.type_ne {node : Node} (h : node.Editable) : node.type ≠ listType := by
  cases node with
  | primitive about kind limits => cases kind <;> exact of_decide_eq_true rfl
  | array | object => exact of_decide_eq_true rfl
  | unknown about type raw => exact h.1

theorem isDate_eq_true {about : Presentation} {kind : Primitive} {limits : Bounds}
    (h : (Node.primitive about kind limits).isDate = true) :
    kind = .string ∧ limits.format = some dateFormat := by
  cases kind with
  | string => exact ⟨rfl, of_decide_eq_true h⟩
  | number | integer | boolean => cases h

/-! ## The nodes of simple shapes -/

section Simple

variable {about about' : Presentation} {nullable : Bool}

theorem entails_dateNode {kind : Primitive} {limits : Bounds} (henum : about'.enum = none)
    (hdate : (Node.primitive about kind limits).isDate = true) :
    ((Node.primitive about kind limits).contract nullable).Entails
      ((dateNode about').contract nullable) := by
  obtain ⟨rfl, hformat⟩ := isDate_eq_true hdate
  refine Node.entails_primitive (fun _ hv => hv) ?_ (enumRule_subset_of_none henum nullable)
  intro r hr
  have hdate : r ∈ [Rule.date] := hr
  rw [List.mem_singleton.mp hdate]
  simp [boundRules, hformat]

theorem admits_number_of_integer (v : Value) (h : Kind.integer.admits v = true) :
    Kind.number.admits v = true := by
  cases v with
  | number n => rfl
  | _ => cases h

/-- Elements that are told by the name of an element type are relaxed to its node. -/
theorem ScalarItem.entails_node {kind : Primitive} {limits : Bounds} {item : ScalarItem}
    (h : itemName (.primitive about kind limits) = item.name) :
    ((Node.primitive about kind limits).contract nullable).Entails
      (item.node.contract nullable) := by
  have henum : enumRule {} nullable ⊆ enumRule about nullable :=
    enumRule_subset_of_none rfl nullable
  unfold itemName at h
  dsimp only at h
  split at h
  · rename_i hdate
    cases item with
    | date => exact entails_dateNode rfl hdate
    | string | number | boolean => exact absurd h (by decide)
  · cases kind with
    | string =>
      cases item with
      | string => exact Node.entails_unbounded (fun _ hv => hv) henum
      | number | boolean | date => exact absurd h (by decide)
    | number =>
      cases item with
      | number => exact Node.entails_unbounded (fun _ hv => hv) henum
      | string | boolean | date => exact absurd h (by decide)
    | integer =>
      cases item with
      | number => exact Node.entails_unbounded admits_number_of_integer henum
      | string | boolean | date => exact absurd h (by decide)
    | boolean =>
      cases item with
      | boolean => exact Node.entails_unbounded (fun _ hv => hv) henum
      | string | number | date => exact absurd h (by decide)

/-- The node of a type that is told of a node asks for no more than the node. -/
theorem SimpleShape.entails_node {v : Value} {node : Node} {shape : SimpleShape}
    (hreads : Reads v node) (hnode : node.Editable)
    (hshape : Conversion.typeFields node = shape.typeFields)
    (henum : about'.enum = none) :
    (node.contract nullable).Entails ((shape.node about').reread.contract nullable) := by
  cases node with
  | primitive about kind limits =>
    cases shape with
    | list item => simp [Conversion.typeFields, SimpleShape.typeFields] at hshape
    | plain type =>
      simp only [Conversion.typeFields, SimpleShape.typeFields, List.cons.injEq, Prod.mk.injEq,
        Value.string.injEq, true_and, and_true] at hshape
      by_cases hdate : (Node.primitive about kind limits).isDate = true
      · rw [if_pos hdate] at hshape
        rw [SimpleShape.node, if_pos hshape.symm]
        exact entails_dateNode henum hdate
      · rw [if_neg hdate] at hshape
        have hkind : (SimpleShape.plain type).node about' = .primitive about' kind {} := by
          rw [← hshape]
          cases kind <;> rfl
        rw [hkind]
        exact Node.entails_unbounded (fun _ hv => hv) (enumRule_subset_of_none henum nullable)
  | array about items =>
    cases shape with
    | plain type => simp [Conversion.typeFields, SimpleShape.typeFields] at hshape
    | list item =>
      cases items with
      | object => simp [Conversion.typeFields, SimpleShape.typeFields, Node.isObject] at hshape
      | array | unknown => exact hnode.elim
      | primitive itemsAbout kind limits =>
        have hitem : itemName (.primitive itemsAbout kind limits) = item.name := by
          simpa [Conversion.typeFields, SimpleShape.typeFields, Node.isObject] using hshape
        have hreread : item.node.reread = item.node := by
          cases item <;> rfl
        rw [SimpleShape.node, Node.reread, hreread]
        exact Node.entails_array (ScalarItem.entails_node hitem)
          (enumRule_subset_of_none henum nullable)
  | object about kids required more =>
    cases shape with
    | list item => simp [Conversion.typeFields, SimpleShape.typeFields] at hshape
    | plain type =>
      have htype : type = objectType := by
        simpa [Conversion.typeFields, SimpleShape.typeFields, Node.isDate, Node.type, eq_comm]
          using hshape
      have hread : ((SimpleShape.plain type).node about').reread = .object about' [] [] none := by
        rw [htype]
        rfl
      rw [hread]
      exact Node.entails_object (by simp) (List.nil_subset _)
        (enumRule_subset_of_none henum nullable)
  | unknown about type raw =>
    cases shape with
    | list item => simp [Conversion.typeFields, SimpleShape.typeFields] at hshape
    | plain other =>
      cases hreads with
      | unknown _ _ hname _ hobject _ _ =>
        have htype : other = type := by
          simpa [Conversion.typeFields, SimpleShape.typeFields, Node.isDate, Node.type, eq_comm]
            using hshape
        have hopen : ((SimpleShape.plain other).node about').reread.contract nullable =
            .rules [] := by
          rw [htype, SimpleShape.node, if_neg hnode.2, hname, Node.reread, if_neg hobject,
            Node.contract]
        rw [hopen]
        exact Contract.entails_nil _

end Simple

/-! ## Children made of properties -/

section Children

variable {α : Type} {info : α → FieldInfo} {node : Presentation → α → Node} {ps : List α}
  {kids : Properties} {required : List String}

/-- Every field is read off a child, and its node asks for no more than the child. -/
def RelaxChildren (info : α → FieldInfo) (node : Presentation → α → Node) (ps : List α)
    (kids : Properties) (required : List String) : Prop :=
  ∀ p ∈ ps, ∃ kid ∈ kids, IsReadOff kid.1 (required.contains kid.1) kid.2 (info p) ∧
    ∀ i nullable, (kid.2.contract nullable).Entails
      ((node ((info p).presentation i) p).reread.contract nullable)

theorem RelaxChildren.requiredOf_subset (h : RelaxChildren info node ps kids required) :
    requiredOf info ps ⊆ required := by
  intro name hname
  obtain ⟨p, hp, rfl⟩ := List.mem_map.mp hname
  obtain ⟨hp, hrequired⟩ := List.mem_filter.mp hp
  obtain ⟨kid, -, hinfo, -⟩ := h p hp
  rw [hinfo.required_eq, List.contains_iff_mem] at hrequired
  rwa [hinfo.name_eq]

theorem RelaxChildren.contains_requiredOf (h : RelaxChildren info node ps kids required) :
    ∀ p ∈ ps, (requiredOf info ps).contains (info p).name =
      required.contains (info p).name := by
  intro p hp
  obtain ⟨kid, -, hinfo, -⟩ := h p hp
  rw [Bool.eq_iff_iff, List.contains_iff_mem, List.contains_iff_mem]
  constructor
  · exact fun hmem => h.requiredOf_subset hmem
  · intro hmem
    have hrequired : (info p).required = true := by
      rw [hinfo.required_eq, ← hinfo.name_eq, List.contains_iff_mem]
      exact hmem
    exact List.mem_map.mpr ⟨p, List.mem_filter.mpr ⟨hp, hrequired⟩, rfl⟩

/-- An object whose children are made of the fields asks for no more. -/
theorem RelaxChildren.entails {about about' : Presentation} {more : Option Bool} {nullable : Bool}
    (h : RelaxChildren info node ps kids required) (henum : about'.enum = none) :
    ((Node.object about kids required more).contract nullable).Entails
      ((Node.object about' (rereadAll (childrenFrom info node 0 ps)) (requiredOf info ps)
        none).contract nullable) := by
  refine Node.entails_object ?_ h.requiredOf_subset (enumRule_subset_of_none henum nullable)
  rw [rereadAll_eq_map, List.forall_mem_map]
  intro made hmade
  obtain ⟨p, hp, i, rfl⟩ := exists_of_mem_childrenFrom hmade
  obtain ⟨kid, hkid, hinfo, hentails⟩ := h p hp
  refine ⟨kid, hkid, hinfo.name_eq.symm, ?_⟩
  rw [h.contains_requiredOf p hp, hinfo.name_eq]
  exact hentails i _

end Children

/-! ## Nodes made of properties -/

/-- A type that is told of a node that was read makes no written form unreadable. -/
theorem Conversion.not_mistyping {v : Value} {node : Node} {shape : SimpleShape}
    (hreads : Reads v node) (hshape : typeFields node = shape.typeFields) :
    ¬ Mistyping shape.type := by
  cases shape with
  | list item => exact not_mistyping_listType
  | plain type =>
    cases hreads with
    | array => simp [typeFields, SimpleShape.typeFields] at hshape
    | @primitive entries about kind limits =>
      have htype : (if (Node.primitive about kind limits).isDate then dateType else kind.name) =
          type := by
        simpa [typeFields, SimpleShape.typeFields, Node.type] using hshape
      rw [← htype]
      split
      · exact fun h => absurd h (by unfold Mistyping; decide)
      · exact fun h => absurd h (by cases kind <;> unfold Mistyping <;> decide)
    | object =>
      have htype : objectType = type := by
        simpa [typeFields, SimpleShape.typeFields, Node.isDate, Node.type] using hshape
      rw [← htype]
      exact fun h => absurd h (by unfold Mistyping; decide)
    | @unknown entries about stated raw _ hempty _ harray =>
      have htype : stated = type := by
        simpa [typeFields, SimpleShape.typeFields, Node.isDate, Node.type] using hshape
      rw [← htype]
      exact not_or.mpr ⟨hempty, harray⟩

section Shapes

variable {v : Value} {node : Node} {shape : Shape}

/-- The nested fields of a list of objects are read off the fields of its elements. -/
theorem relaxChildren_nested {about : Presentation} {kids : Properties} {names : List String}
    {more : Option Bool} {path : Path} {fs : List NestedProperty}
    (hreads : Reads v (.object about kids names more)) (hkids : ∀ kid ∈ kids, kid.2.Editable)
    (hfs : nestedProperties path names (orderedProperties kids) = .ok fs) :
    (∀ f ∈ fs, ¬ Mistyping f.shape.type) ∧
      RelaxChildren NestedProperty.info (fun about f => f.shape.node about) fs kids names := by
  have hfields : ∀ f ∈ fs, ∃ kid ∈ kids, ∃ w, Reads w kid.2 ∧
      IsReadOff kid.1 (names.contains kid.1) kid.2 f.info ∧
      typeFields kid.2 = f.shape.typeFields := by
    intro f hf
    obtain ⟨kid, hordered, place, hread⟩ := exists_of_mem_nestedProperties hfs f hf
    have hkid : kid ∈ kids := (orderedProperties_perm kids).mem_iff.mp hordered
    obtain ⟨w, hw⟩ := hreads.exists_of_mem_kids kid hkid
    exact ⟨kid, hkid, w, hw, nestedProperty_tells hread (hkids kid hkid).type_ne⟩
  constructor
  · intro f hf
    obtain ⟨kid, -, w, hw, -, hshape⟩ := hfields f hf
    exact not_mistyping hw hshape
  · intro f hf
    obtain ⟨kid, hkid, w, hw, hinfo, hshape⟩ := hfields f hf
    exact ⟨kid, hkid, hinfo, fun i nullable =>
      f.shape.entails_node hw (hkids kid hkid) hshape rfl⟩

/-- The node of a shape that says what a node says is read again and asks for no more than the
node. -/
theorem Shape.entails_node {about : Presentation} {nullable : Bool} (hreads : Reads v node)
    (hnode : node.Editable)
    (hnested : ∀ nested ∈ node.elementProperties?, ∀ field ∈ nested, field.2.Editable)
    (hshape : Tells node shape) (henum : about.enum = none) :
    (¬ ∃ type ∈ shape.types, Mistyping type) ∧
      (node.contract nullable).Entails ((shape.node about).reread.contract nullable) := by
  cases shape with
  | simple shape =>
    refine ⟨?_, shape.entails_node hreads hnode hshape henum⟩
    rintro ⟨type, hmem, htype⟩
    rw [List.mem_singleton.mp hmem] at htype
    exact not_mistyping hreads hshape htype
  | objects fs =>
    obtain ⟨nodeAbout, itemsAbout, kids, names, more, path, rfl, hfs⟩ := hshape
    cases hreads with
    | array _ _ _ hitems =>
      obtain ⟨htypes, hrelax⟩ := relaxChildren_nested hitems (hnested kids rfl) hfs
      constructor
      · rintro ⟨type, hmem, htype⟩
        rcases List.mem_cons.mp hmem with rfl | hmem
        · exact not_mistyping_listType htype
        · obtain ⟨f, hf, rfl⟩ := List.mem_map.mp hmem
          exact htypes f hf htype
      · exact Node.entails_array (hrelax.entails rfl) (enumRule_subset_of_none henum nullable)

/-- A property that is read off a node of JSON can be written. -/
theorem Property.obstacle_eq_none {name : String} {required : Bool} {p : Property}
    (hjson : node.IsJson) (hnode : node.Editable)
    (hnested : ∀ nested ∈ node.elementProperties?, ∀ field ∈ nested, field.2.Editable)
    (h : property name required node = .ok p) : p.obstacle = none := by
  obtain ⟨hinfo, hshape⟩ := property_tells h hnode.type_ne
  have hown : p.info.obstacle = none := hinfo.obstacle_eq hjson.about
  rw [Property.obstacle, hown]
  cases hp : p.shape with
  | simple shape => rfl
  | objects fs =>
    rw [hp] at hshape
    obtain ⟨about, itemsAbout, kids, names, more, path, rfl, hfs⟩ := hshape
    refine List.findSome?_eq_none_iff.mpr fun f hf => ?_
    obtain ⟨kid, hordered, place, hread⟩ := exists_of_mem_nestedProperties hfs f hf
    have hkid : kid ∈ kids := (orderedProperties_perm kids).mem_iff.mp hordered
    have hkidJson : kid.2.IsJson := allWithin_iff.mp hjson.2.2 kid hkid
    exact (nestedProperty_tells hread (hnested kids rfl kid hkid).type_ne).1.obstacle_eq
      hkidJson.about

end Shapes

/-! ## Trees made of properties -/

/-- The tree that is made of the property list of a tree is written and read, and every record that
the first tree accepts is accepted by the second one. Nothing stands in the way of making it: the
properties have the names of the children, and if the first tree is read from JSON, their examples
can be written. -/
theorem Property.entails_ofProperties {d : Value} {t : Tree} {ps : List Property}
    (h : Tree.ofValue d = .ok t) (hfields : t.Editable) (hps : t.toProperties = .ok ps) :
    (ps.map Property.name).Perm (t.properties.map Prod.fst) ∧
      (d.isJson = true → ∀ p ∈ ps, p.obstacle = none) ∧
      ∃ t', Tree.ofValue (Tree.ofProperties ps).toValue = .ok t' ∧
        ∀ record, validate t.contract record = [] → validate t'.contract record = [] := by
  have hperm := orderedProperties_perm t.properties
  have hreads : Reads d t.root := Tree.reads_of_ofValue h
  have hread : ∀ p ∈ ps, ∃ kid ∈ t.properties,
      property kid.1 (t.required.contains kid.1) kid.2 = .ok p := by
    intro p hp
    obtain ⟨kid, hordered, hread⟩ := exists_of_mem_properties hps p hp
    exact ⟨kid, hperm.mem_iff.mp hordered, hread⟩
  have hentails : ∀ p ∈ ps, ∃ kid ∈ t.properties,
      IsReadOff kid.1 (t.required.contains kid.1) kid.2 p.info ∧
        ∀ about : Presentation, about.enum = none → ∀ nullable,
          (¬ ∃ type ∈ p.shape.types, Mistyping type) ∧
            (kid.2.contract nullable).Entails ((p.shape.node about).reread.contract nullable) := by
    intro p hp
    obtain ⟨kid, hkid, hread⟩ := hread p hp
    obtain ⟨hnode, hnested⟩ := hfields kid hkid
    obtain ⟨w, hw⟩ := hreads.exists_of_mem_kids kid hkid
    obtain ⟨hinfo, hshape⟩ := property_tells hread hnode.type_ne
    exact ⟨kid, hkid, hinfo, fun about henum nullable =>
      p.shape.entails_node hw hnode hnested hshape henum⟩
  have hnames : ps.map Property.name = (orderedProperties t.properties).map Prod.fst :=
    map_name_properties hps
  have hreadable : AllReadable (Tree.ofProperties ps).properties := by
    refine allReadable_iff.mpr (forall_childrenFrom (P := Node.Readable) fun about p hp => ?_)
    obtain ⟨kid, -, -, hkid⟩ := hentails p hp
    exact p.shape.readable_node about (hkid {} rfl false).1
  have hrelax : RelaxChildren Property.info (fun about p => p.shape.node about) ps t.properties
      t.required := by
    intro p hp
    obtain ⟨kid, hmem, hinfo, hkid⟩ := hentails p hp
    exact ⟨kid, hmem, hinfo, fun i nullable => (hkid _ rfl nullable).2⟩
  refine ⟨?_, fun hd p hp => ?_, (Tree.ofProperties ps).reread, Tree.ofValue_toValue hreadable, ?_⟩
  · rw [hnames]
    exact hperm.map Prod.fst
  · obtain ⟨kid, hkid, hread⟩ := hread p hp
    have hjson : t.root.IsJson := Tree.isJson_of_ofValue hd h
    exact Property.obstacle_eq_none (allWithin_iff.mp hjson.2 kid hkid) (hfields kid hkid).1
      (hfields kid hkid).2 hread
  · intro record hvalid
    have hcontract : t.contract.Entails (Tree.ofProperties ps).reread.contract :=
      hrelax.entails rfl
    exact hcontract.validate hvalid

/-- A document of a list of objects whose elements have a bounded field, with allowed values and a
required name without a child. -/
def boundedDocument : Value :=
  .record [("type", .string "object"), ("required", .strings ["rows", "seal"]),
    ("properties", .record [
      ("rows", .record [("type", .string "array"), ("items", .record [
        ("type", .string "object"), ("required", .strings ["pages"]),
        ("additionalProperties", .bool false), ("properties", .record [
          ("pages", .record [("type", .string "array"), ("enum", .list [.list [.int 1]]),
            ("items", .record [("type", .string "integer"), ("minimum", .int 1)])])])])])])]

/-- A record of the document. -/
def boundedRecord : Value :=
  .record [("rows", .list [.record [("pages", .list [.int 1])]]), ("seal", .null)]

/-- The node of the nested field of the document. -/
def boundedPages : Node :=
  .array { enum := some [.list [.int 1]] } (.primitive {} .integer { minimum := some (.int 1) })

/-- The node of the field of the document. -/
def boundedRows : Node :=
  .array {} (.object {} [("pages", boundedPages)] ["pages"] (some false))

/-- The property list of the document. -/
def boundedProperties : List Property := [
  { info := { name := "rows", title := "rows", description := "", importance := none,
              required := true, instructions := none, examples := none },
    shape := .objects [
      { info := { name := "pages", title := "pages", description := "", importance := none,
                  required := true, instructions := none, examples := none },
        shape := .list .number }] }]

theorem properties_boundedRows :
    properties ["rows", "seal"] [("rows", boundedRows)] = .ok boundedProperties := by
  -- there is one child only, so that there is nothing to sort
  have hnested : nestedFields [.child "rows"] boundedRows =
      some <$> nestedProperties [.child "rows"] ["pages"] [("pages", boundedPages)] := by
    rw [boundedRows, nestedFields, orderedProperties, List.mergeSort_singleton]
  rw [properties, property, hnested]
  rfl

theorem Property.entails_ofProperties_bounded :
    ∃ t t', Tree.ofValue boundedDocument = .ok t ∧ t.toProperties = .ok boundedProperties ∧
      Tree.ofValue (Tree.ofProperties boundedProperties).toValue = .ok t' ∧
      validate t'.contract boundedRecord = [] := by
  let t : Tree := ⟨none, {}, [("rows", boundedRows)], ["rows", "seal"], none⟩
  have hread : Tree.ofValue boundedDocument = .ok t := rfl
  have hfields : t.Editable := by
    simp [Tree.Editable, t, boundedRows, boundedPages, Node.Editable, Node.elementProperties?]
  have hps : t.toProperties = .ok boundedProperties := by
    rw [Tree.toProperties, orderedProperties, List.mergeSort_singleton]
    exact properties_boundedRows
  obtain ⟨-, -, t', hread', hentails⟩ := Property.entails_ofProperties hread hfields hps
  exact ⟨t, t', hread, hps, hread', hentails boundedRecord (validate_eq_nil_iff.mpr rfl)⟩

end ExtractionSchema
